import Scaffold.Files.Error
import Scaffold.Files.Path

/-!
# File trees

A file tree records what stands at every place that is in use: a directory or a file. A place is
named by the names on the way from the root, without detours. `FileTree.find` follows a path from
the working directory, step by step: every step but the last has to reach a directory.
-/

namespace Scaffold

/-- What a file holds: a text, or bytes that are none. -/
inductive Content where
  | text (s : String)
  | bytes (b : List UInt8)
  deriving DecidableEq, Repr

/-- What stands at a place. -/
inductive FileTree.Entry where
  | directory
  | file (content : Content)
  deriving DecidableEq, Repr

/-- A tree of directories and files, and the directory where relative paths start. -/
structure FileTree where
  working : List String
  entries : List (List String × FileTree.Entry)

namespace FileTree

/-- What stands at a place; the root is always a directory. -/
def get? (t : FileTree) (place : List String) : Option Entry :=
  if place.isEmpty then some .directory else t.entries.lookup place

/-- The tree with another entry at a place. -/
def put (t : FileTree) (place : List String) (e : Entry) : FileTree where
  working := t.working
  entries := (place, e) :: t.entries.filter (·.1 != place)

/-- Where a path leads. -/
inductive Found where
  | directory (place : List String)
  | file (place : List String) (content : Content)
  /-- A place that is not in use, in a directory; `slash` tells whether the path ends in one. -/
  | free (place : List String) (slash : Bool)
  deriving DecidableEq, Repr

/-- The length in bytes beyond which a name is refused, and the one at and beyond which a path is
refused. -/
def maxName : Nat := 255
def maxPath : Nat := 4096

/-- Follows the pieces of a path from a directory. -/
def walk (t : FileTree) : (place : List String) → (pieces : List String) → Except FileError Found
  | place, [] => .ok (.directory place)
  | place, piece :: rest =>
    if Path.isIdle piece then walk t place rest
    else if piece == ".." then walk t place.dropLast rest
    else if maxName < piece.utf8ByteSize then .error .nameTooLong
    else
      match t.get? (place ++ [piece]) with
      | some .directory => walk t (place ++ [piece]) rest
      | some (.file content) =>
        if rest.isEmpty then .ok (.file (place ++ [piece]) content) else .error .notDirectory
      | none =>
        if rest.all (· == "") then .ok (.free (place ++ [piece]) (!rest.isEmpty))
        else .error .notFound

/-- Follows a path. -/
def find (t : FileTree) (p : Path) : Except FileError Found :=
  let text := p.text
  if text.toList.contains '\x00' then .error .invalidPath
  else if text.isEmpty then .error .notFound
  else if maxPath ≤ text.utf8ByteSize then .error .nameTooLong
  else t.walk (if p.start = .root then [] else t.working) p.pieces

/-- The text of a file. -/
def read (t : FileTree) (p : Path) : Except FileError String :=
  match t.find p with
  | .ok (.file _ (.text s)) => .ok s
  | .ok (.file _ (.bytes _)) => .error .notText
  | .ok (.directory _) => .error .isDirectory
  | .ok (.free _ _) => .error .notFound
  | .error e => .error e

/-- Whether there is a file or a directory. -/
def isThere (t : FileTree) (p : Path) : Bool :=
  match t.find p with
  | .ok (.file _ _) | .ok (.directory _) => true
  | _ => false

/-- Whether there is a directory. -/
def isDirectory (t : FileTree) (p : Path) : Bool :=
  match t.find p with
  | .ok (.directory _) => true
  | _ => false

/-- Makes a directory in one that is there. -/
def makeDirectory (t : FileTree) (p : Path) : Except FileError FileTree :=
  match t.find p with
  | .ok (.free place _) => .ok (t.put place .directory)
  | .ok _ => .error .fileExists
  | .error e => .error e

/-- Writes a text to a file, which may be new. -/
def write (t : FileTree) (p : Path) (s : String) : Except FileError FileTree :=
  match t.find p with
  | .ok (.file place _) | .ok (.free place false) => .ok (t.put place (.file (.text s)))
  | .ok _ => .error .isDirectory
  | .error e => .error e

/-! ## Whole trees -/

/-- The tree that holds nothing but its working directory. -/
def empty : FileTree where
  working := ["work"]
  entries := [(["work"], .directory)]

/-- The tree with directories along a way. -/
def addDirectories : FileTree → (place : List String) → (names : List String) → FileTree
  | t, _, [] => t
  | t, place, name :: rest =>
    addDirectories (t.put (place ++ [name]) .directory) (place ++ [name]) rest

/-- The tree with a file below the working directory, and the directories on the way to it. -/
def addFile (t : FileTree) (names : List String) (content : Content) : FileTree :=
  (t.addDirectories t.working names.dropLast).put (t.working ++ names) (.file content)

/-- The files below the working directory with their paths from there, ordered by path. -/
def files (t : FileTree) : List (String × Content) :=
  let found := t.entries.filterMap fun (place, e) =>
    match e with
    | .directory => none
    | .file content =>
      if t.working.isPrefixOf place then
        some ("/".intercalate (place.drop t.working.length), content)
      else none
  found.mergeSort fun a b => a.1 ≤ b.1

end FileTree

end Scaffold
