import Scaffold.Json.Write
import Scaffold.Table

/-!
# Artifacts

What a command generates: one named file, or a table of files.
-/

namespace Scaffold

/-- Generated files. -/
inductive Artifact where
  | single (name content : String)
  | files (files : Table String)
  deriving DecidableEq

namespace Artifact

/-- The files with their contents, in order. -/
def entries : Artifact → List (String × String)
  | single name content => [(name, content)]
  | files t => t.entries

/-- The names of the files, in order. -/
def names (a : Artifact) : List String := a.entries.map Prod.fst

/-- The content of a file. -/
def get? (a : Artifact) (name : String) : Option String := a.entries.lookup name

/-- The number of files. -/
def size (a : Artifact) : Nat := a.entries.length

/-- Whether there is no file. -/
def isEmpty (a : Artifact) : Bool := a.entries.isEmpty

/-- The JSON form of an artifact. -/
def toJson : Artifact → Json
  | single name content =>
    .object [("kind", .string "single"), ("fileName", .string name), ("content", .string content)]
  | files t =>
    .object [("kind", .string "files"),
      ("files", .object (t.entries.map fun (name, content) => (name, .string content)))]

end Artifact

end Scaffold
