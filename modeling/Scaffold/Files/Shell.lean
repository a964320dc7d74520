import Scaffold.Files.Tree

/-!
# Shells

A shell is what a command line program sees of its surroundings: files and directories, and a place
to print to. `Workspace` is a shell that is a value, for reasoning and for tests; the program itself
runs in one that acts on the real files.
-/

namespace Scaffold

/-- The operations on the surroundings of a program. -/
class Shell (m : Type → Type) where
  /-- The text of a file. -/
  read : Path → m (Except FileError String)
  /-- Whether there is a file or a directory. -/
  isThere : Path → m Bool
  /-- Whether there is a directory. -/
  isDirectory : Path → m Bool
  /-- Makes a directory in one that is there. -/
  makeDirectory : Path → m (Except FileError Unit)
  /-- Writes a text to a file, which may be new. -/
  write : Path → String → m (Except FileError Unit)
  /-- Prints a text. -/
  print : String → m Unit

namespace Shell

variable {m : Type → Type} [Monad m] [Shell m]

/-- A program that may give up acts on the same surroundings. -/
instance {ε : Type} : Shell (ExceptT ε m) where
  read p := ExceptT.lift (read p)
  isThere p := ExceptT.lift (isThere p)
  isDirectory p := ExceptT.lift (isDirectory p)
  makeDirectory p := ExceptT.lift (makeDirectory p)
  write p s := ExceptT.lift (write p s)
  print s := ExceptT.lift (print s)

/-- Makes a directory where there may be one already. -/
def ensureDirectory (p : Path) : m (Except FileError Unit) := do
  match ← makeDirectory p with
  | .ok () => return .ok ()
  | .error e => return if ← isDirectory p then .ok () else .error e

/-- Makes a directory and all directories on the way to it that are missing. The way is gone back
only as far as directories are missing. -/
def makeDirectories (p : Path) : m (Except FileError Unit) := do
  if p.text.isEmpty then return .ok ()
  match ← ensureDirectory p with
  | .error .notFound =>
    match _h : p.parent? with
    | none => return .error .notFound
    | some q =>
      match ← makeDirectories q with
      | .ok () => ensureDirectory p
      | .error e => return .error e
  | result => return result
  termination_by p.depth
  decreasing_by exact Path.depth_parent? _h

end Shell

/-- A file tree, and what has been printed. -/
structure Workspace where
  tree : FileTree
  printed : String := ""

namespace Workspace

/-- Changes the tree if an operation on it succeeds. -/
def change (f : FileTree → Except FileError FileTree) : StateM Workspace (Except FileError Unit) :=
  fun w =>
    match f w.tree with
    | .ok tree => (.ok (), { w with tree })
    | .error e => (.error e, w)

instance : Shell (StateM Workspace) where
  read p := fun w => (w.tree.read p, w)
  isThere p := fun w => (w.tree.isThere p, w)
  isDirectory p := fun w => (w.tree.isDirectory p, w)
  makeDirectory p := change (·.makeDirectory p)
  write p s := change (·.write p s)
  print s := fun w => ((), { w with printed := w.printed ++ s })

end Workspace

end Scaffold
