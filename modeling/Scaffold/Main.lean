import Scaffold.CommandLine.Run

/-!
# The program

The shell that acts on the real files, and the entry point of the program.
-/

namespace Scaffold

/-- The reason for which an operation on a file fails. -/
def FileError.ofSystem : IO.Error → FileError
  | .noFileOrDirectory .. | .noSuchThing .. => .notFound
  | .alreadyExists .. => .fileExists
  | .inappropriateType .. => .isDirectory
  | .userError _ => .notText
  | _ => .refused

/-- Carries out an operation on a file. -/
def tryFile {α : Type} (x : IO α) : IO (Except FileError α) := do
  match ← x.toBaseIO with
  | .ok a => return .ok a
  | .error e => return .error (.ofSystem e)

instance : Shell IO where
  read p := tryFile (IO.FS.readFile p.text)
  isThere p := do
    return (← tryFile (IO.FS.Handle.mk p.text IO.FS.Mode.read)).isOk
  isDirectory p := do
    match ← tryFile (IO.FS.Handle.mk p.text IO.FS.Mode.read) with
    | .ok h => return !(← tryFile (h.read 1)).isOk
    | .error _ => return false
  makeDirectory p := tryFile (IO.FS.createDir p.text)
  write p s := tryFile (IO.FS.writeFile p.text s)
  print s := IO.print s

end Scaffold

open Scaffold in
/-- Carries out what the arguments ask for; a failure is described on the error output. -/
def main (args : List String) : IO UInt32 := do
  let developmentUrl ← IO.getEnv developmentUrlVariable
  let exit ← (Request.ofArguments args).run developmentUrl
  if let some failure := exit.failure then IO.eprintln ("Error: " ++ failure.message)
  return exit.code.toUInt32
