import Scaffold.Error

/-!
# Failures of the program

Why the program gives up, and what it then says.
-/

namespace Scaffold

/-- Why the program gives up. -/
inductive Failure where
  /-- The configuration cannot be loaded. -/
  | config (path : String)
  /-- The catalog cannot be loaded. -/
  | catalog (path : String)
  /-- The options in JSON are none. -/
  | options
  /-- The generator gives up. -/
  | generator (e : Error)
  /-- A file is there already and must not be overwritten. -/
  | fileThere (path : String)
  /-- A directory cannot be made. -/
  | directory (path : String)
  /-- A file cannot be written. -/
  | write (path : String)

/-- The wording of a failure. -/
def Failure.message : Failure → String
  | .config path => "Failed to load config file " ++ path
  | .catalog path => "Failed to load catalog " ++ path
  | .options => "--options must be a JSON object"
  | .generator e => e.message
  | .fileThere path => path ++ " already exists; pass --force to overwrite it"
  | .directory path => "Failed to create directory " ++ path
  | .write path => "Failed to write " ++ path

end Scaffold
