import Scaffold.Catalog.Error
import Scaffold.Files.Error
import Scaffold.Settings.Error
import Scaffold.Template.Builtin

/-!
# Errors

Everything that loading a catalog, configuring the generator and running a command can fail with.
-/

namespace Scaffold

/-- Why the generator gives up. -/
inductive Error where
  | argument (e : ArgumentError)
  | unknownOperation (name : String)
  | catalog (e : CatalogError)
  /-- A file that should hold a catalog cannot be read as one. -/
  | catalogFile (path : String)
  | template (e : Template.RenderError)
  | file (e : FileError)
  /-- A text is no YAML, or does not have the expected structure. -/
  | yaml
  /-- A text is no TOML, or does not have the expected structure. -/
  | toml

/-- The wording of an error; one about the structure of a text has none. -/
def Error.message : Error → String
  | .argument e => "Invalid argument: " ++ e.message
  | .unknownOperation name => "Unknown operation: " ++ name
  | .catalog e => "Catalog error: " ++ e.message
  | .catalogFile path => "Catalog error: Failed to parse catalog at " ++ path
  | .template e => "Template error: " ++ e.message
  | .file e => "I/O error: " ++ e.message
  | .yaml => "YAML parsing error"
  | .toml => "TOML parsing error"

end Scaffold
