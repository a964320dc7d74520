import Scaffold.Catalog.Yaml
import Scaffold.Files.Shell
import Scaffold.Settings.Config

/-!
# Configurations and catalogs in files
-/

namespace Scaffold

variable {m : Type → Type} [Monad m] [Shell m]

/-- Loads the configuration from a file. -/
def Config.load (path : String) : m (Except Error Config) := do
  match ← Shell.read (.ofText path) with
  | .ok s => return Config.ofText (.ofPath path) s
  | .error e => return .error (.file e)

/-- Saves a configuration to a file. -/
def Config.save (path : String) (c : Config) : m (Except Error Unit) := do
  return (← Shell.write (.ofText path) (c.text (.ofPath path))).mapError .file

/-- Loads the catalog from a file. -/
def Catalog.load (path : String) : m (Except Error Catalog) := do
  match ← Shell.read (.ofText path) with
  | .ok s => return Catalog.ofYamlFile path s
  | .error e => return .error (.file e)

end Scaffold
