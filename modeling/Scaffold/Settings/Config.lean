import Scaffold.Error
import Scaffold.Settings.Options
import Scaffold.Toml.Document
import Scaffold.Yaml.Decode
import Scaffold.Yaml.Write

/-!
# Configuration files

A configuration holds the options that count where a request leaves them out, and the path of a
catalog. It is kept in YAML, or in TOML if the file is named so. `Config.ofText` and `Config.text`
are the two directions.
-/

namespace Scaffold

/-- What a configuration file can set. -/
structure Config where
  environment : Option String := none
  typesImportPath : Option String := none
  clientImportPath : Option String := none
  framework : Option String := none
  outputDir : Option String := none
  catalogPath : Option String := none
  deriving DecidableEq, Repr

namespace Config

open Json (DecodeError RecordForm)
open Yaml (Decoder Node)

/-- The settings that are options of commands. -/
def options (c : Config) : Options where
  environment := c.environment
  typesImportPath := c.typesImportPath
  clientImportPath := c.clientImportPath
  framework := c.framework
  outputDir := c.outputDir

/-- The settings with their names, in the order of a file. -/
def entries (c : Config) : List (String × Option String) := [
  ("environment", c.environment), ("types_import_path", c.typesImportPath),
  ("client_import_path", c.clientImportPath), ("framework", c.framework),
  ("output_dir", c.outputDir), ("catalog_path", c.catalogPath)]

/-- How a setting gets into a configuration, under its name. -/
def fields : List (String × (Config → Option String → Config)) := [
  ("environment", fun c environment => { c with environment }),
  ("types_import_path", fun c typesImportPath => { c with typesImportPath }),
  ("client_import_path", fun c clientImportPath => { c with clientImportPath }),
  ("framework", fun c framework => { c with framework }),
  ("output_dir", fun c outputDir => { c with outputDir }),
  ("catalog_path", fun c catalogPath => { c with catalogPath })]

/-- A configuration as a record. -/
def form : RecordForm Config where
  name := "Config"
  fields := fields.map fun (name, put) => (name, fun c j => j.toText?.map (put c))

/-- Reads a configuration from a JSON value. -/
def ofJson (j : Json) : Except DecodeError Config := form.read {} j

/-- The JSON form of a configuration, every setting present. -/
def toJson (c : Config) : Json :=
  .object (c.entries.map fun (name, value) => (name, .ofText? value))

/-! ## Files -/

/-- The formats of configuration files. -/
inductive Format where
  | yaml
  | toml
  deriving DecidableEq, Repr

/-- The format of the file at a path: TOML if its name ends in `.toml` behind other characters. -/
def Format.ofPath (path : String) : Format :=
  let name := (path.toList.reverse.takeWhile (· != '/')).reverse
  let ending := ".toml".toList
  if ending.isSuffixOf name && ending.length < name.length then .toml else .yaml

/-- Reads a configuration from a YAML document. -/
def decoder (anchors : List (Nat × Node Nat)) : Decoder Config :=
  Decoder.record anchors
    (fields.map fun (name, set) =>
      (name, Decoder.put (.optional anchors (.text anchors)) set)) {}

/-- Puts the entries of a TOML document into a configuration; a setting is a text, and other keys
are passed over. -/
def ofEntries? : Config → Toml.Entries → Option Config
  | c, [] => some c
  | c, (name, item) :: rest =>
    match fields.lookup name, item with
    | none, _ => ofEntries? c rest
    | some set, .text s => ofEntries? (set c (some s)) rest
    | some _, _ => none

/-- Reads a configuration. -/
def ofText (f : Format) (s : String) : Except Error Config :=
  match f with
  | .yaml => (Decoder.run decoder s).elim (.error .yaml) .ok
  | .toml => ((Toml.Document.ofText? s).bind (ofEntries? {})).elim (.error .toml) .ok

/-- The text of a configuration file. -/
def text (f : Format) (c : Config) : String :=
  match f with
  | .yaml => Yaml.write c.entries
  | .toml => Toml.write c.entries

end Config

end Scaffold
