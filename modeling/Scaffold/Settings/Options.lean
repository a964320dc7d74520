import Scaffold.Json.Written
import Scaffold.Settings.Error

/-!
# Options

The options of a command, each of which may be left out. They are plain texts until the command
that needs one reads it, so an unknown framework fails the generation of routes alone.
-/

namespace Scaffold

/-- The options of a command. -/
structure Options where
  environment : Option String := none
  typesImportPath : Option String := none
  clientImportPath : Option String := none
  framework : Option String := none
  outputDir : Option String := none
  deriving DecidableEq, Repr

namespace Options

open Json (DecodeError RecordForm Written)

instance : Inhabited Options := ⟨{}⟩

/-- The environment that is chosen, or production. -/
def readEnvironment (o : Options) : Except ArgumentError Environment :=
  match o.environment with
  | none => .ok default
  | some name =>
    match Environment.read? name with
    | some e => .ok e
    | none => .error (.unknownEnvironment name)

/-- The framework that is chosen. -/
def readFramework (o : Options) : Except ArgumentError Framework :=
  match o.framework with
  | none => .error .noFramework
  | some name =>
    match Framework.read? name with
    | some f => .ok f
    | none => .error (.unknownFramework name)

/-- Where clients import the domain types from. -/
def typesPath (o : Options) : String := o.typesImportPath.getD "./types"

/-- The options with those that are left out taken from others. -/
def withDefaults (o defaults : Options) : Options where
  environment := o.environment <|> defaults.environment
  typesImportPath := o.typesImportPath <|> defaults.typesImportPath
  clientImportPath := o.clientImportPath <|> defaults.clientImportPath
  framework := o.framework <|> defaults.framework
  outputDir := o.outputDir <|> defaults.outputDir

/-- The options with their names, in declaration order. -/
def fields : List (String × (Options → Option String → Options)) := [
  ("environment", fun o environment => { o with environment }),
  ("typesImportPath", fun o typesImportPath => { o with typesImportPath }),
  ("clientImportPath", fun o clientImportPath => { o with clientImportPath }),
  ("framework", fun o framework => { o with framework }),
  ("outputDir", fun o outputDir => { o with outputDir })]

/-- The options as a record. -/
def form : RecordForm Options where
  name := "GenerateOptions"
  fields := fields.map fun (name, put) => (name, fun o j => j.toText?.map (put o))

/-- Reads options. -/
def ofJson (j : Json) : Except DecodeError Options := form.read {} j

/-- The JSON form of options, every option present. -/
def toJson (o : Options) : Json := .object [
  ("environment", .ofText? o.environment), ("typesImportPath", .ofText? o.typesImportPath),
  ("clientImportPath", .ofText? o.clientImportPath), ("framework", .ofText? o.framework),
  ("outputDir", .ofText? o.outputDir)]

/-- Reads the value of an option in a JSON text. -/
def optionOfWritten? : Written → Option (Option String)
  | .null => some none
  | .string units => (Json.textOfUnits? units).map some
  | _ => none

/-- Puts the members of an object in a JSON text into options. Every key is a text; the value of a
key that is no option may be anything, and an option must not be there twice. -/
def ofWrittenMembers? : List String → Options → List (List Nat × Written) → Option Options
  | _, o, [] => some o
  | seen, o, (units, w) :: rest => do
    let name ← Json.textOfUnits? units
    match fields.lookup name with
    | none => ofWrittenMembers? seen o rest
    | some put =>
      if seen.contains name then none
      else ofWrittenMembers? (name :: seen) (put o (← optionOfWritten? w)) rest

/-- Puts the items of an array in a JSON text into options. -/
def ofWrittenItems? : List (String × (Options → Option String → Options)) → Options →
    List Written → Option Options
  | _, o, [] => some o
  | [], _, _ :: _ => none
  | (_, put) :: fields, o, w :: rest => do
    ofWrittenItems? fields (put o (← optionOfWritten? w)) rest

/-- Reads options from the structure of a JSON text. -/
def ofWritten? : Written → Option Options
  | .object members => ofWrittenMembers? [] {} members
  | .array items => ofWrittenItems? fields {} items
  | _ => none

/-- Reads options from a JSON text. -/
def ofText? (s : String) : Option Options := (Written.read? s).bind ofWritten?

end Options

end Scaffold
