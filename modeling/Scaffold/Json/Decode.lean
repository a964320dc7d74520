import Scaffold.Json.Basic
import Scaffold.Registry
import Scaffold.Text.Hidden
import Scaffold.TypeExpr.Parse

/-!
# Reading records out of JSON values

A record is an object that holds its fields under their names, in any order and among other
members, or an array of its fields in declaration order, in which trailing fields may be missing.
A value of a registry is its name, or an object with that name as the only key and null beside
it. The first fault in the order of reading is reported.
-/

namespace Scaffold.Json

/-- Why a value does not have the expected form. -/
inductive DecodeError where
  /-- A value of another kind. -/
  | invalidType (found : Json) (expected : String)
  /-- An object that should name one alternative and does not have exactly one key. -/
  | severalKeys
  /-- A name that is none of the alternatives. -/
  | unknownVariant (name : String) (expected : List String)
  /-- A record without a field that it has to have. -/
  | missingField (name : String)
  /-- An array that ends before a field that the record has to have. -/
  | tooShort (length : Nat) (record : String) (fields : Nat)
  /-- An array with more items than the record has fields. -/
  | tooLong (length : Nat)
  /-- A text that is no type expression. -/
  | typeExpr (e : TypeExprError)

/-- The description of the kind of a value, with the value itself if it is short. -/
def describe : Json → String
  | .null => "null"
  | .bool true => "boolean `true`"
  | .bool false => "boolean `false`"
  | .number (.integer i) => "integer `" ++ toString i ++ "`"
  | .number (.float x) =>
    let text := x.plain
    "floating point `" ++ (if text.toList.contains '.' then text else text ++ ".0") ++ "`"
  | .string s => "string " ++ Text.display s
  | .array _ => "sequence"
  | .object _ => "map"

/-- The enumeration of the alternatives. -/
def alternatives (names : List String) : String :=
  let quoted := names.map fun n => "`" ++ n ++ "`"
  match quoted with
  | [a] => a
  | [a, b] => a ++ " or " ++ b
  | _ => "one of " ++ ", ".intercalate quoted

/-- The wording of an error. -/
def DecodeError.message : DecodeError → String
  | .invalidType found expected => "invalid type: " ++ describe found ++ ", expected " ++ expected
  | .severalKeys => "invalid value: map, expected map with a single key"
  | .unknownVariant name expected =>
    "unknown variant `" ++ name ++ "`, expected " ++ alternatives expected
  | .missingField name => "missing field `" ++ name ++ "`"
  | .tooShort length record fields =>
    "invalid length " ++ toString length ++ ", expected struct " ++ record ++ " with " ++
      toString fields ++ " elements"
  | .tooLong length =>
    "invalid length " ++ toString length ++ ", expected fewer elements in array"
  | .typeExpr e => "Catalog error: " ++ e.message

/-- Reads a text. -/
def toText : Json → Except DecodeError String
  | .string s => .ok s
  | j => .error (.invalidType j "a string")

/-- Reads a truth value. -/
def toBool : Json → Except DecodeError Bool
  | .bool b => .ok b
  | j => .error (.invalidType j "a boolean")

/-- Reads a text or null. -/
def toText? : Json → Except DecodeError (Option String)
  | .null => .ok none
  | j => j.toText.map some

/-- The value of a registry that a name stands for. -/
def variant {α : Type} [Registry α] (name : String) : Except DecodeError α :=
  match Registry.find? name with
  | some a => .ok a
  | none => .error (.unknownVariant name ((Registry.all (α := α)).map Registry.name))

/-- Reads a value of a registry. -/
def toVariant {α : Type} [Registry α] : Json → Except DecodeError α
  | .string name => variant name
  | .object [(name, .null)] => variant name
  | .object [(name, other)] =>
    match (variant name : Except DecodeError α) with
    | .ok _ => .error (.invalidType other "unit")
    | .error e => .error e
  | .object _ => .error .severalKeys
  | j => .error (.invalidType j "string or map")

/-- Reads a type expression. -/
def toTypeExpr (j : Json) : Except DecodeError TypeExpr :=
  match j.toText with
  | .error e => .error e
  | .ok s =>
    match TypeExpr.parse s with
    | .ok t => .ok t
    | .error e => .error (.typeExpr e)

/-- How a record of type `α` is read: its name and, for every field in declaration order, the
name of the field and how its value gets into the record. -/
structure RecordForm (α : Type) where
  name : String
  fields : List (String × (α → Json → Except DecodeError α))

namespace RecordForm

variable {α : Type}

/-- Puts the members of an object into a record, in their order; members that are no fields are
passed over. -/
def readMembers (form : RecordForm α) : α → List (String × Json) → Except DecodeError α
  | a, [] => .ok a
  | a, (name, j) :: rest =>
    match form.fields.lookup name with
    | none => readMembers form a rest
    | some put =>
      match put a j with
      | .error e => .error e
      | .ok b => readMembers form b rest

/-- Puts the items of an array into a record, field by field. -/
def readItems : List (String × (α → Json → Except DecodeError α)) → α → List Json →
    Except DecodeError α
  | (_, put) :: fields, a, j :: rest =>
    match put a j with
    | .error e => .error e
    | .ok b => readItems fields b rest
  | _, a, _ => .ok a

/-- Reads a record, starting from the one whose fields all have their defaults. -/
def read (form : RecordForm α) (start : α) : Json → Except DecodeError α
  | .object members => form.readMembers start members
  | .array items =>
    match readItems form.fields start items with
    | .error e => .error e
    | .ok a => if form.fields.length < items.length then .error (.tooLong items.length) else .ok a
  | j => .error (.invalidType j ("struct " ++ form.name))

/-- Reads a record whose first field, called `field`, has no default; `complete` turns what was
read into the record if that field was there. -/
def readRequiring {β : Type} (form : RecordForm α) (field : String) (start : α)
    (complete : α → Option β) (j : Json) : Except DecodeError β :=
  match form.read start j with
  | .error e => .error e
  | .ok a =>
    match complete a, j with
    | some b, _ => .ok b
    | none, .array items => .error (.tooShort items.length form.name form.fields.length)
    | none, _ => .error (.missingField field)

end RecordForm

end Scaffold.Json
