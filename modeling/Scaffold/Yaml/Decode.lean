import Scaffold.Registry
import Scaffold.Table
import Scaffold.Yaml.Document

/-!
# Reading records out of YAML documents

A text is any scalar as it is spelled, without regard to its tag. A truth value is one of six
words. A record is a mapping in which no field occurs twice and unknown keys are passed over; in a
table the later of two entries with one name wins, in the place of the earlier one. An empty plain
scalar counts as an empty collection. Every alias that is followed is counted.
-/

namespace Scaffold.Yaml

/-- Reads a part of a document, with the number of aliases that may still be followed. -/
abbrev Reading (α : Type) := Nat → Option (α × Nat)

/-- How a value is read from a node. -/
abbrev Decoder (α : Type) := Node Nat → Reading α

namespace Decoder

variable {α β : Type}

/-- Reads a node that is no alias. -/
def ofContent (anchors : List (Nat × Node Nat)) (read : Node Nat → Reading α) : Decoder α
  | .alias n, budget =>
    match budget, anchors.lookup n with
    | budget + 1, some node => read node budget
    | _, _ => none
  | node, budget => read node budget

/-- Applies a function to what is read; fails where it does. -/
def filterMap (f : α → Option β) (read : Decoder α) : Decoder β := fun n budget =>
  match read n budget with
  | some (a, budget) => (f a).map (·, budget)
  | none => none

/-- Reads a text. -/
def text (anchors : List (Nat × Node Nat)) : Decoder String :=
  ofContent anchors fun
    | .scalar _ _ cs, budget => some (String.ofList cs, budget)
    | _, _ => none

/-- The words for absent values. -/
def isNull (cs : List Char) : Bool :=
  cs == ['~'] || cs == "null".toList || cs == "Null".toList || cs == "NULL".toList

/-- The words for truth values. -/
def bool? (cs : List Char) : Option Bool :=
  if cs == "true".toList || cs == "True".toList || cs == "TRUE".toList then some true
  else if cs == "false".toList || cs == "False".toList || cs == "FALSE".toList then some false
  else none

/-- The expansion of a tag of the common schema. -/
def commonTag (name : String) : List Char := ("tag:yaml.org,2002:" ++ name).toList

/-- Reads a truth value, which is plain or a literal block with a tag that says so. -/
def bool (anchors : List (Nat × Node Nat)) : Decoder Bool :=
  ofContent anchors fun
    | .scalar p style cs, budget =>
      if style == .plain || (style == .literal && p.tag == some (commonTag "bool")) then
        (bool? cs).map (·, budget)
      else none
    | _, _ => none

/-- Reads a value that may be absent: left out, or one of the words for that. -/
def optional (anchors : List (Nat × Node Nat)) (read : Decoder α) : Decoder (Option α) :=
  ofContent anchors fun n budget =>
    let present := (read n budget).map fun (a, budget) => (some a, budget)
    match n with
    | .scalar p .plain cs =>
      match p.tag with
      | some tag =>
        if tag == commonTag "null" then (if isNull cs then some (none, budget) else none)
        else present
      | none => if cs.isEmpty || isNull cs then some (none, budget) else present
    | _ => present

/-- Reads the items of a sequence. -/
def readItems (read : Decoder α) : List (Node Nat) → Reading (List α)
  | [], budget => some ([], budget)
  | n :: rest, budget =>
    match read n budget with
    | none => none
    | some (a, budget) =>
      (readItems read rest budget).map fun (as, budget) => (a :: as, budget)

/-- Reads a list. -/
def list (anchors : List (Nat × Node Nat)) (read : Decoder α) : Decoder (List α) :=
  ofContent anchors fun
    | .sequence _ items, budget => readItems read items budget
    | .scalar _ .plain [], budget => some ([], budget)
    | _, _ => none

/-- Reads the entries of a mapping. -/
def readEntries (anchors : List (Nat × Node Nat)) (read : Decoder α) :
    List (Node Nat × Node Nat) → Reading (List (String × α))
  | [], budget => some ([], budget)
  | (k, v) :: rest, budget =>
    match text anchors k budget with
    | none => none
    | some (name, budget) =>
      match read v budget with
      | none => none
      | some (a, budget) =>
        (readEntries anchors read rest budget).map fun (as, budget) => ((name, a) :: as, budget)

/-- Reads a table. -/
def table (anchors : List (Nat × Node Nat)) (read : Decoder α) : Decoder (Table α) :=
  ofContent anchors fun
    | .mapping _ entries, budget =>
      (readEntries anchors read entries budget).map fun (as, budget) => (.ofList as, budget)
    | .scalar _ .plain [], budget => some (.empty, budget)
    | _, _ => none

/-- Reads a value of a registry: its name, or a tag that is its name beside nothing. -/
def variant [Registry α] (anchors : List (Nat × Node Nat)) : Decoder α :=
  ofContent anchors fun
    | .scalar p style cs, budget =>
      match p.tag with
      | some ('!' :: name) =>
        let name := if name.isEmpty then ['!'] else name
        if style == .plain && (cs.isEmpty || isNull cs) then
          (Registry.find? (String.ofList name)).map (·, budget)
        else none
      | _ => (Registry.find? (String.ofList cs)).map (·, budget)
    | _, _ => none

/-- The fields of a record of type `α`: how the value of each gets into the record. -/
abbrev Fields (α : Type) := List (String × (α → Decoder α))

/-- Puts what is read into a record. -/
def put (read : Decoder β) (set : α → β → α) : α → Decoder α := fun a n budget =>
  (read n budget).map fun (b, budget) => (set a b, budget)

/-- Puts the entries of a mapping into a record, of which `seen` are there. -/
def readFields (anchors : List (Nat × Node Nat)) (fields : Fields α) :
    (seen : List String) → α → List (Node Nat × Node Nat) → Reading α
  | _, a, [], budget => some (a, budget)
  | seen, a, (k, v) :: rest, budget =>
    match text anchors k budget with
    | none => none
    | some (name, budget) =>
      match fields.lookup name with
      | none => readFields anchors fields seen a rest budget
      | some put =>
        if seen.contains name then none
        else
          match put a v budget with
          | none => none
          | some (a, budget) => readFields anchors fields (name :: seen) a rest budget

/-- Reads a record, starting from the one whose fields all have their defaults. -/
def record (anchors : List (Nat × Node Nat)) (fields : Fields α) (start : α) : Decoder α :=
  ofContent anchors fun
    | .mapping _ entries, budget => readFields anchors fields [] start entries budget
    | .scalar _ .plain [], budget => some (start, budget)
    | _, _ => none

/-- Reads a text as a value. -/
def run (read : List (Nat × Node Nat) → Decoder α) (s : String) : Option α :=
  match Document.ofText? s with
  | some d => (read d.anchors d.root d.budget).map Prod.fst
  | none => none

end Decoder

end Scaffold.Yaml
