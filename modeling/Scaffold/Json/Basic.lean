import Scaffold.Number.Binary64

/-!
# JSON values

A JSON value, with integers kept apart from other numbers. The members of an object are a list;
`Json.ofMembers` puts them in the order of their names, of several with one name keeping the last.
-/

namespace Scaffold

/-- A JSON number: an integer of at most 64 bits, or a double. -/
inductive JsonNumber where
  | integer (i : Int)
  | float (x : Binary64)
  deriving DecidableEq, Repr

/-- A JSON value. -/
inductive Json where
  | null
  | bool (b : Bool)
  | number (n : JsonNumber)
  | string (s : String)
  | array (items : List Json)
  | object (members : List (String × Json))

namespace Json

instance : Inhabited Json := ⟨.null⟩

/-- Inserts a member into a list that is in the order of names. -/
def insertMember (name : String) (value : Json) : List (String × Json) → List (String × Json)
  | [] => [(name, value)]
  | (k, v) :: rest =>
    if name = k then (k, value) :: rest
    else if name < k then (name, value) :: (k, v) :: rest
    else (k, v) :: insertMember name value rest

/-- The object with the given members, in the order of their names. -/
def ofMembers (members : List (String × Json)) : Json :=
  .object (members.foldl (fun acc m => insertMember m.1 m.2 acc) [])

/-- The member called `name`. -/
def member? (name : String) : Json → Option Json
  | .object members => members.lookup name
  | _ => none

/-- A text, or null. -/
def ofText? : Option String → Json
  | some s => .string s
  | none => .null

/-- A list of texts. -/
def ofTexts (l : List String) : Json := .array (l.map .string)

end Json

end Scaffold
