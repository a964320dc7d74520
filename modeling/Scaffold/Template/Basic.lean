import Scaffold.Json.Write

/-!
# Templates

A template is a list of parts: texts, printed values, choices and repetitions. Values are found by
paths in the scopes around a part: the variable of each enclosing repetition, innermost first, and
the members of the context. `Template.render` fails where a value is printed, compared or repeated
over that is not there; a choice by a value alone takes an absent one as false.
-/

namespace Scaffold.Template

/-- A variable and the members to follow from there. -/
abbrev Path := List String

/-- What decides a choice. -/
inductive Condition where
  /-- The value is there, and neither null, false nor empty. -/
  | holds (path : Path)
  /-- The value is this text. -/
  | equals (path : Path) (text : String)
  deriving DecidableEq, Repr

/-- A part of a template. -/
inductive Part where
  | text (s : String)
  /-- The value at a path. -/
  | value (path : Path)
  /-- The parts of the first alternative if the condition holds, otherwise of the second. -/
  | choice (condition : Condition) (yes no : List Part)
  /-- The parts of the body once for every item of the array at a path. -/
  | each (item : String) (path : Path) (body : List Part)

/-- Variables with their values. -/
abbrev Scope := List (String × Json)

/-- The value that the members of a path lead to. -/
def follow? : List String → Json → Option Json
  | [], j => some j
  | name :: rest, j =>
    match j.member? name with
    | some k => follow? rest k
    | none => none

/-- The value at a path in one scope. -/
def Scope.find? (scope : Scope) : Path → Option Json
  | [] => none
  | name :: rest =>
    match scope.lookup name with
    | some j => follow? rest j
    | none => none

/-- The value at a path in the innermost scope that has one. -/
def find? (scopes : List Scope) (path : Path) : Option Json :=
  scopes.findSome? fun scope => scope.find? path

/-- Whether a value counts as true. -/
def isTrue : Json → Bool
  | .null => false
  | .bool b => b
  | .number (.integer i) => i != 0
  | .number (.float x) => !x.isZero
  | .string s => s != ""
  | .array items => !items.isEmpty
  | .object members => !members.isEmpty

mutual

/-- A value as it is printed. -/
def print : Json → String
  | .null => ""
  | .bool true => "true"
  | .bool false => "false"
  | .number n => Json.writeNumber n
  | .string s => s
  | .array items => "[" ++ ", ".intercalate (printItems items) ++ "]"
  | .object _ => "[object]"

/-- The items of an array as they are printed. -/
def printItems : List Json → List String
  | [] => []
  | j :: rest => print j :: printItems rest

end

/-- The items that a value can be repeated over: those of an array, or the characters of a
text. -/
def items? : Json → Option (List Json)
  | .array items => some items
  | .string s => some (s.toList.map fun c => .string (String.singleton c))
  | _ => none

/-- Whether a condition holds; nothing if it compares a value that is not there. -/
def Condition.decide? (scopes : List Scope) : Condition → Option Bool
  | .holds path => some ((find? scopes path).any isTrue)
  | .equals path text =>
    (find? scopes path).map fun
      | .string s => s == text
      | _ => false

/-- The texts of a list one after the other; nothing if one is missing. -/
def concat? : List (Option String) → Option String
  | [] => some ""
  | none :: _ => none
  | some s :: rest => (concat? rest).map (s ++ ·)

mutual

/-- The text of a part. -/
def Part.render? (scopes : List Scope) : Part → Option String
  | .text s => some s
  | .value path => (find? scopes path).map print
  | .choice condition yes no =>
    match condition.decide? scopes with
    | some true => renderParts? scopes yes
    | some false => renderParts? scopes no
    | none => none
  | .each name path body =>
    match (find? scopes path).bind items? with
    | some items => concat? (items.map fun j => renderParts? ([(name, j)] :: scopes) body)
    | none => none

/-- The text of parts one after the other. -/
def renderParts? (scopes : List Scope) : List Part → Option String
  | [] => some ""
  | p :: rest =>
    match p.render? scopes, renderParts? scopes rest with
    | some s, some t => some (s ++ t)
    | _, _ => none

end

end Scaffold.Template
