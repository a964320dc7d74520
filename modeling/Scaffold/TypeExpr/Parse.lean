import Scaffold.Text.Blank
import Scaffold.TypeExpr.Basic

/-!
# Reading type expressions

`TypeExpr.parse` reads the spelling of a type expression. Blanks around every layer are dropped;
an array suffix binds closer than the generic form, so `Array<User>[]` is an array of arrays; what
begins or ends with a brace has to do both.
-/

namespace Scaffold

/-- Why a text is no type expression. -/
inductive TypeExprError where
  /-- Nothing but blanks stands where a type is expected. -/
  | empty
  /-- A generic array that no `>` closes. -/
  | unterminatedArray (text : String)
  /-- A brace at one end only. -/
  | unbalancedBraces (text : String)
  deriving DecidableEq, Repr

/-- The wording of an error. -/
def TypeExprError.message : TypeExprError → String
  | .empty => "empty type expression"
  | .unterminatedArray t => "unterminated Array<...> in type expression '" ++ t ++ "'"
  | .unbalancedBraces t => "unbalanced structural type expression '" ++ t ++ "'"

namespace TypeExpr

/-- What stands in front of `suffix` in `cs`, if `cs` ends with it. -/
def dropSuffix? (suffix cs : List Char) : Option (List Char) :=
  if suffix.isSuffixOf cs then some (cs.take (cs.length - suffix.length)) else none

/-- What follows `start` in `cs`, if `cs` begins with it. -/
def dropStart? (start cs : List Char) : Option (List Char) :=
  if start.isPrefixOf cs then some (cs.drop start.length) else none

theorem length_dropSuffix? {suffix cs rest : List Char} (h : dropSuffix? suffix cs = some rest) :
    rest.length = cs.length - suffix.length := by
  unfold dropSuffix? at h
  split at h
  · cases h
    simp [List.length_take]
  · cases h

theorem length_dropStart? {start cs rest : List Char} (h : dropStart? start cs = some rest) :
    rest.length = cs.length - start.length := by
  unfold dropStart? at h
  split at h
  · cases h
    simp
  · cases h

/-- What the outermost characters of a spelling make of it. -/
inductive Shape where
  /-- An array of what `element` spells. -/
  | array (element : List Char) (style : ArrayStyle)
  /-- A generic array that no `>` closes. -/
  | unterminated
  /-- Braces at both ends. -/
  | braced
  /-- A brace at one end only. -/
  | unbalanced
  /-- None of these. -/
  | bare
  deriving DecidableEq, Repr

/-- The shape of a spelling without blanks at its ends. -/
def shape (cs : List Char) : Shape :=
  match dropSuffix? ['[', ']'] cs with
  | some element => .array element .suffix
  | none =>
    match dropStart? ['A', 'r', 'r', 'a', 'y', '<'] cs with
    | some rest =>
      match dropSuffix? ['>'] rest with
      | some element => .array element .generic
      | none => .unterminated
    | none =>
      if cs.head? = some '\x7b' then
        if cs.getLast? = some '\x7d' then .braced else .unbalanced
      else if cs.getLast? = some '\x7d' then .unbalanced else .bare

theorem length_lt_of_shape {cs element : List Char} {style : ArrayStyle} (hne : cs ≠ [])
    (h : shape cs = .array element style) : element.length < cs.length := by
  have hpos : 0 < cs.length := List.length_pos_iff.2 hne
  unfold shape at h
  split at h
  · rename_i e he
    have := length_dropSuffix? he
    simp only [List.length_cons, List.length_nil] at this
    cases h
    omega
  · split at h
    · rename_i rest hr
      have h₁ := length_dropStart? hr
      split at h
      · rename_i e he
        have h₂ := length_dropSuffix? he
        simp only [List.length_cons, List.length_nil] at h₁ h₂
        cases h
        omega
      · cases h
    · split at h <;> split at h <;> cases h

/-- The registered value that a text names, or the text itself. -/
def ofName (text : String) : TypeExpr :=
  match (Registry.find? text : Option Scalar) with
  | some s => scalar s
  | none =>
    match (Registry.find? text : Option DomainType) with
    | some d => domain d
    | none =>
      match (Registry.find? text : Option EnumType) with
      | some e => enum e
      | none => named text

/-- Reads the spelling of a type expression. -/
def parseChars (cs : List Char) : Except TypeExprError TypeExpr :=
  if _hne : Text.trimChars cs = [] then .error .empty
  else
    match _h : shape (Text.trimChars cs) with
    | .array element style => (parseChars element).map fun e => array e style
    | .unterminated => .error (.unterminatedArray (String.ofList (Text.trimChars cs)))
    | .braced => .ok (inline (String.ofList (Text.trimChars cs)))
    | .unbalanced => .error (.unbalancedBraces (String.ofList (Text.trimChars cs)))
    | .bare => .ok (ofName (String.ofList (Text.trimChars cs)))
  termination_by cs.length
  decreasing_by
    exact Nat.lt_of_lt_of_le (length_lt_of_shape _hne _h) (Text.length_trimChars_le cs)

/-- Reads the spelling of a type expression. -/
def parse (s : String) : Except TypeExprError TypeExpr := parseChars s.toList

end TypeExpr

end Scaffold
