import Scaffold.Proofs.TypeExpr.Spelling
import Scaffold.TypeScript.Projection

/-!
# Types of the catalog and their spellings in generated code

The projection is a rule on what a text spells: a domain type is qualified by itself and in arrays,
which are then written with a suffix; a body field does so for arrays of enumerations as well;
everything else stays as it is spelled. `Projected` is that rule, with the names that are qualified
in arrays as its parameter. The main statement is `projection_respells`: the projections follow the
rule, and what they write without the namespace is one more spelling of the type (`respelled`),
which is read again and has the same projections.
-/

namespace Scaffold.TypeExpr

open Text (trimChars)
open TypeScript (bodyType fieldType orUndefined projectType qualify)

/-! ## The rule -/

/-- An expression is a domain type. -/
def IsDomain (e : TypeExpr) : Prop := ∃ d, e = .domain d

/-- An expression is a name that the module of domain types declares. -/
def IsDeclared (e : TypeExpr) : Prop := IsDomain e ∨ ∃ t, e = .enum t

/-- The types in generated code, where elements of arrays are qualified under a condition. -/
inductive Projected (qualified : TypeExpr → Prop) (namespaced : Bool) : TypeExpr → String → Prop
  | name (d : DomainType) :
      Projected qualified namespaced (.domain d) (qualify (Registry.name d) namespaced)
  | array {b : TypeExpr} (style : ArrayStyle) : qualified b →
      Projected qualified namespaced (.array b style) (qualify b.text namespaced ++ "[]")
  | verbatim {e : TypeExpr} : ¬IsDomain e → (∀ b style, e = .array b style → ¬qualified b) →
      Projected qualified namespaced e e.text

section
variable {qualified : TypeExpr → Prop} {namespaced : Bool} {e : TypeExpr} {t t' : String}

/-- The rule leaves no choice. -/
theorem Projected.unique (h : Projected qualified namespaced e t)
    (h' : Projected qualified namespaced e t') : t = t' := by
  cases h with
  | name d =>
    cases h' with
    | name => rfl
    | verbatim hdomain => exact absurd ⟨d, rfl⟩ hdomain
  | array style hb =>
    cases h' with
    | array => rfl
    | verbatim _ harray => exact absurd hb (harray _ style rfl)
  | verbatim hdomain harray =>
    cases h' with
    | name d => exact absurd ⟨d, rfl⟩ hdomain
    | array style hb => exact absurd hb (harray _ style rfl)
    | verbatim => rfl

/-- So whatever follows it is all that does. -/
theorem Projected.eq_iff (h : Projected qualified namespaced e t) :
    t = t' ↔ Projected qualified namespaced e t' :=
  ⟨fun heq => heq ▸ h, h.unique⟩

/-- A type expression is projected by the rule that qualifies domain types, -/
theorem projected_projectType (namespaced : Bool) (e : TypeExpr) :
    Projected IsDomain namespaced e (projectType namespaced e) := by
  cases e with
  | domain d => exact .name d
  | array b style =>
    cases b with
    | domain d => exact .array style ⟨d, rfl⟩
    | scalar | enum | named | array | inline =>
      refine .verbatim (fun ⟨d, hd⟩ => by cases hd) fun b style' heq hb => ?_
      cases heq
      obtain ⟨d, hd⟩ := hb
      cases hd
  | scalar | enum | named | inline =>
    exact .verbatim (fun ⟨d, hd⟩ => by cases hd) fun b style heq => by cases heq

/-- and that of a required field by the one that also qualifies enumerations in arrays. -/
theorem projected_fieldType (namespaced : Bool) (e : TypeExpr) :
    Projected IsDeclared namespaced e (fieldType namespaced true e) := by
  by_cases henum : ∃ t style, e = .array (.enum t) style
  · obtain ⟨t, style, rfl⟩ := henum
    exact .array style (.inr ⟨t, rfl⟩)
  · have hfield : fieldType namespaced true e = projectType namespaced e := by
      rw [fieldType]
      · rfl
      · exact fun t style he => henum ⟨t, style, he⟩
    have hrule := projected_projectType namespaced e
    rw [← hfield] at hrule
    generalize fieldType namespaced true e = type at hrule
    cases hrule with
    | name d => exact .name d
    | array style hb => exact .array style (.inl hb)
    | verbatim hdomain harray =>
      refine .verbatim hdomain fun b style heq hb => ?_
      obtain hb | ⟨t, rfl⟩ := hb
      · exact harray b style heq hb
      · exact henum ⟨t, style, heq⟩

/-- With the namespace, the name of the domain type is qualified, and nothing else is different. -/
theorem projectType_true (e : TypeExpr) :
    projectType true e = (if e.domain?.isSome then "Types." else "") ++ projectType false e := by
  cases e with
  | domain d => rfl
  | array b style =>
    cases b with
    | domain d => exact String.append_assoc ..
    | scalar | enum | named | array | inline => exact String.empty_append.symm
  | scalar | enum | named | inline => exact String.empty_append.symm

/-- So the two projections differ exactly if there is a domain type. -/
theorem projectType_ne_iff (e : TypeExpr) :
    projectType true e ≠ projectType false e ↔ e.domain?.isSome := by
  rw [projectType_true]
  cases e.domain?.isSome <;> simp

end

/-! ## The rule on spellings -/

/-- A text spells an array of what another text names. -/
def SpellsArrayOf (name cs : List Char) : Prop := ∃ element, trimChars element = name ∧
  (trimChars cs = element ++ ['[', ']'] ∨
    trimChars cs = ['A', 'r', 'r', 'a', 'y', '<'] ++ element ++ ['>'])

section
variable {cs element : List Char} {b x : TypeExpr} {style : ArrayStyle}

/-- A text has the shape of an array exactly if it is spelled like one. -/
theorem shape_eq_array_iff :
    shape cs = .array element style ↔ (Shape.array element style).Fits cs := by
  constructor
  · intro h
    have hfits := shape_fits cs
    rwa [h] at hfits
  · intro h
    cases style with
    | suffix => rw [show cs = element ++ ['[', ']'] from h, shape_suffix]
    | generic =>
      rw [show cs = ['A', 'r', 'r', 'a', 'y', '<'] ++ element ++ ['>'] from h, shape_generic]

/-- An array is read from a text that has the shape of one, -/
theorem parseChars_eq_array_iff : parseChars cs = .ok (.array x style) ↔
    ∃ element, shape (trimChars cs) = .array element style ∧ parseChars element = .ok x := by
  constructor
  · exact fun h => (parseChars_eq_ok_iff.1 h).2.array
  · rintro ⟨element, hshape, hx⟩
    rw [parseChars_eq_ok_iff, hshape]
    refine ⟨fun hnil => ?_, x, hx, rfl⟩
    rw [hnil] at hshape
    cases hshape

/-- and an expression without array layers from its text between blanks. -/
theorem parseChars_eq_leaf_iff (hleaf : b.IsLeaf) (hc : b.Canonical) :
    parseChars cs = .ok b ↔ trimChars cs = b.text.toList := by
  obtain ⟨-, htrimmed, -⟩ := hleaf.makes hc
  constructor
  · intro h
    obtain ⟨-, hspells⟩ := canonical_and_spells_of_parseChars h
    cases hspells with
    | leaf _ hpre hpost => rw [Text.trimChars_append hpre hpost, htrimmed.trimChars_eq]
    | suffix => cases hleaf
    | generic => cases hleaf
  · intro h
    refine (parseChars_congr ?_).2 (hleaf.spells_text.parseChars_eq hc)
    rw [h, htrimmed.trimChars_eq]

/-- So an array of such an expression is read from an array of its text. -/
theorem exists_parseChars_eq_array_iff (hleaf : b.IsLeaf) (hc : b.Canonical) :
    (∃ style, parseChars cs = .ok (.array b style)) ↔ SpellsArrayOf b.text.toList cs := by
  simp only [parseChars_eq_array_iff, parseChars_eq_leaf_iff hleaf hc, shape_eq_array_iff]
  constructor
  · rintro ⟨style, element, hfits, helement⟩
    cases style with
    | suffix => exact ⟨element, helement, .inl hfits⟩
    | generic => exact ⟨element, helement, .inr hfits⟩
  · rintro ⟨element, helement, hfits | hfits⟩
    · exact ⟨.suffix, element, hfits, helement⟩
    · exact ⟨.generic, element, hfits, helement⟩

end

/-! ## Reading projections -/

/-- The expression that is spelled without the namespace in generated code: arrays of domain types
have a suffix. -/
def respelled : TypeExpr → TypeExpr
  | .array (.domain d) _ => .array (.domain d) .suffix
  | e => e

/-- Arrays of domain types apart, an expression is respelled as it is. -/
theorem respelled_cases (e : TypeExpr) :
    (∃ d style, e = .array (.domain d) style ∧ respelled e = .array (.domain d) .suffix) ∨
    respelled e = e := by
  cases e with
  | array b style =>
    cases b with
    | domain d => exact .inl ⟨d, style, rfl, rfl⟩
    | scalar | enum | named | array | inline => exact .inr rfl
  | scalar | domain | enum | named | inline => exact .inr rfl

section
variable {e : TypeExpr}

/-- The projection without the namespace spells the expression. -/
theorem text_respelled (e : TypeExpr) : (respelled e).text = projectType false e := by
  cases e with
  | array b style => cases b <;> rfl
  | scalar | domain | enum | named | inline => rfl

theorem Canonical.respelled (h : e.Canonical) : (respelled e).Canonical := by
  obtain ⟨d, style, -, heq⟩ | heq := respelled_cases e
  · rw [heq]
    trivial
  · rwa [heq]

/-- All projections are those of the expression. -/
theorem projectType_respelled (namespaced : Bool) (e : TypeExpr) :
    projectType namespaced (respelled e) = projectType namespaced e := by
  obtain ⟨d, style, rfl, heq⟩ | heq := respelled_cases e
  · rfl
  · rw [heq]

theorem fieldType_respelled (namespaced required : Bool) (e : TypeExpr) :
    fieldType namespaced required (respelled e) = fieldType namespaced required e := by
  obtain ⟨d, style, rfl, heq⟩ | heq := respelled_cases e
  · rfl
  · rw [heq]

/-- What is read from a text is projected by the rules: domain types, which are what their names
spell, are qualified by themselves and in arrays, and in arrays of a required field enumerations are
too. With the namespace the projection is another text exactly if there is a domain type. Without
it, the projection is read again, and what is read has the same projections. -/
theorem projection_respells {s : String} (h : parse s = .ok e) :
    (∀ d, e = .domain d ↔ Text.trim s = Registry.name d) ∧
    (∀ b, IsDeclared b → ((∃ style, e = .array b style) ↔ SpellsArrayOf b.text.toList s.toList)) ∧
    (∀ namespaced t, projectType namespaced e = t ↔ Projected IsDomain namespaced e t) ∧
    projectType true e = (if e.domain?.isSome then "Types." else "") ++ projectType false e ∧
    (projectType true e ≠ projectType false e ↔ e.domain?.isSome) ∧
    (∀ f : Field, f.type = e → f.required = true → ∀ namespaced t,
      bodyType namespaced f = t ↔ Projected IsDeclared namespaced e t) ∧
    ∃ e', parse (projectType false e) = .ok e' ∧
      (∀ namespaced, projectType namespaced e' = projectType namespaced e) ∧
      ∀ f : Field, f.type = e → ∀ namespaced,
        bodyType namespaced { f with type := e' } = bodyType namespaced f := by
  have hchars : parseChars s.toList = .ok e := h
  have hparsed (b : TypeExpr) : e = b ↔ parseChars s.toList = .ok b := by
    rw [hchars, Except.ok.injEq]
  have hdeclared (b : TypeExpr) (hb : IsDeclared b) : b.IsLeaf ∧ b.Canonical := by
    obtain ⟨d, rfl⟩ | ⟨t, rfl⟩ := hb <;> exact ⟨trivial, trivial⟩
  refine ⟨fun d => ?_, fun b hb => ?_, fun _ t => (projected_projectType _ e).eq_iff,
    projectType_true e, projectType_ne_iff e, ?_, respelled e, ?_,
    fun _ => projectType_respelled _ e, ?_⟩
  · rw [hparsed, parseChars_eq_leaf_iff (b := .domain d) trivial trivial, Text.trim,
      ← String.toList_inj, String.toList_ofList]
    rfl
  · obtain ⟨hleaf, hcanonical⟩ := hdeclared b hb
    simp only [hparsed]
    exact exists_parseChars_eq_array_iff hleaf hcanonical
  · rintro f rfl hrequired namespaced t
    rw [bodyType, hrequired]
    exact (projected_fieldType namespaced f.type).eq_iff
  · rw [← text_respelled]
    exact parse_text (parse_eq_ok_iff.1 h).1.respelled
  · rintro f rfl namespaced
    exact fieldType_respelled namespaced f.required f.type

/-- An array of a domain type between blanks, in generic style: its projection without the namespace
is spelled with a suffix, and projected alike. -/
theorem spaced_array_respells :
    parse " Array< Booking > " = .ok (.array (.domain .booking) .generic) ∧
    projectType true (.array (.domain .booking) .generic) = "Types.Booking[]" ∧
    projectType false (.array (.domain .booking) .generic) = "Booking[]" ∧
    SpellsArrayOf "Booking".toList " Array< Booking > ".toList ∧
    ∃ e', parse "Booking[]" = .ok e' ∧
      ∀ namespaced, projectType namespaced e' =
        projectType namespaced (.array (.domain .booking) .generic) := by
  have hread : parse " Array< Booking > " = .ok (.array (.domain .booking) .generic) := by
    decide +kernel
  obtain ⟨-, harray, -, -, -, -, e', hrespelled, hprojected, -⟩ := projection_respells hread
  exact ⟨hread, rfl, rfl, (harray _ (.inl ⟨.booking, rfl⟩)).1 ⟨.generic, rfl⟩, e', hrespelled,
    hprojected⟩

end

end Scaffold.TypeExpr
