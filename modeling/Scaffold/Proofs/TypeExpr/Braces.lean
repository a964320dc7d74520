import Scaffold.Proofs.Text.Braces
import Scaffold.Proofs.TypeExpr.Spelling
import Scaffold.TypeScript.Projection

/-!
# Braces in type expressions

Below its array layers a text spells a name or a structural literal: that is its `core`, which has
all the braces of the text (`braces_core`). Whether the text is read is decided by the core alone
(`parseChars_eq_error_iff`), and there only the first and the last character are looked at. So a
text whose braces do not match is refused exactly if its core has a brace at one end only, or is an
array that is not closed: `unmatched_refused_iff`. Every other one becomes a type that disturbs the
braces around it in generated code: see `unmatched_is_read`.
-/

namespace Scaffold.TypeExpr

open Text (Blanks Matched Neutral braces braces_append braces_eq_nil isBrace trimChars)
open TypeScript (fieldType orUndefined projectType qualify typesNamespace)

/-! ## Below the array layers -/

/-- What a text spells below its array layers, without the blanks around it. -/
def core (cs : List Char) : List Char :=
  match _h : shape (trimChars cs) with
  | .array element _ => core element
  | _ => trimChars cs
termination_by cs.length
decreasing_by
  have hne : trimChars cs ≠ [] := by
    intro hnil
    rw [hnil] at _h
    cases _h
  exact Nat.lt_of_lt_of_le (length_lt_of_shape hne _h) (Text.length_trimChars_le cs)

/-- A text begins like an array in generic style. -/
def OpensArray (cs : List Char) : Prop := ['A', 'r', 'r', 'a', 'y', '<'] <+: cs

/-- A text has a brace in front, or one at its end, but not both. -/
def BraceAtOneEnd (cs : List Char) : Prop := ¬(cs.head? = some '\x7b' ↔ cs.getLast? = some '\x7d')

/-- Why a text is refused, apart from one without any characters. -/
inductive Refused (cs : List Char) : TypeExprError → Prop
  | unterminated : OpensArray cs → Refused cs (.unterminatedArray (String.ofList cs))
  | unbalanced :
      ¬OpensArray cs → BraceAtOneEnd cs → Refused cs (.unbalancedBraces (String.ofList cs))

/-- The error for a shape that cannot be read. -/
def Shape.fault? (cs : List Char) : Shape → Option TypeExprError
  | .unterminated => some (.unterminatedArray (String.ofList cs))
  | .unbalanced => some (.unbalancedBraces (String.ofList cs))
  | .array _ _ | .braced | .bare => none

section
variable {cs : List Char} {e : TypeExpr} {err : TypeExprError}

/-- What is no array has no array suffix. -/
theorem no_suffix_of_shape (h : ∀ element style, shape cs ≠ .array element style) :
    ¬['[', ']'] <:+ cs := by
  rintro ⟨element, rfl⟩
  exact h element .suffix (shape_suffix element)

/-- What begins like an array and is none is not closed. -/
theorem shape_unterminated (h : ∀ element style, shape cs ≠ .array element style)
    (hopens : OpensArray cs) : shape cs = .unterminated := by
  have hsuffix := no_suffix_of_shape h
  obtain ⟨rest, rfl⟩ := hopens
  have hclosed : ¬['>'] <:+ rest := by
    rintro ⟨element, rfl⟩
    exact h element .generic (by rw [← List.append_assoc, shape_generic])
  rw [shape, dropSuffix?_eq_none_iff.2 hsuffix]
  simp only
  rw [dropStart?_eq_some_iff.2 rfl]
  simp only
  rw [dropSuffix?_eq_none_iff.2 hclosed]

/-- Anything else that is no array has the shape that its two ends give it. -/
theorem shape_of_ends (h : ∀ element style, shape cs ≠ .array element style)
    (hopens : ¬OpensArray cs) :
    shape cs =
      if cs.head? = some '\x7b' then
        if cs.getLast? = some '\x7d' then .braced else .unbalanced
      else if cs.getLast? = some '\x7d' then .unbalanced else .bare := by
  rw [shape, dropSuffix?_eq_none_iff.2 (no_suffix_of_shape h)]
  simp only
  rw [dropStart?_eq_none_iff.2 hopens]

/-- A text that is no array is refused for what it begins and ends with. -/
theorem fault?_eq_some_iff (h : ∀ element style, shape cs ≠ .array element style) :
    (shape cs).fault? cs = some err ↔ Refused cs err := by
  by_cases hopens : OpensArray cs
  · rw [shape_unterminated h hopens, Shape.fault?, Option.some_inj]
    constructor
    · rintro rfl
      exact .unterminated hopens
    · rintro (_ | ⟨hno, -⟩)
      · rfl
      · exact absurd hopens hno
  · have hrefused : Refused cs err ↔
        BraceAtOneEnd cs ∧ err = .unbalancedBraces (String.ofList cs) := by
      constructor
      · rintro (hopens' | ⟨-, hend⟩)
        · exact absurd hopens' hopens
        · exact ⟨hend, rfl⟩
      · rintro ⟨hend, rfl⟩
        exact .unbalanced hopens hend
    rw [hrefused, BraceAtOneEnd, shape_of_ends h hopens]
    by_cases hfront : cs.head? = some '\x7b' <;> by_cases hback : cs.getLast? = some '\x7d' <;>
      simp [hfront, hback, Shape.fault?, eq_comm]

/-- An expression without array layers is all there is below them. -/
theorem IsLeaf.base_eq (h : e.IsLeaf) : e.base = e := by
  cases e with
  | array element style => cases h
  | scalar | domain | enum | named | inline => rfl

/-- A trimmed text that is no array is refused if there is nothing in it, or for its shape. -/
theorem parseChars_eq_error_iff_of_not_array
    (h : ∀ element style, shape (trimChars cs) ≠ .array element style) :
    parseChars cs = .error err ↔
      trimChars cs = [] ∧ err = .empty ∨ trimChars cs ≠ [] ∧ Refused (trimChars cs) err := by
  rw [← fault?_eq_some_iff h, parseChars]
  split
  · rename_i hnil
    simp [hnil, eq_comm]
  · rename_i hne
    simp only [hne, false_and, false_or, ne_eq, not_false_iff, true_and]
    split
    · exact absurd ‹_› (h _ _)
    all_goals
      rename_i hshape
      rw [hshape, Shape.fault?]
      simp

/-- Reading fails below the array layers: there is nothing left, or what is left is refused. -/
theorem parseChars_eq_error_iff : parseChars cs = .error err ↔
    core cs = [] ∧ err = .empty ∨ core cs ≠ [] ∧ Refused (core cs) err := by
  fun_induction core cs with
  | case1 cs element style hshape ih =>
    have hne : trimChars cs ≠ [] := fun hnil => by
      rw [hnil] at hshape
      cases hshape
    have hmap : parseChars cs = (parseChars element).map (array · style) := by
      rw [parseChars, dif_neg hne]
      split <;> simp_all
    rw [← ih, hmap]
    cases parseChars element <;> simp [Except.map]
  | case2 cs hshape => exact parseChars_eq_error_iff_of_not_array hshape

/-- What is read below the array layers is spelled there. -/
theorem toList_base (h : parseChars cs = .ok e) : e.base.text.toList = core cs := by
  obtain ⟨-, hmakes⟩ := parseChars_eq_ok_iff.1 h
  fun_induction core cs generalizing e with
  | case1 cs element style hshape ih =>
    rw [hshape] at hmakes
    obtain ⟨x, hx, rfl⟩ := hmakes
    have hbase := ih hx (parseChars_eq_ok_iff.1 hx).2
    exact hbase
  | case2 cs hshape =>
    generalize hs : shape (trimChars cs) = s at hmakes
    cases s with
    | array element style => exact absurd hs (hshape element style)
    | unterminated | unbalanced => cases hmakes
    | braced =>
      cases hmakes
      exact String.toList_ofList
    | bare =>
      cases hmakes
      rw [(isLeaf_ofName _).base_eq, text_ofName, String.toList_ofList]

end

/-! ## Braces -/

section
variable {cs pre post : List Char}

/-- Blanks are no braces, -/
theorem braces_blanks (h : Blanks cs) : braces cs = [] := by
  refine braces_eq_nil fun c hc => ?_
  rw [isBrace, Bool.or_eq_false_iff, beq_eq_false_iff_ne, beq_eq_false_iff_ne]
  refine ⟨?_, ?_⟩ <;>
  · rintro rfl
    exact absurd (h _ hc) (by decide)

/-- so trimming loses none, -/
theorem braces_trimChars (cs : List Char) : braces (trimChars cs) = braces cs := by
  obtain ⟨pre, post, hpre, hpost, hcs⟩ := Text.exists_blanks_trimChars cs
  conv_rhs => rw [hcs, braces_append, braces_append, braces_blanks hpre, braces_blanks hpost]
  rw [List.nil_append, List.append_nil]

/-- and neither do the array layers. -/
theorem braces_core (cs : List Char) : braces (core cs) = braces cs := by
  fun_induction core cs with
  | case1 cs element style hshape ih =>
    have hfits := shape_fits (trimChars cs)
    rw [hshape] at hfits
    rw [ih, ← braces_trimChars cs]
    cases style with
    | suffix =>
      rw [show trimChars cs = element ++ ['[', ']'] from hfits, braces_append]
      exact (List.append_nil _).symm
    | generic =>
      rw [show trimChars cs = ['A', 'r', 'r', 'a', 'y', '<'] ++ element ++ ['>'] from hfits,
        braces_append, braces_append]
      exact (List.append_nil _).symm
  | case2 cs => exact braces_trimChars cs

/-- Brackets are no braces. -/
theorem braces_append_brackets (type : String) :
    braces (type ++ "[]").toList = braces type.toList := by
  rw [String.toList_append, braces_append]
  exact List.append_nil _

/-- The text of an array has the braces of that of its elements, -/
theorem braces_text_array (e : TypeExpr) (style : ArrayStyle) :
    braces (array e style).text.toList = braces e.text.toList := by
  cases style with
  | suffix => exact braces_append_brackets e.text
  | generic =>
    rw [text, String.toList_append, String.toList_append, braces_append, braces_append]
    exact List.append_nil _

/-- so the text of an expression has those of what is below its array layers. -/
theorem braces_text (e : TypeExpr) : braces e.text.toList = braces e.base.text.toList := by
  induction e with
  | array e style ih => rw [braces_text_array, ih, base]
  | scalar | domain | enum | named | inline => rfl

/-- What is read from a text has the braces of the text. -/
theorem braces_of_parseChars {e : TypeExpr} (h : parseChars cs = .ok e) :
    braces e.text.toList = braces cs := by
  rw [braces_text, toList_base h, braces_core]

end

/-! ## Generated types -/

/-- Qualifying a name adds no braces, -/
theorem braces_qualify (name : String) (namespaced : Bool) :
    braces (qualify name namespaced).toList = braces name.toList := by
  cases namespaced with
  | false => rw [qualify, if_neg Bool.false_ne_true]
  | true =>
    have hnamespace : braces (typesNamespace ++ ".").toList = [] := by decide
    rw [qualify, if_pos rfl, String.toList_append, braces_append, hnamespace, List.nil_append]

theorem braces_projectType (namespaced : Bool) (e : TypeExpr) :
    braces (projectType namespaced e).toList = braces e.text.toList := by
  unfold projectType
  split
  · rw [braces_qualify, text]
  · rw [braces_append_brackets, braces_qualify, braces_text_array, text]
  · rfl

/-- and neither does admitting `undefined`. -/
theorem braces_orUndefined (required : Bool) (type : String) :
    braces (orUndefined required type).toList = braces type.toList := by
  cases required with
  | false =>
    rw [orUndefined, if_neg Bool.false_ne_true, String.toList_append, braces_append]
    exact List.append_nil _
  | true => rw [orUndefined, if_pos rfl]

theorem braces_fieldType (namespaced required : Bool) (e : TypeExpr) :
    braces (fieldType namespaced required e).toList = braces e.text.toList := by
  unfold fieldType
  split
  · rw [braces_orUndefined, braces_append_brackets, braces_qualify, braces_text_array, text]
  · rw [braces_orUndefined, braces_projectType]

/-! ## What becomes of unmatched braces -/

/-- A text whose braces do not match is refused exactly if what is below its array layers begins
like an array, or has a brace at one end only. In generated code, a type that has been read leaves
the braces around it as they are exactly if those of its text match. -/
theorem unmatched_refused_iff (s : String) :
    (¬Matched s.toList → ∀ err, parse s = .error err ↔ Refused (core s.toList) err) ∧
    ∀ e, parse s = .ok e → ∀ namespaced required,
      (Neutral (projectType namespaced e).toList ↔ Matched s.toList) ∧
      (Neutral (fieldType namespaced required e).toList ↔ Matched s.toList) := by
  refine ⟨fun hs err => ?_, fun e he namespaced required => ?_⟩
  · -- with nothing left there would be no braces either
    have hne : core s.toList ≠ [] := by
      intro hnil
      have hbraces := braces_core s.toList
      rw [hnil] at hbraces
      exact hs ((Text.matched_congr hbraces).1 .nil)
    rw [parse, parseChars_eq_error_iff]
    simp only [hne, false_and, false_or, ne_eq, not_false_iff, true_and]
  · have hbraces := braces_of_parseChars he
    rw [Text.neutral_iff_matched, Text.neutral_iff_matched]
    exact ⟨Text.matched_congr ((braces_projectType namespaced e).trans hbraces),
      Text.matched_congr ((braces_fieldType namespaced required e).trans hbraces)⟩

/-- A brace that is not closed, in front of a structural literal below two array layers, and between
the braces of one. -/
theorem unclosed_brace_is_refused :
    ¬Matched "Array<\x7b a: string>[]".toList ∧
    parse "Array<\x7b a: string>[]" = .error (.unbalancedBraces "\x7b a: string") ∧
    parse "Array<\x7b a: \x7b b: string \x7d>" =
      .ok (.array (.inline "\x7b a: \x7b b: string \x7d") .generic) ∧
    ¬Neutral (projectType true
      (.array (.inline "\x7b a: \x7b b: string \x7d") .generic)).toList := by
  have hunmatched : ¬Matched "Array<\x7b a: string>[]".toList := by decide
  have hcore : core "Array<\x7b a: string>[]".toList = "\x7b a: string".toList := by decide +kernel
  have hrefused :
      Refused "\x7b a: string".toList (.unbalancedBraces (String.ofList "\x7b a: string".toList)) :=
    .unbalanced (by simp [OpensArray]) (by simp [BraceAtOneEnd])
  have hread : parse "Array<\x7b a: \x7b b: string \x7d>" =
      .ok (.array (.inline "\x7b a: \x7b b: string \x7d") .generic) := by decide +kernel
  have herror := (unmatched_refused_iff "Array<\x7b a: string>[]").1 hunmatched
  have hneutral := (unmatched_refused_iff "Array<\x7b a: \x7b b: string \x7d>").2 _ hread true true
  rw [hcore] at herror
  exact ⟨hunmatched, (herror _).2 hrefused, hread, mt hneutral.1.1 (by decide)⟩

/-- A text without quotes. -/
def Unquoted (s : String) : Prop := ∀ quote ∈ ['\x22', '\x27', '\x60'], quote ∉ s.toList

/-- A text without quotes whose braces do not match is read, and takes a brace of what stands
around it. -/
theorem unmatched_is_read :
    Unquoted "\x7b a: \x7b b: string \x7d" ∧ ¬Matched "\x7b a: \x7b b: string \x7d".toList ∧
    parse "\x7b a: \x7b b: string \x7d" = .ok (.inline "\x7b a: \x7b b: string \x7d") ∧
    projectType true (.inline "\x7b a: \x7b b: string \x7d") = "\x7b a: \x7b b: string \x7d" ∧
    ¬Neutral "\x7b a: \x7b b: string \x7d".toList := by
  have hunmatched : ¬Matched "\x7b a: \x7b b: string \x7d".toList := by decide
  exact ⟨by simp [Unquoted], hunmatched, by decide +kernel, rfl,
    mt Text.neutral_iff_matched.1 hunmatched⟩

end Scaffold.TypeExpr
