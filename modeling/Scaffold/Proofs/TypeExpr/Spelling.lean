import Scaffold.Proofs.Registry
import Scaffold.Proofs.Text.Trim
import Scaffold.TypeExpr.Parse

/-!
# The spellings of type expressions

`TypeExpr.Spells` says how a type expression may be spelled: a leaf by its text, an array in one of
two styles by a spelling of its element, with blanks around every layer. Not every expression can be
read back: a bare name that looks like another form, or that is registered, is read as something
else. `TypeExpr.Canonical` excludes these. `parse_recognises_spellings` is the main statement:
a text is read as an expression exactly if the expression is canonical and the text spells it. So
reading inverts `TypeExpr.text`, and canonical expressions have texts of their own.

The order in which forms are tried shows only in `TypeExpr.shape`: a text with an array suffix has
that shape whatever it begins with, and the other shapes exclude each other.
-/

namespace Scaffold.TypeExpr

open Text (Blanks Trimmed isBlank trimChars)

/-! ## Canonical expressions and their spellings -/

/-- The name of a scalar, a domain type or an enumeration. -/
def Registered (t : String) : Prop :=
  (∃ s : Scalar, Registry.name s = t) ∨ (∃ d : DomainType, Registry.name d = t) ∨
    ∃ e : EnumType, Registry.name e = t

/-- A text that can only be read as a bare name. -/
structure BareName (t : String) : Prop where
  nonempty : t.toList ≠ []
  trimmed : Trimmed t.toList
  noSuffix : ¬['[', ']'] <:+ t.toList
  noGeneric : ¬['A', 'r', 'r', 'a', 'y', '<'] <+: t.toList
  noOpening : t.toList.head? ≠ some '\x7b'
  noClosing : t.toList.getLast? ≠ some '\x7d'
  unregistered : ¬Registered t

/-- Every leaf can be read back: names look like names, structural literals have their braces. -/
def Canonical : TypeExpr → Prop
  | scalar _ | domain _ | enum _ => True
  | named t => BareName t
  | inline t => t.toList.head? = some '\x7b' ∧ t.toList.getLast? = some '\x7d'
  | array e _ => e.Canonical

/-- An expression that is no array. -/
def IsLeaf : TypeExpr → Prop
  | array _ _ => False
  | _ => True

/-- The spellings of an expression. Blanks may stand around every layer. -/
inductive Spells : TypeExpr → List Char → Prop
  | leaf {e : TypeExpr} {pre post : List Char} : e.IsLeaf → Blanks pre → Blanks post →
      Spells e (pre ++ e.text.toList ++ post)
  | suffix {e : TypeExpr} {cs pre post : List Char} : Spells e cs → Blanks pre → Blanks post →
      Spells (array e .suffix) (pre ++ (cs ++ ['[', ']']) ++ post)
  | generic {e : TypeExpr} {cs pre post : List Char} : Spells e cs → Blanks pre → Blanks post →
      Spells (array e .generic)
        (pre ++ (['A', 'r', 'r', 'a', 'y', '<'] ++ cs ++ ['>']) ++ post)

/-! ## Shapes -/

section
variable {cs rest start suffix element : List Char}

/-- A suffix is dropped from the texts that end with it. -/
theorem dropSuffix?_eq_some_iff : dropSuffix? suffix cs = some rest ↔ cs = rest ++ suffix := by
  rw [dropSuffix?]
  constructor
  · intro h
    split at h
    · rename_i hs
      obtain ⟨front, rfl⟩ := List.isSuffixOf_iff_suffix.1 hs
      cases h
      simp
    · cases h
  · rintro rfl
    rw [if_pos (List.isSuffixOf_iff_suffix.2 ⟨rest, rfl⟩)]
    simp

/-- No suffix is dropped from the other texts. -/
theorem dropSuffix?_eq_none_iff : dropSuffix? suffix cs = none ↔ ¬suffix <:+ cs := by
  rw [dropSuffix?, ← List.isSuffixOf_iff_suffix]
  split <;> simp_all

/-- A start is dropped from the texts that begin with it. -/
theorem dropStart?_eq_some_iff : dropStart? start cs = some rest ↔ cs = start ++ rest := by
  rw [dropStart?]
  constructor
  · intro h
    split at h
    · rename_i hs
      obtain ⟨back, rfl⟩ := List.isPrefixOf_iff_prefix.1 hs
      cases h
      simp
    · cases h
  · rintro rfl
    rw [if_pos (List.isPrefixOf_iff_prefix.2 ⟨rest, rfl⟩)]
    simp

/-- No start is dropped from the other texts. -/
theorem dropStart?_eq_none_iff : dropStart? start cs = none ↔ ¬start <+: cs := by
  rw [dropStart?, ← List.isPrefixOf_iff_prefix]
  split <;> simp_all

/-- A text that ends with another character has no array suffix. -/
theorem not_suffix_brackets {c : Char} (h : c ≠ ']') : ¬['[', ']'] <:+ cs ++ [c] := by
  rintro ⟨front, hf⟩
  have hlast := congrArg List.getLast? hf
  simp only [List.getLast?_append, List.getLast?_singleton, Option.some_or] at hlast
  exact h (by simpa using hlast.symm)

/-- An array suffix decides the shape. -/
theorem shape_suffix (cs : List Char) : shape (cs ++ ['[', ']']) = .array cs .suffix := by
  rw [shape, dropSuffix?_eq_some_iff.2 rfl]

/-- The generic form is an array of what stands between its ends. -/
theorem shape_generic (cs : List Char) :
    shape (['A', 'r', 'r', 'a', 'y', '<'] ++ cs ++ ['>']) = .array cs .generic := by
  rw [shape, dropSuffix?_eq_none_iff.2 (not_suffix_brackets (by decide))]
  simp only
  rw [List.append_assoc, dropStart?_eq_some_iff.2 rfl]
  simp only
  rw [dropSuffix?_eq_some_iff.2 rfl]

/-- Braces at both ends make a structural literal. -/
theorem shape_braced (hopen : cs.head? = some '\x7b') (hclose : cs.getLast? = some '\x7d') :
    shape cs = .braced := by
  have hsuffix : ¬['[', ']'] <:+ cs := by
    obtain ⟨front, rfl⟩ := List.getLast?_eq_some_iff.1 hclose
    exact not_suffix_brackets (by decide)
  have hstart : ¬['A', 'r', 'r', 'a', 'y', '<'] <+: cs := by
    rintro ⟨back, rfl⟩
    cases hopen
  rw [shape, dropSuffix?_eq_none_iff.2 hsuffix]
  simp only
  rw [dropStart?_eq_none_iff.2 hstart]
  simp only
  rw [if_pos hopen, if_pos hclose]

/-- A text without any of the other marks is bare. -/
theorem shape_bare (hsuffix : ¬['[', ']'] <:+ cs)
    (hstart : ¬['A', 'r', 'r', 'a', 'y', '<'] <+: cs) (hopen : cs.head? ≠ some '\x7b')
    (hclose : cs.getLast? ≠ some '\x7d') : shape cs = .bare := by
  rw [shape, dropSuffix?_eq_none_iff.2 hsuffix]
  simp only
  rw [dropStart?_eq_none_iff.2 hstart]
  simp only
  rw [if_neg hopen, if_neg hclose]

/-- What a shape that can be read says of the text. -/
def Shape.Fits (cs : List Char) : Shape → Prop
  | .array element .suffix => cs = element ++ ['[', ']']
  | .array element .generic => cs = ['A', 'r', 'r', 'a', 'y', '<'] ++ element ++ ['>']
  | .braced => cs.head? = some '\x7b' ∧ cs.getLast? = some '\x7d'
  | .bare => ¬['[', ']'] <:+ cs ∧ ¬['A', 'r', 'r', 'a', 'y', '<'] <+: cs ∧
      cs.head? ≠ some '\x7b' ∧ cs.getLast? ≠ some '\x7d'
  | .unterminated | .unbalanced => True

/-- A text is as its shape says. -/
theorem shape_fits (cs : List Char) : (shape cs).Fits cs := by
  rw [shape]
  split
  · rename_i element h
    exact dropSuffix?_eq_some_iff.1 h
  · rename_i hsuffix
    split
    · rename_i rest hrest
      split
      · rename_i element h
        rw [dropStart?_eq_some_iff.1 hrest, dropSuffix?_eq_some_iff.1 h]
        exact (List.append_assoc ..).symm
      · trivial
    · rename_i hstart
      have hs := dropSuffix?_eq_none_iff.1 hsuffix
      have ht := dropStart?_eq_none_iff.1 hstart
      split <;> split
      · exact ⟨‹_›, ‹_›⟩
      · trivial
      · trivial
      · exact ⟨hs, ht, ‹_›, ‹_›⟩

end

/-! ## Leaves -/

/-- A text is read as what it names, which is spelled like that. -/
theorem text_ofName (t : String) : (ofName t).text = t := by
  rw [ofName]
  split
  · rename_i s h
    exact Registry.name_of_find? h
  · split
    · rename_i d h
      exact Registry.name_of_find? h
    · split
      · rename_i e h
        exact Registry.name_of_find? h
      · rfl

/-- What a text names is a leaf. -/
theorem isLeaf_ofName (t : String) : (ofName t).IsLeaf := by
  rw [ofName]
  split
  · trivial
  · split
    · trivial
    · split <;> trivial

/-- A text that is not registered is read as it stands. -/
theorem ofName_of_not_registered {t : String} (h : ¬Registered t) : ofName t = named t := by
  rw [Registered, not_or, not_or, not_exists, not_exists, not_exists] at h
  rw [ofName, Registry.find?_eq_none_iff.2 h.1]
  simp only
  rw [Registry.find?_eq_none_iff.2 h.2.1]
  simp only
  rw [Registry.find?_eq_none_iff.2 h.2.2]

/-- What a text without marks names is canonical: if nothing, it is a bare name. -/
theorem canonical_ofName {t : String} (hne : t.toList ≠ []) (htrim : Trimmed t.toList)
    (hsuffix : ¬['[', ']'] <:+ t.toList) (hstart : ¬['A', 'r', 'r', 'a', 'y', '<'] <+: t.toList)
    (hopen : t.toList.head? ≠ some '\x7b') (hclose : t.toList.getLast? ≠ some '\x7d') :
    (ofName t).Canonical := by
  rw [ofName]
  split
  · trivial
  · rename_i hs
    split
    · trivial
    · rename_i hd
      split
      · trivial
      · rename_i he
        refine ⟨hne, htrim, hsuffix, hstart, hopen, hclose, ?_⟩
        rw [Registered, not_or, not_or, not_exists, not_exists, not_exists]
        exact ⟨Registry.find?_eq_none_iff.1 hs, Registry.find?_eq_none_iff.1 hd,
          Registry.find?_eq_none_iff.1 he⟩

/-! ## Reading -/

/-- What is read from a trimmed text of a given shape. -/
def Shape.Makes (cs : List Char) (e : TypeExpr) : Shape → Prop
  | .array element style => ∃ x, parseChars element = .ok x ∧ e = .array x style
  | .braced => e = .inline (String.ofList cs)
  | .bare => e = ofName (String.ofList cs)
  | .unterminated | .unbalanced => False

section
variable {cs ds pre post : List Char} {e x : TypeExpr}

/-- Reading goes by the shape of the trimmed text. -/
theorem parseChars_eq_ok_iff : parseChars cs = .ok e ↔
    trimChars cs ≠ [] ∧ (shape (trimChars cs)).Makes (trimChars cs) e := by
  rw [parseChars]
  split
  · rename_i h
    constructor
    · intro he
      cases he
    · intro hmakes
      exact absurd h hmakes.1
  · rename_i hne
    refine Iff.trans ?_ (and_iff_right hne).symm
    split
    · rename_i element style h
      rw [h]
      constructor
      · intro hx
        cases he : parseChars element with
        | error err => rw [he] at hx; cases hx
        | ok x => rw [he] at hx; cases hx; exact ⟨x, he, rfl⟩
      · rintro ⟨x, hx, rfl⟩
        rw [hx]
        rfl
    · rename_i h
      rw [h]
      simp [Shape.Makes]
    · rename_i h
      rw [h]
      exact ⟨fun h => by cases h; rfl, fun h => by rw [h]⟩
    · rename_i h
      rw [h]
      simp [Shape.Makes]
    · rename_i h
      rw [h]
      exact ⟨fun h => by cases h; rfl, fun h => by rw [h]⟩

/-- An array is made from the shape of one, and from nothing else. -/
theorem Shape.Makes.array {s : Shape} {style : ArrayStyle} (h : s.Makes cs (.array x style)) :
    ∃ element, s = .array element style ∧ parseChars element = .ok x := by
  cases s with
  | array element style' =>
    obtain ⟨y, hy, heq⟩ := h
    cases heq
    exact ⟨element, rfl, hy⟩
  | unterminated | unbalanced | braced => cases h
  | bare =>
    -- what a text names is a leaf
    have hleaf := isLeaf_ofName (String.ofList cs)
    rw [← show TypeExpr.array x style = ofName _ from h] at hleaf
    cases hleaf

/-- Blanks at the ends of a text make no difference. -/
theorem parseChars_congr (h : trimChars cs = trimChars ds) :
    parseChars cs = .ok e ↔ parseChars ds = .ok e := by
  rw [parseChars_eq_ok_iff, parseChars_eq_ok_iff, h]

/-- A canonical leaf is what is read from its text. -/
theorem IsLeaf.makes (hleaf : e.IsLeaf) (hc : e.Canonical) : e.text.toList ≠ [] ∧
    Trimmed e.text.toList ∧ (shape e.text.toList).Makes e.text.toList e := by
  cases e with
  | scalar s => cases s <;> exact ⟨by decide, Text.trimmed_iff.2 (by decide), rfl⟩
  | domain d => cases d <;> exact ⟨by decide, Text.trimmed_iff.2 (by decide), rfl⟩
  | enum e => cases e; exact ⟨by decide, Text.trimmed_iff.2 (by decide), rfl⟩
  | named t =>
    refine ⟨hc.nonempty, hc.trimmed, ?_⟩
    simp only [text]
    rw [shape_bare hc.noSuffix hc.noGeneric hc.noOpening hc.noClosing, Shape.Makes,
      String.ofList_toList, ofName_of_not_registered hc.unregistered]
  | array x style => cases hleaf
  | inline t =>
    obtain ⟨hopen, hclose⟩ := hc
    simp only [text]
    refine ⟨fun h => ?_, ⟨fun c h => ?_, fun c h => ?_⟩, ?_⟩
    · rw [h] at hopen
      cases hopen
    · rw [hopen] at h
      cases h
      decide
    · rw [hclose] at h
      cases h
      decide
    · rw [shape_braced hopen hclose, Shape.Makes, String.ofList_toList]

/-- Every spelling of a canonical expression is read as that expression. -/
theorem Spells.parseChars_eq (h : Spells e cs) (hc : e.Canonical) : parseChars cs = .ok e := by
  induction h with
  | leaf hleaf hpre hpost =>
    obtain ⟨hne, htrim, hmakes⟩ := hleaf.makes hc
    rw [parseChars_congr (Text.trimChars_append hpre hpost), parseChars_eq_ok_iff,
      htrim.trimChars_eq]
    exact ⟨hne, hmakes⟩
  | @suffix x cs pre post _ hpre hpost ih =>
    -- trimming eats into the spelling of the element, but only blanks in front of it
    have hout : trimChars (pre ++ (cs ++ ['[', ']']) ++ post) =
        cs.dropWhile isBlank ++ ['[', ']'] := by
      rw [Text.trimChars_append hpre hpost]
      exact Text.trimChars_append_trimmed (Text.trimmed_iff.2 (by decide)) (by decide)
    rw [parseChars_eq_ok_iff, hout, shape_suffix]
    exact ⟨by simp, x, (parseChars_congr (Text.trimChars_dropWhile cs)).2 (ih hc), rfl⟩
  | @generic x cs pre post _ hpre hpost ih =>
    have hout : trimChars (pre ++ (['A', 'r', 'r', 'a', 'y', '<'] ++ cs ++ ['>']) ++ post) =
        ['A', 'r', 'r', 'a', 'y', '<'] ++ cs ++ ['>'] := by
      rw [Text.trimChars_append hpre hpost]
      refine Trimmed.trimChars_eq ⟨fun c h => ?_, fun c h => ?_⟩
      · cases h
        decide
      · rw [List.getLast?_append, List.getLast?_singleton, Option.some_or] at h
        cases h
        decide
    rw [parseChars_eq_ok_iff, hout, shape_generic]
    exact ⟨by simp, x, ih hc, rfl⟩

/-- A leaf that is read from a text is canonical and spelled by the text. -/
theorem IsLeaf.canonical_and_spells (hleaf : e.IsLeaf) (h : parseChars cs = .ok e) :
    e.Canonical ∧ Spells e cs := by
  obtain ⟨hne, hmakes⟩ := parseChars_eq_ok_iff.1 h
  obtain ⟨pre, post, hpre, hpost, hcs⟩ := Text.exists_blanks_trimChars cs
  suffices hleafText : e.Canonical ∧ e.text.toList = trimChars cs by
    refine ⟨hleafText.1, ?_⟩
    rw [hcs, ← hleafText.2]
    exact .leaf hleaf hpre hpost
  have hfits := shape_fits (trimChars cs)
  generalize hs : shape (trimChars cs) = s at hmakes hfits
  cases s with
  | array element style =>
    obtain ⟨x, -, rfl⟩ := hmakes
    cases hleaf
  | unterminated | unbalanced => cases hmakes
  | braced =>
    cases hmakes
    rw [text, String.toList_ofList]
    exact ⟨by rwa [Canonical, String.toList_ofList], rfl⟩
  | bare =>
    obtain ⟨hsuffix, hstart, hopen, hclose⟩ := hfits
    cases hmakes
    rw [text_ofName, String.toList_ofList]
    refine ⟨canonical_ofName ?_ ?_ ?_ ?_ ?_ ?_, rfl⟩ <;> rw [String.toList_ofList]
    · exact hne
    · exact Text.trimmed_trimChars cs
    · exact hsuffix
    · exact hstart
    · exact hopen
    · exact hclose

/-- What is read from a text is canonical and spelled by the text. -/
theorem canonical_and_spells_of_parseChars (h : parseChars cs = .ok e) :
    e.Canonical ∧ Spells e cs := by
  induction e generalizing cs with
  | array x style ih =>
    obtain ⟨element, hshape, hx⟩ := (parseChars_eq_ok_iff.1 h).2.array
    obtain ⟨hc, hsp⟩ := ih hx
    obtain ⟨pre, post, hpre, hpost, hcs⟩ := Text.exists_blanks_trimChars cs
    have hfits := shape_fits (trimChars cs)
    rw [hshape] at hfits
    refine ⟨hc, ?_⟩
    rw [hcs]
    cases style with
    | suffix =>
      rw [show trimChars cs = element ++ ['[', ']'] from hfits]
      exact .suffix hsp hpre hpost
    | generic =>
      rw [show trimChars cs = ['A', 'r', 'r', 'a', 'y', '<'] ++ element ++ ['>'] from hfits]
      exact .generic hsp hpre hpost
  | _ => exact IsLeaf.canonical_and_spells trivial h

end

/-- The text of a leaf is one of its spellings. -/
theorem IsLeaf.spells_text {e : TypeExpr} (h : e.IsLeaf) : Spells e e.text.toList := by
  simpa using Spells.leaf h Text.blanks_nil Text.blanks_nil

/-- The text of an expression is one of its spellings, that without blanks. -/
theorem spells_text (e : TypeExpr) : Spells e e.text.toList := by
  induction e with
  | array x style ih =>
    cases style with
    | suffix =>
      have := Spells.suffix ih Text.blanks_nil Text.blanks_nil
      simpa [text] using this
    | generic =>
      have := Spells.generic ih Text.blanks_nil Text.blanks_nil
      simpa [text] using this
  | _ => exact IsLeaf.spells_text trivial

/-- A text is read as an expression exactly if it spells the expression. -/
theorem parse_eq_ok_iff {s : String} {e : TypeExpr} :
    parse s = .ok e ↔ e.Canonical ∧ Spells e s.toList :=
  ⟨canonical_and_spells_of_parseChars, fun h => h.2.parseChars_eq h.1⟩

/-- The text of a canonical expression is read as that expression. -/
theorem parse_text {e : TypeExpr} (h : e.Canonical) : parse e.text = .ok e :=
  parse_eq_ok_iff.2 ⟨h, spells_text e⟩

/-- Reading recognises the spellings of canonical expressions and nothing else; so it gives back
every expression that has been read from its text, and no two canonical expressions share one. -/
theorem parse_recognises_spellings :
    (∀ (s : String) (e : TypeExpr), parse s = .ok e ↔ e.Canonical ∧ Spells e s.toList) ∧
    (∀ (s : String) (e : TypeExpr), parse s = .ok e → parse e.text = .ok e) ∧
    ∀ e f : TypeExpr, e.Canonical → f.Canonical → e.text = f.text → e = f := by
  refine ⟨fun s e => parse_eq_ok_iff, fun s e h => parse_text (parse_eq_ok_iff.1 h).1, ?_⟩
  intro e f he hf heq
  have h := parse_text he
  rw [heq, parse_text hf] at h
  cases h
  rfl

end Scaffold.TypeExpr
