import Scaffold.Proofs.TypeScript.Literal

/-!
# How template literals are read

`readTemplate?` reads a template literal from behind its opening backtick: texts with expressions
between them. `StandsInTemplate` says which texts can be written into one as they are. The main
statement is `readTemplate?_substitution_iff`: a literal that is put together from a text and one
substitution is read as these two, and ends where it was meant to, exactly if the text is such a
one.

A text that is no such one either ends too early, or has an escape in it. An escape stands for fewer
units than it is written with, and no other character stands for more, so what was lost is never
made up for (`WrittenWith`, `readText?_eq_some`).
-/

namespace Scaffold.TypeScript

/-! ## Parts of a template literal -/

/-- How a text in a template literal ends. -/
inductive TextEnd where
  /-- The literal ends. -/
  | backtick
  /-- An expression begins. -/
  | opening
  deriving DecidableEq

/-- How an end is written. -/
def TextEnd.source : TextEnd → List Char
  | backtick => ['`']
  | opening => ['$', '\x7b']

/-- Reads a text in a template literal up to its end. Line ends that begin with a carriage return
stand for a line feed. -/
def readText? : List Char → Option (List Nat × TextEnd × List Char)
  | [] => none
  | c :: cs =>
    if c = '`' then some ([], .backtick, cs)
    else if c = '$' ∧ cs.head? = some '\x7b' then some ([], .opening, cs.tail)
    else if c = '\\' then
      match _ : readEscape? cs with
      | some (us, rest) => (readText? rest).map fun p => (us ++ p.1, p.2)
      | none => none
    else if c = '\r' then (readText? (behindLineEnd c cs)).map fun p => (0x0A :: p.1, p.2)
    else (readText? cs).map fun p => (codeUnits c ++ p.1, p.2)
termination_by cs => cs.length
decreasing_by
  · have := length_readEscape?_lt ‹readEscape? cs = some (us, rest)›
    simp only [List.length_cons]
    omega
  · obtain ⟨pre, hpre, -⟩ := exists_behindLineEnd c cs
    have := congrArg List.length hpre
    simp only [List.length_append, List.length_cons] at this ⊢
    omega
  · simp

/-! ## Texts that stand for themselves -/

/-- A text that can be written into a template literal as it is. -/
structure StandsInTemplate (cs : List Char) : Prop where
  noBacktick : '`' ∉ cs
  noBackslash : '\\' ∉ cs
  noReturn : '\r' ∉ cs
  noOpening : ¬['$', '\x7b'] <:+: cs

section
variable {c : Char} {cs ys zs pre rest : List Char} {us : List Nat} {e : TextEnd}

/-- The empty text can be written into a template literal. -/
theorem standsInTemplate_nil : StandsInTemplate [] := ⟨by simp, by simp, by simp, by simp⟩

/-- Which characters can be written in front of a text in a template literal. -/
theorem standsInTemplate_cons_iff : StandsInTemplate (c :: cs) ↔
    c ≠ '`' ∧ c ≠ '\\' ∧ c ≠ '\r' ∧ ¬(c = '$' ∧ cs.head? = some '\x7b') ∧ StandsInTemplate cs := by
  have opening : ['$', '\x7b'] <:+: c :: cs ↔
      (c = '$' ∧ cs.head? = some '\x7b') ∨ ['$', '\x7b'] <:+: cs := by
    rw [List.infix_cons_iff]
    refine or_congr_left ?_
    cases cs <;> simp [eq_comm]
  constructor
  · rintro ⟨hb, hs, hr, ho⟩
    rw [opening, not_or] at ho
    simp only [List.mem_cons, not_or] at hb hs hr
    exact ⟨Ne.symm hb.1, Ne.symm hs.1, Ne.symm hr.1, ho.1, hb.2, hs.2, hr.2, ho.2⟩
  · rintro ⟨hb, hs, hr, ho, h⟩
    refine ⟨?_, ?_, ?_, ?_⟩
    · simpa [h.noBacktick] using hb.symm
    · simpa [h.noBackslash] using hs.symm
    · simpa [h.noReturn] using hr.symm
    · rw [opening, not_or]
      exact ⟨ho, h.noOpening⟩

/-- A character can be written behind a text if it is none of the special ones itself. -/
theorem standsInTemplate_concat_iff (hb : c ≠ '`') (hs : c ≠ '\\') (hr : c ≠ '\r')
    (ho : c ≠ '\x7b') : StandsInTemplate (cs ++ [c]) ↔ StandsInTemplate cs := by
  induction cs with
  | nil => simp [standsInTemplate_cons_iff, standsInTemplate_nil, hb, hs, hr]
  | cons d cs ih =>
    have hhead : (cs ++ [c]).head? = some '\x7b' ↔ cs.head? = some '\x7b' := by
      cases cs <;> simp [ho]
    rw [List.cons_append, standsInTemplate_cons_iff, standsInTemplate_cons_iff, ih, hhead]

/-- A text that can be written into a template literal is read as itself. -/
theorem readText?_of_standsInTemplate (h : StandsInTemplate pre) :
    readText? (pre ++ (e.source ++ rest)) = some (units pre, e, rest) := by
  induction pre with
  | nil =>
    cases e with
    | backtick => rw [TextEnd.source, List.nil_append, List.singleton_append, readText?]; simp
    | opening =>
      rw [TextEnd.source, List.nil_append, List.cons_append, List.singleton_append, readText?]
      simp
  | cons c pre ih =>
    obtain ⟨hb, hs, hr, ho, h⟩ := standsInTemplate_cons_iff.1 h
    -- the end is no brace, so no expression begins between the text and its end
    have ho' : ¬(c = '$' ∧ (pre ++ (e.source ++ rest)).head? = some '\x7b') := by
      cases pre with
      | nil => cases e <;> simp [TextEnd.source]
      | cons d pre => simpa using ho
    rw [List.cons_append, readText?, if_neg hb, if_neg ho', if_neg hs, if_neg hr, ih h]
    rfl

/-- Units are written with a text that has at least as many, and the same ones only if it can be
written into a template literal. -/
structure WrittenWith (us : List Nat) (pre : List Char) : Prop where
  length_le : us.length ≤ (units pre).length
  stands : us = units pre → StandsInTemplate pre

theorem writtenWith_nil : WrittenWith [] [] := ⟨Nat.le_refl 0, fun _ => standsInTemplate_nil⟩

/-- An escape is written with more units than it stands for. -/
theorem WrittenWith.escape {vs : List Nat} {esc : List Char} (h : WrittenWith us pre)
    (hvs : vs.length ≤ (units esc).length) : WrittenWith (vs ++ us) ('\\' :: esc ++ pre) := by
  have hslash := codeUnits_pos '\\'
  have hlen := h.length_le
  have hlost : (vs ++ us).length < (units ('\\' :: esc ++ pre)).length := by
    simp only [units_append, units_cons, List.length_append]
    omega
  exact ⟨Nat.le_of_lt hlost, fun heq => by rw [heq] at hlost; omega⟩

/-- A line feed is not what a carriage return is written with. -/
theorem WrittenWith.lineEnd (h : WrittenWith us pre) (feed : List Char) :
    WrittenWith (0x0A :: us) ('\r' :: feed ++ pre) where
  length_le := by
    have hreturn := codeUnits_pos '\r'
    have hlen := h.length_le
    simp only [List.cons_append, units_append, units_cons, List.length_append, List.length_cons]
    omega
  stands heq := by
    rw [List.cons_append, units_cons] at heq
    exact absurd (List.cons.inj heq).1 (by decide)

/-- A character that is none of the special ones is written with itself. -/
theorem WrittenWith.char (h : WrittenWith us pre) (hb : c ≠ '`') (hs : c ≠ '\\') (hr : c ≠ '\r')
    (ho : ¬(c = '$' ∧ pre.head? = some '\x7b')) : WrittenWith (codeUnits c ++ us) (c :: pre) where
  length_le := by
    have hlen := h.length_le
    simp only [units_cons, List.length_append]
    omega
  stands heq := by
    rw [units_cons] at heq
    exact standsInTemplate_cons_iff.2 ⟨hb, hs, hr, ho, h.stands (List.append_cancel_left heq)⟩

/-- What is read as a text is written with what stands in front of its end. -/
theorem readText?_eq_some (h : readText? cs = some (us, e, rest)) :
    ∃ pre, cs = pre ++ (e.source ++ rest) ∧ WrittenWith us pre := by
  fun_induction readText? cs generalizing us with
  | case1 => cases h
  | case2 cs =>
    cases h
    exact ⟨[], rfl, writtenWith_nil⟩
  | case3 c cs _ hopen =>
    cases h
    obtain ⟨rfl, hbrace⟩ := hopen
    exact ⟨[], congrArg ('$' :: ·) (List.eq_cons_of_mem_head? hbrace), writtenWith_nil⟩
  | case4 cs vs rest' hread _ _ ih =>
    obtain ⟨⟨ws, p⟩, hrest, heq⟩ := Option.map_eq_some_iff.1 h
    cases heq
    obtain ⟨pre, rfl, hpre⟩ := ih hrest
    obtain ⟨d, esc, rfl, hvs, -⟩ := readEscape?_eq_some hread
    exact ⟨'\\' :: (d :: esc) ++ pre, by simp, hpre.escape hvs⟩
  | case5 => cases h
  | case6 cs _ _ _ ih =>
    obtain ⟨⟨ws, p⟩, hrest, heq⟩ := Option.map_eq_some_iff.1 h
    cases heq
    obtain ⟨pre, hbehind, hpre⟩ := ih hrest
    obtain ⟨feed, hfeed, -⟩ := exists_behindLineEnd '\r' cs
    exact ⟨'\r' :: feed ++ pre, by rw [hfeed, hbehind]; simp, hpre.lineEnd feed⟩
  | case7 c cs hb ho hs hr ih =>
    obtain ⟨⟨ws, p⟩, hrest, heq⟩ := Option.map_eq_some_iff.1 h
    cases heq
    obtain ⟨pre, rfl, hpre⟩ := ih hrest
    refine ⟨c :: pre, rfl, hpre.char hb hs hr ?_⟩
    rintro ⟨rfl, hbrace⟩
    cases pre with
    | nil => cases hbrace
    | cons d pre => exact ho ⟨rfl, hbrace⟩

/-- A text and its end take up at least one character. -/
theorem length_readText?_lt (h : readText? cs = some (us, e, rest)) : rest.length < cs.length := by
  obtain ⟨pre, rfl, -⟩ := readText?_eq_some h
  cases e with
  | backtick => simp only [TextEnd.source, List.length_append, List.length_singleton]; omega
  | opening =>
    simp only [TextEnd.source, List.length_append, List.length_cons]
    omega

/-- What begins with a question mark is not cut by another character in front of it, -/
theorem question_suffix_of_cons (hc : c ≠ '?') (h : '?' :: ys <:+ c :: cs) : '?' :: ys <:+ cs :=
  (List.suffix_cons_iff.1 h).resolve_left fun heq => hc (List.cons.inj heq).1.symm

/-- nor by a text without one, -/
theorem question_suffix_of_append (hpre : '?' ∉ pre) (h : '?' :: ys <:+ pre ++ rest) :
    '?' :: ys <:+ rest := by
  induction pre with
  | nil => exact h
  | cons c pre ih =>
    rw [List.mem_cons, not_or] at hpre
    exact ih hpre.2 (question_suffix_of_cons (Ne.symm hpre.1) h)

/-- nor by a line end. -/
theorem question_suffix_behindLineEnd (c : Char) (h : '?' :: ys <:+ cs) :
    '?' :: ys <:+ behindLineEnd c cs := by
  obtain ⟨feed, hfeed, hall⟩ := exists_behindLineEnd c cs
  rw [hfeed] at h
  exact question_suffix_of_append (fun hmark => absurd (hall '?' hmark) (by decide)) h

/-- An escape ends in front of a question mark or right behind it. -/
theorem readEscape?_question (h : readEscape? cs = some (us, rest)) (hmark : '?' :: ys <:+ cs) :
    '?' :: ys <:+ rest ∨ rest = ys := by
  obtain ⟨d, pre, rfl, -, hpre⟩ := readEscape?_eq_some h
  rcases List.suffix_cons_iff.1 hmark with heq | hbehind
  · have hself : readEscape? ('?' :: ys) = some (codeUnits '?', ys) := rfl
    rw [← heq] at h
    cases hself.symm.trans h
    exact .inr rfl
  · exact .inl (question_suffix_of_append hpre hbehind)

/-- A text ends in front of a question mark, or what stands behind the question mark is read. -/
theorem readText?_question (h : readText? zs = some (us, e, rest)) (hmark : '?' :: ys <:+ zs) :
    '?' :: ys <:+ rest ∨ ∃ vs, readText? ys = some (vs, e, rest) := by
  -- the steps of reading end in front of the question mark, right behind it, or in what follows
  fun_induction readText? zs generalizing us with
  | case1 => cases h
  | case2 cs =>
    cases h
    exact .inl (question_suffix_of_cons (by decide) hmark)
  | case3 c cs _ hopen =>
    cases h
    obtain ⟨rfl, hbrace⟩ := hopen
    have hcs := question_suffix_of_cons (by decide) hmark
    rw [List.eq_cons_of_mem_head? hbrace] at hcs
    exact .inl (question_suffix_of_cons (by decide) hcs)
  | case4 cs vs rest' hread _ _ ih =>
    obtain ⟨⟨ws, p⟩, hrest, heq⟩ := Option.map_eq_some_iff.1 h
    cases heq
    rcases readEscape?_question hread (question_suffix_of_cons (by decide) hmark) with hcs | rfl
    · exact ih hrest hcs
    · exact .inr ⟨ws, hrest⟩
  | case5 => cases h
  | case6 cs _ _ _ ih =>
    obtain ⟨⟨ws, p⟩, hrest, heq⟩ := Option.map_eq_some_iff.1 h
    cases heq
    exact ih hrest (question_suffix_behindLineEnd _ (question_suffix_of_cons (by decide) hmark))
  | case7 c cs hb ho hs hr ih =>
    obtain ⟨⟨ws, p⟩, hrest, heq⟩ := Option.map_eq_some_iff.1 h
    cases heq
    rcases List.suffix_cons_iff.1 hmark with heq | hcs
    · cases heq
      exact .inr ⟨ws, hrest⟩
    · exact ih hrest hcs

end

/-! ## Template literals -/

/-- Whether a character can stand in the source of an expression that has no braces, literals,
comments or quotients in it. -/
def isPlainSource (c : Char) : Bool := !(['\x7b', '\x7d', '\'', '"', '`', '/'].contains c)

/-- Reads the source of an expression up to the brace behind it. Sources that are not plain are not
read. -/
def readExpression? (cs : List Char) : Option (List Char × List Char) :=
  match cs.dropWhile isPlainSource with
  | '\x7d' :: rest => some (cs.takeWhile isPlainSource, rest)
  | _ => none

/-- What is read is a source with the brace behind it. -/
theorem readExpression?_eq_some {cs source rest : List Char}
    (h : readExpression? cs = some (source, rest)) : cs = source ++ '\x7d' :: rest := by
  rw [readExpression?] at h
  split at h
  · rename_i hrest
    cases h
    rw [← hrest, List.takeWhile_append_dropWhile]
  · cases h

/-- A plain source is read up to the brace behind it. -/
theorem readExpression?_of_plain {source rest : List Char}
    (h : ∀ c ∈ source, isPlainSource c = true) :
    readExpression? (source ++ '\x7d' :: rest) = some (source, rest) := by
  have hbrace : isPlainSource '\x7d' = false := by decide
  rw [readExpression?, List.dropWhile_append_of_pos h, List.takeWhile_append_of_pos h]
  simp [hbrace]

/-- A template literal: the text up to the first expression, then the source of each expression with
the text behind it. -/
structure TemplateLiteral where
  head : List Nat
  substitutions : List (List Char × List Nat)
  deriving DecidableEq

/-- Reads a template literal from behind its opening backtick. -/
def readTemplate? (cs : List Char) : Option (TemplateLiteral × List Char) :=
  match _ : readText? cs with
  | none => none
  | some (us, .backtick, rest) => some (⟨us, []⟩, rest)
  | some (us, .opening, rest) =>
    match _ : readExpression? rest with
    | none => none
    | some (source, rest') =>
      (readTemplate? rest').map fun p =>
        (⟨us, (source, p.1.head) :: p.1.substitutions⟩, p.2)
termination_by cs.length
decreasing_by
  have htext := length_readText?_lt ‹readText? cs = some (us, .opening, rest)›
  have hsource := congrArg List.length
    (readExpression?_eq_some ‹readExpression? rest = some (source, rest')›)
  simp only [List.length_append, List.length_cons] at hsource
  omega

section
variable {cs pre source rest after : List Char} {us vs : List Nat}

/-- A literal without an expression is one text. -/
theorem readTemplate?_eq_text_iff :
    readTemplate? cs = some (⟨us, []⟩, after) ↔ readText? cs = some (us, .backtick, after) := by
  rw [readTemplate?]
  constructor
  · intro h
    split at h
    · cases h
    · cases h
      assumption
    · split at h
      · cases h
      · obtain ⟨p, -, hp⟩ := Option.map_eq_some_iff.1 h
        cases hp
  · intro h
    split <;> simp_all

/-- A literal with one expression is a text, the source, and another text. -/
theorem readTemplate?_eq_substitution_iff :
    readTemplate? cs = some (⟨us, [(source, vs)]⟩, after) ↔
      ∃ rest rest', readText? cs = some (us, .opening, rest) ∧
        readExpression? rest = some (source, rest') ∧
        readText? rest' = some (vs, .backtick, after) := by
  rw [readTemplate?]
  constructor
  · intro h
    split at h
    · cases h
    · cases h
    · rename_i us' rest htext
      split at h
      · cases h
      · rename_i source' rest' hsource
        obtain ⟨⟨⟨head, subs⟩, after'⟩, htail, heq⟩ := Option.map_eq_some_iff.1 h
        cases heq
        exact ⟨rest, rest', htext, hsource, readTemplate?_eq_text_iff.1 htail⟩
  · rintro ⟨rest, rest', htext, hsource, htail⟩
    split
    · simp_all
    · simp_all
    · rename_i htext'
      rw [htext] at htext'
      cases htext'
      split
      · simp_all
      · rename_i hsource'
        rw [hsource] at hsource'
        cases hsource'
        rw [readTemplate?_eq_text_iff.2 htail]
        rfl

/-- A literal that is put together from a text and a plain source is read as these two, and ends
where it was meant to, exactly if the text can be written into a template literal. -/
theorem readTemplate?_substitution_iff (h : ∀ c ∈ source, isPlainSource c = true) :
    readTemplate? (pre ++ ('$' :: '\x7b' :: (source ++ '\x7d' :: '`' :: after))) =
      some (⟨units pre, [(source, [])]⟩, after) ↔ StandsInTemplate pre := by
  rw [readTemplate?_eq_substitution_iff]
  constructor
  · rintro ⟨rest, rest', htext, hsource, htail⟩
    obtain ⟨front, hfront, hlen, hstands⟩ := readText?_eq_some htext
    obtain ⟨back, rfl, -⟩ := readText?_eq_some htail
    rw [readExpression?_eq_some hsource] at hfront
    have hsize := congrArg List.length hfront
    simp only [TextEnd.source, List.length_append, List.length_cons, List.length_nil] at hsize
    -- what was read of the text is a part of it, and has as many units as all of it
    obtain ⟨lost, rfl⟩ : front <+: pre :=
      List.prefix_of_prefix_length_le ⟨_, hfront.symm⟩ ⟨_, rfl⟩ (by omega)
    have hlost : units lost = [] := by
      rw [units_append, List.length_append] at hlen
      exact List.length_eq_zero_iff.1 (by omega)
    rw [units_eq_nil_iff.1 hlost, List.append_nil] at hstands ⊢
    exact hstands rfl
  · intro hstands
    exact ⟨_, _, readText?_of_standsInTemplate (e := .opening) hstands,
      readExpression?_of_plain h,
      readText?_of_standsInTemplate (e := .backtick) standsInTemplate_nil⟩

/-- If a question mark stands in front of the expression, it does not matter where the
literal ends. -/
theorem readTemplate?_question_iff (h : ∀ c ∈ source, isPlainSource c = true) :
    (∃ rest, readTemplate? (pre ++ '?' :: '$' :: '\x7b' :: (source ++ '\x7d' :: '`' :: after)) =
      some (⟨units (pre ++ ['?']), [(source, [])]⟩, rest)) ↔ StandsInTemplate pre := by
  have hsource : pre ++ '?' :: '$' :: '\x7b' :: (source ++ '\x7d' :: '`' :: after) =
      (pre ++ ['?']) ++ '$' :: '\x7b' :: (source ++ '\x7d' :: '`' :: after) := by simp
  have hconcat : StandsInTemplate (pre ++ ['?']) ↔ StandsInTemplate pre :=
    standsInTemplate_concat_iff (by decide) (by decide) (by decide) (by decide)
  rw [← hconcat]
  constructor
  · rintro ⟨rest, hread⟩
    obtain ⟨behind, -, htext, -, -⟩ := readTemplate?_eq_substitution_iff.1 hread
    obtain ⟨front, hfront, hlen, hstands⟩ := readText?_eq_some htext
    rcases readText?_question htext (List.suffix_append _ _) with ⟨mid, rfl⟩ | ⟨vs, hrest⟩
    · -- a text that ends in front of the question mark has too few units
      have hpre : pre = front ++ '$' :: '\x7b' :: mid :=
        List.append_cancel_right (hfront.trans (by simp [TextEnd.source]))
      have hdollar := codeUnits_pos '$'
      simp only [hpre, units_append, units_cons, List.length_append] at hlen
      omega
    · have hopening : readText? ('$' :: '\x7b' :: (source ++ '\x7d' :: '`' :: after)) = _ :=
        readText?_of_standsInTemplate (e := .opening) standsInTemplate_nil
      cases hopening.symm.trans hrest
      have hfront : pre ++ ['?'] = front := List.append_cancel_right (hsource.symm.trans hfront)
      exact hfront ▸ hstands (congrArg units hfront)
  · rw [hsource]
    exact fun hstands => ⟨after, (readTemplate?_substitution_iff h).2 hstands⟩

end

end Scaffold.TypeScript
