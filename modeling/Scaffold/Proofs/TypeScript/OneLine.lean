import Scaffold.Proofs.Text.Lines
import Scaffold.TypeScript.Comment
import Scaffold.TypeScript.StringLiteral

/-!
# Texts on one line

Quoted texts and comments have no line break, whatever they are made from: a literal escapes it, and
a comment has blanks in place of all white space.
-/

namespace Scaffold.TypeScript

open Text (IsLine isBlank isLine_ofList mem_of_mem_intercalate words wordsFrom)

variable {cs : List Char} {c : Char}

/-- No line break is left of an escaped character. -/
theorem ne_break_of_mem_escapeChar {d : Char} (h : d ∈ escapeChar c) : d ≠ '\n' := by
  rintro rfl
  revert h
  unfold escapeChar
  split <;> simp_all [eq_comm]

/-- A literal stands on one line. -/
theorem isLine_quote (s : String) : IsLine (quote s) := by
  refine isLine_ofList fun c hc => ?_
  rw [quoteChars, List.mem_cons, List.mem_append, List.mem_flatMap, List.mem_singleton] at hc
  obtain rfl | ⟨d, -, hd⟩ | rfl := hc
  · decide
  · exact ne_break_of_mem_escapeChar hd
  · decide

/-- Breaking up the ends of comments brings in backslashes alone. -/
theorem mem_of_mem_breakEnds (h : c ∈ breakEnds cs) : c ∈ cs ∨ c = '\\' := by
  fun_induction breakEnds cs with
  | case1 rest ih =>
    simp only [List.mem_cons] at h ⊢
    tauto
  | case2 d rest _ ih =>
    simp only [List.mem_cons] at h ⊢
    tauto
  | case3 => exact .inl h

/-- A word has no blanks. -/
theorem isBlank_of_mem_wordsFrom {word : List Char} (hword : ∀ c ∈ word, isBlank c = false) :
    ∀ w ∈ wordsFrom word cs, ∀ c ∈ w, isBlank c = false := by
  have hreverse {word : List Char} (h : ∀ c ∈ word, isBlank c = false) :
      ∀ c ∈ word.reverse, isBlank c = false := fun c hc => h c (List.mem_reverse.1 hc)
  induction cs generalizing word with
  | nil =>
    rw [wordsFrom]
    split
    · exact List.forall_mem_nil _
    · exact List.forall_mem_singleton.2 (hreverse hword)
  | cons d cs ih =>
    rw [wordsFrom]
    split
    · split
      · exact ih (List.forall_mem_nil _)
      · exact List.forall_mem_cons.2 ⟨hreverse hword, ih (List.forall_mem_nil _)⟩
    · rename_i hblank
      exact ih (List.forall_mem_cons.2 ⟨by simpa using hblank, hword⟩)

/-- A comment stands on one line. -/
theorem isLine_commentText (s : String) : IsLine (commentText s) := by
  have hwords : '\n' ∉ [' '].intercalate (words s.toList) := by
    intro h
    obtain h | ⟨w, hw, hbreak⟩ := mem_of_mem_intercalate h
    · exact absurd h (by decide)
    · exact absurd (isBlank_of_mem_wordsFrom (List.forall_mem_nil _) w hw _ hbreak) (by decide)
  refine isLine_ofList fun c hc => ?_
  rintro rfl
  exact (mem_of_mem_breakEnds hc).elim hwords (by decide)

end Scaffold.TypeScript
