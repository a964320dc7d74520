import Mathlib.Data.List.Chain
import Mathlib.Data.List.Infix
import Scaffold.Proofs.Text.Trim
import Scaffold.Proofs.TypeScript.Literal
import Scaffold.Proofs.TypeScript.OneLine

/-!
# How comments are read

A block comment ends with the first `*/` in it. `readComment?` reads one and answers with what
stands between its ends and with what is left of the text. The text of a comment is made of words
with single blanks between them, so breaking up every `*/` can be done word by word
(`breakEnds_intercalate`), and doing it again changes nothing. The main statements are
`commentText_commentChars`, which says what the text of a comment is like, and
`readComment?_commentText`: a comment that is written around such a text is read as that text.
-/

namespace Scaffold.TypeScript

open Text (Blanks Trimmed isBlank words wordsFrom)

variable {cs rest : List Char} {c : Char} {ws : List (List Char)}

/-! ## Ends of comments -/

/-- The two characters that end a comment. -/
def commentEnd : List Char := ['*', '/']

/-- An end of a comment begins a text, or is further on in it. -/
theorem commentEnd_infix_cons_iff :
    commentEnd <:+: c :: cs ↔ (c = '*' ∧ cs.head? = some '/') ∨ commentEnd <:+: cs := by
  rw [List.infix_cons_iff, commentEnd, List.cons_prefix_cons, List.head?_eq_some_iff, eq_comm]
  refine or_congr_left (and_congr_right fun _ => ?_)
  exact ⟨fun ⟨r, hr⟩ => ⟨r, hr.symm⟩, fun ⟨r, hr⟩ => ⟨r, hr.symm⟩⟩

/-- Breaking up ends of comments keeps the character in front. -/
theorem head?_breakEnds (cs : List Char) : (breakEnds cs).head? = cs.head? := by
  fun_cases breakEnds cs <;> rfl

/-- No end of a comment is left. -/
theorem not_commentEnd_infix_breakEnds (cs : List Char) : ¬ commentEnd <:+: breakEnds cs := by
  fun_induction breakEnds cs with
  | case1 rest ih =>
    simp only [commentEnd_infix_cons_iff, List.head?_cons]
    simp [ih]
  | case2 d rest hend ih =>
    rw [commentEnd_infix_cons_iff, head?_breakEnds]
    rintro (⟨rfl, hslash⟩ | hinfix)
    · obtain ⟨tail, rfl⟩ := List.head?_eq_some_iff.1 hslash
      exact hend tail rfl rfl
    · exact ih hinfix
  | case3 => simp [commentEnd]

/-- A text without ends of comments stays as it is. -/
theorem breakEnds_eq_self (h : ¬ commentEnd <:+: cs) : breakEnds cs = cs := by
  fun_induction breakEnds cs with
  | case1 rest ih => exact absurd (commentEnd_infix_cons_iff.2 (.inl ⟨rfl, rfl⟩)) h
  | case2 d rest _ ih => rw [ih fun hinfix => h (commentEnd_infix_cons_iff.2 (.inr hinfix))]
  | case3 => rfl

/-- Texts with a blank between them are broken up one by one. -/
theorem breakEnds_append_blank (cs ds : List Char) :
    breakEnds (cs ++ ' ' :: ds) = breakEnds cs ++ ' ' :: breakEnds ds := by
  fun_induction breakEnds cs with
  | case1 rest ih => rw [List.cons_append, List.cons_append, breakEnds, ih]; rfl
  | case2 d rest hend ih =>
    rw [List.cons_append, breakEnds, ih]
    · rfl
    · rintro tail rfl htail
      cases rest with
      | nil => cases htail
      | cons e rest =>
        cases htail
        exact hend rest rfl rfl
  | case3 => rw [List.nil_append, breakEnds] <;> simp

/-- Breaking up joined words is breaking up each of them. -/
theorem breakEnds_intercalate (ws : List (List Char)) :
    breakEnds ([' '].intercalate ws) = [' '].intercalate (ws.map breakEnds) := by
  induction ws with
  | nil => rfl
  | cons w ws ih =>
    cases ws with
    | nil => simp
    | cons v ws =>
      rw [List.map_cons] at ih ⊢
      rw [List.map_cons, List.intercalate_cons_cons, List.intercalate_cons_cons, List.append_assoc,
        List.append_assoc, List.singleton_append, List.singleton_append, breakEnds_append_blank, ih]

/-! ## Words -/

/-- One or more characters that are not blank. -/
structure IsWord (w : List Char) : Prop where
  ne_nil : w ≠ []
  not_blank : ∀ c ∈ w, isBlank c = false

/-- A text consists of words. -/
theorem isWord_of_mem_words {w : List Char} (h : w ∈ words cs) : IsWord w := by
  refine ⟨?_, isBlank_of_mem_wordsFrom (List.forall_mem_nil _) w h⟩
  have hne (word : List Char) : ∀ w ∈ wordsFrom word cs, w ≠ [] := by
    clear h
    fun_induction wordsFrom word cs <;> simp_all
  exact hne [] w h

/-- The characters of a word are read one by one. -/
theorem wordsFrom_append {w : List Char} (h : ∀ c ∈ w, isBlank c = false) (word : List Char) :
    wordsFrom word (w ++ cs) = wordsFrom (w.reverse ++ word) cs := by
  induction w generalizing word with
  | nil => rfl
  | cons c w ih =>
    rw [List.forall_mem_cons] at h
    rw [List.cons_append, wordsFrom, h.1, if_neg Bool.false_ne_true, ih h.2, List.reverse_cons,
      List.append_assoc, List.singleton_append]

/-- A word ends in front of a blank. -/
theorem words_append_blank {w : List Char} (h : IsWord w) :
    words (w ++ ' ' :: cs) = w :: words cs := by
  rw [words, wordsFrom_append h.not_blank, List.append_nil, wordsFrom,
    if_pos (show isBlank ' ' = true from rfl), if_neg (by simpa using h.ne_nil),
    List.reverse_reverse, words]

/-- Words that are joined are read back. -/
theorem words_intercalate (h : ∀ w ∈ ws, IsWord w) : words ([' '].intercalate ws) = ws := by
  induction ws with
  | nil => rfl
  | cons w ws ih =>
    obtain ⟨hw, hws⟩ := List.forall_mem_cons.1 h
    cases ws with
    | nil =>
      rw [List.intercalate_singleton, words, ← List.append_nil w, wordsFrom_append hw.not_blank,
        wordsFrom, if_neg (by simpa using hw.ne_nil), List.append_nil, List.append_nil,
        List.reverse_reverse]
    | cons v ws =>
      rw [List.intercalate_cons_cons, List.append_assoc, List.singleton_append,
        words_append_blank hw, ih hws]

/-- Only blanks make no words. -/
theorem words_eq_nil_iff : words cs = [] ↔ Blanks cs := by
  have hfrom (word : List Char) : wordsFrom word cs = [] ↔ word = [] ∧ Blanks cs := by
    fun_induction wordsFrom word cs <;> simp_all [Blanks]
  rw [words, hfrom, and_iff_right rfl]

/-- A word stays one when ends of comments in it are broken up. -/
theorem IsWord.breakEnds {w : List Char} (h : IsWord w) : IsWord (breakEnds w) := by
  refine ⟨fun hnil => ?_, fun c hc => ?_⟩
  · have hhead := head?_breakEnds w
    rw [hnil, List.head?_nil, eq_comm, List.head?_eq_none_iff] at hhead
    exact h.ne_nil hhead
  · obtain hc | rfl := mem_of_mem_breakEnds hc
    · exact h.not_blank c hc
    · rfl

/-! ## The text of a comment -/

/-- Words with single blanks between them. -/
structure Tidy (cs : List Char) : Prop where
  trimmed : Trimmed cs
  /-- Of two neighbours, one at least is no blank. -/
  single : cs.IsChain fun a b => ¬ (isBlank a = true ∧ isBlank b = true)
  /-- The space is the only blank. -/
  space : ∀ c ∈ cs, isBlank c = true → c = ' '

/-- A word is tidy. -/
theorem IsWord.tidy {w : List Char} (h : IsWord w) : Tidy w where
  trimmed := ⟨fun c hc => h.not_blank c (List.mem_of_mem_head? hc),
    fun c hc => h.not_blank c (List.mem_of_getLast? hc)⟩
  single := by
    refine List.Pairwise.isChain (List.pairwise_of_forall_mem_list fun a ha b _ hblank => ?_)
    rw [h.not_blank a ha] at hblank
    exact Bool.false_ne_true hblank.1
  space c hc hblank := by
    rw [h.not_blank c hc] at hblank
    cases hblank

/-- A word and a blank may stand in front of a tidy text. -/
theorem Tidy.cons_word {w : List Char} (h : Tidy cs) (hcs : cs ≠ []) (hw : IsWord w) :
    Tidy (w ++ ' ' :: cs) where
  trimmed := by
    refine ⟨fun c hc => ?_, fun c hc => ?_⟩
    · rw [List.head?_append_of_ne_nil _ hw.ne_nil] at hc
      exact hw.tidy.trimmed.head c hc
    · rw [List.getLast?_append_of_ne_nil _ (List.cons_ne_nil _ _),
        List.getLast?_cons_of_ne_nil hcs] at hc
      exact h.trimmed.last c hc
  single := by
    refine List.isChain_append.2 ⟨hw.tidy.single,
      List.isChain_cons.2 ⟨fun b hb hblank => ?_, h.single⟩, fun a ha b _ hblank => ?_⟩
    · rw [h.trimmed.head b hb] at hblank
      exact Bool.false_ne_true hblank.2
    · rw [hw.tidy.trimmed.last a ha] at hblank
      exact Bool.false_ne_true hblank.1
  space c hc hblank := by
    rw [List.mem_append, List.mem_cons] at hc
    rcases hc with hc | rfl | hc
    · exact hw.tidy.space c hc hblank
    · rfl
    · exact h.space c hc hblank

/-- One word or more make a text that is not empty. -/
theorem intercalate_eq_nil_iff (h : ∀ w ∈ ws, IsWord w) : [' '].intercalate ws = [] ↔ ws = [] := by
  refine ⟨fun hnil => ?_, fun hnil => by rw [hnil]; rfl⟩
  cases ws with
  | nil => rfl
  | cons w ws =>
    have hw := (h w (.head _)).ne_nil
    cases ws with
    | nil => exact absurd (by simpa using hnil) hw
    | cons v ws => simp [List.intercalate_cons_cons] at hnil

/-- Words that are joined are tidy. -/
theorem tidy_intercalate (h : ∀ w ∈ ws, IsWord w) : Tidy ([' '].intercalate ws) := by
  induction ws with
  | nil => exact ⟨⟨nofun, nofun⟩, .nil, nofun⟩
  | cons w ws ih =>
    obtain ⟨hw, hws⟩ := List.forall_mem_cons.1 h
    cases ws with
    | nil =>
      rw [List.intercalate_singleton]
      exact hw.tidy
    | cons v ws =>
      rw [List.intercalate_cons_cons, List.append_assoc, List.singleton_append]
      exact (ih hws).cons_word (mt (intercalate_eq_nil_iff hws).1 (List.cons_ne_nil _ _)) hw

/-- The text of a comment is made of words, in which ends of comments are broken up. -/
theorem exists_commentChars (cs : List Char) : ∃ ws, (∀ w ∈ ws, IsWord w) ∧
    commentChars cs = [' '].intercalate ws ∧ (ws = [] ↔ Blanks cs) := by
  refine ⟨(words cs).map breakEnds, ?_, breakEnds_intercalate (words cs), ?_⟩
  · exact List.forall_mem_map.2 fun w hw => (isWord_of_mem_words hw).breakEnds
  · rw [List.map_eq_nil_iff, words_eq_nil_iff]

/-- What the text of a comment is like that is made from another text. -/
structure CommentText (cs : List Char) (text : List Char) : Prop where
  no_end : ¬ commentEnd <:+: text
  no_line_end : ∀ c ∈ text, isLineEnd c = false
  tidy : Tidy text
  eq_nil_iff : text = [] ↔ Blanks cs
  fixed : commentChars text = text

/-- A line end is a blank, but no space. -/
theorem isLineEnd_eq_false (h : isBlank c = true → c = ' ') : isLineEnd c = false := by
  rw [Bool.eq_false_iff]
  intro hend
  simp only [isLineEnd, Bool.or_eq_true, beq_iff_eq] at hend
  rcases hend with ((rfl | rfl) | rfl) | rfl <;> exact absurd (h rfl) (by decide)

/-- The text of a comment is tidy, cannot end the comment or its line, and is not changed again. -/
theorem commentText_commentChars (cs : List Char) : CommentText cs (commentChars cs) := by
  obtain ⟨ws, hws, htext, hnil⟩ := exists_commentChars cs
  have htidy : Tidy (commentChars cs) := htext ▸ tidy_intercalate hws
  have hend := not_commentEnd_infix_breakEnds ([' '].intercalate (words cs))
  refine ⟨hend, fun c hc => isLineEnd_eq_false (htidy.space c hc), htidy, ?_, ?_⟩
  · rw [htext, intercalate_eq_nil_iff hws, hnil]
  · rw [commentChars, htext, words_intercalate hws, ← htext]
    exact breakEnds_eq_self hend

/-! ## Reading -/

/-- Reads what stands in front of the first end of a comment. -/
def closeComment? : List Char → Option (List Char × List Char)
  | '*' :: '/' :: rest => some ([], rest)
  | c :: rest => (closeComment? rest).map fun p => (c :: p.1, p.2)
  | [] => none

/-- Reads a block comment. -/
def readComment? : List Char → Option (List Char × List Char)
  | '/' :: '*' :: cs => closeComment? cs
  | _ => none

/-- A text without ends of comments is read up to the end behind it, if a blank stands in
between. -/
theorem closeComment?_append (h : ¬ commentEnd <:+: cs) (rest : List Char) :
    closeComment? (cs ++ ' ' :: '*' :: '/' :: rest) = some (cs ++ [' '], rest) := by
  induction cs with
  | nil => rfl
  | cons c cs ih =>
    rw [commentEnd_infix_cons_iff, not_or] at h
    rw [List.cons_append, closeComment?, ih h.2]
    · rfl
    · rintro tail rfl htail
      cases cs with
      | nil => cases htail
      | cons d cs =>
        cases htail
        exact h.1 ⟨rfl, rfl⟩

/-- A comment that is written around the text of one is read as that text. -/
theorem readComment?_commentText (s : String) (rest : List Char) :
    readComment? (("/** " ++ commentText s ++ " */").toList ++ rest) =
      some (("* " ++ commentText s ++ " ").toList, rest) := by
  have hend : ¬ commentEnd <:+: '*' :: ' ' :: (commentText s).toList := by
    rw [commentText, String.toList_ofList, commentEnd_infix_cons_iff, commentEnd_infix_cons_iff]
    simp [(commentText_commentChars s.toList).no_end]
  have hread := closeComment?_append hend rest
  simpa [readComment?] using hread

end Scaffold.TypeScript
