import Mathlib.Data.List.TakeWhile
import Scaffold.Yaml.Write

/-!
# Gaps in YAML scalars

How the reader passes the blanks and breaks between two words. What is written has spaces as its
only blanks, and the breaks in it are line feeds and line and paragraph separators (`isPrintable`),
each of which is read as itself (`readBreak_cons`). Blanks stand for themselves (`readGap_blanks`);
the spaces behind a break stand for nothing (`readGap_break`).
-/

namespace Scaffold.Yaml

variable {b : Char} {cs rest : List Char} {index line column : Nat}

/-! ## Cursors -/

/-- A cursor goes past the text in front of it. -/
theorem Cursor.skip_append (cs rest : List Char) (index line column : Nat) :
    Cursor.skip ⟨cs ++ rest, index, line, column⟩ cs.length =
      ⟨rest, index + cs.length, line, column + cs.length⟩ := by
  simp [Cursor.skip]

/-- A cursor goes past a character. -/
theorem Cursor.skip_cons (c : Char) (rest : List Char) (index line column : Nat) :
    Cursor.skip ⟨c :: rest, index, line, column⟩ 1 = ⟨rest, index + 1, line, column + 1⟩ := rfl

/-- Only at the start of a line is there a mark of a document. -/
theorem Cursor.atDocumentMark_of_column (h : 0 < column) :
    Cursor.atDocumentMark ⟨cs, index, line, column⟩ = false := by
  have hcolumn : (column == 0) = false := by simp [Nat.ne_of_gt h]
  simp [Cursor.atDocumentMark, Cursor.atMark, hcolumn]

/-- A break that needs no escape is read as itself. -/
theorem Cursor.readBreak_cons (hbreak : isBreak b = true) (hprint : isPrintable b = true) :
    Cursor.readBreak ⟨b :: rest, index, line, column⟩ = ([b], ⟨rest, index + 1, line + 1, 0⟩) := by
  have hb : b = '\n' ∨ b = '\u2028' ∨ b = '\u2029' := by
    simp only [isBreak, Bool.or_eq_true, beq_iff_eq] at hbreak
    rcases hbreak with (((rfl | rfl) | rfl) | rfl) | rfl
    · exact .inl rfl
    · cases hprint
    · cases hprint
    · exact .inr (.inl rfl)
    · exact .inr (.inr rfl)
  rcases hb with rfl | rfl | rfl <;> rfl

/-! ## Characters that need no escape -/

/-- Such a character may stand in a YAML text. -/
theorem isAllowed_of_isPrintable (h : isPrintable b = true) : isAllowed b = true := by
  simp only [isPrintable, isAllowed, Bool.or_eq_true, Bool.and_eq_true, decide_eq_true_eq,
    beq_iff_eq, bne_iff_ne] at h ⊢
  omega

/-- The only blank among them is the space. -/
theorem eq_space_of_isSeparator (hprint : isPrintable b = true) (hbreak : isBreak b = false)
    (h : isSeparator b = true) : b = ' ' := by
  simp only [isSeparator, isBlank, hbreak, Bool.or_false, Bool.or_eq_true, beq_iff_eq] at h
  refine h.resolve_right ?_
  rintro rfl
  cases hprint

/-! ## Runs of characters -/

/-- A text begins with the longest run of characters of a class. -/
theorem exists_run (p : Char → Bool) (cs : List Char) :
    ∃ run more, cs = run ++ more ∧ (∀ c ∈ run, p c = true) ∧ ∀ c, more.head? = some c →
      p c = false := by
  refine ⟨cs.takeWhile p, cs.dropWhile p, List.takeWhile_append_dropWhile.symm,
    fun c hc => List.mem_takeWhile_imp hc, fun c hc => ?_⟩
  have := List.head?_dropWhile_not p cs
  rw [hc] at this
  simpa using this

/-- A text begins with as many spaces as it has in front of the first other character. -/
theorem exists_spaces (cs : List Char) :
    ∃ n more, cs = List.replicate n ' ' ++ more ∧ more.head? ≠ some ' ' := by
  obtain ⟨run, more, rfl, hrun, hmore⟩ := exists_run (· == ' ') cs
  refine ⟨run.length, more, ?_, fun h => by simpa using hmore ' ' h⟩
  rw [← List.eq_replicate_of_mem fun c hc => by simpa using hrun c hc]

/-! ## Gaps -/

/-- Whether a text goes on without blank or break. -/
def GoesOn (cs : List Char) : Prop := ∀ c, cs.head? = some c → isSeparator c = false

/-- A text that needs no escape goes on if it begins with neither break nor space. -/
theorem goesOn_of_ne (hprint : ∀ c ∈ cs, isPrintable c = true)
    (hbreak : ∀ c, cs.head? = some c → isBreak c = false) (hspace : cs.head? ≠ some ' ') :
    GoesOn cs := by
  refine fun c hc => Bool.eq_false_iff.2 fun hsep => hspace ?_
  rw [hc, eq_space_of_isSeparator (hprint c (List.mem_of_mem_head? hc)) (hbreak c hc) hsep]

theorem goesOn_cons {c : Char} (h : isSeparator c = false) (cs : List Char) : GoesOn (c :: cs) := by
  intro d hd
  cases hd
  exact h

/-- A text goes on as its front does. -/
theorem GoesOn.append (h : GoesOn cs) (hne : cs ≠ []) (rest : List Char) : GoesOn (cs ++ rest) := by
  obtain ⟨c, cs, rfl⟩ := List.exists_cons_of_ne_nil hne
  exact h

/-- A gap ends where the text goes on. -/
theorem readGap_of_goesOn {indent fuel : Nat} {g : Gap} (hfuel : 0 < fuel) (h : GoesOn rest) :
    readGap indent fuel g ⟨rest, index, line, column⟩ = some (g, ⟨rest, index, line, column⟩) := by
  obtain ⟨fuel, rfl⟩ := Nat.exists_eq_succ_of_ne_zero (Nat.ne_of_gt hfuel)
  cases rest with
  | nil => rfl
  | cons c rest =>
    have hc := h c rfl
    rw [isSeparator, Bool.or_eq_false_iff] at hc
    simp [readGap, hc]

/-- Spaces are blanks of the gap. -/
theorem readGap_blanks {indent fuel : Nat} {blanks : List Char} (n : Nat) (hfuel : n < fuel)
    (h : GoesOn rest) :
    readGap indent fuel { blanks } ⟨List.replicate n ' ' ++ rest, index, line, column⟩ =
      some ({ blanks := blanks ++ List.replicate n ' ' }, ⟨rest, index + n, line, column + n⟩) := by
  induction n generalizing fuel blanks index column with
  | zero =>
    rw [List.replicate_zero, List.nil_append, List.append_nil, readGap_of_goesOn hfuel h]
    rfl
  | succ n ih =>
    obtain ⟨fuel, rfl⟩ := Nat.exists_eq_succ_of_ne_zero (Nat.ne_of_gt (Nat.zero_lt_of_lt hfuel))
    rw [List.replicate_succ, List.cons_append, readGap]
    simp only [show isBlank ' ' = true from rfl, if_true, Bool.false_eq_true, if_false,
      Cursor.skip_cons]
    rw [ih (Nat.lt_of_succ_lt_succ hfuel)]
    simp only [List.append_assoc, List.singleton_append, Nat.add_assoc, Nat.add_comm 1 n]

/-- Spaces behind a break are passed over. -/
theorem readGap_spaces {indent fuel : Nat} {first others : List Char} (n : Nat) (hfuel : n < fuel)
    (h : GoesOn rest) :
    readGap indent fuel { broken := true, first, others }
        ⟨List.replicate n ' ' ++ rest, index, line, column⟩ =
      some ({ broken := true, first, others }, ⟨rest, index + n, line, column + n⟩) := by
  induction n generalizing fuel index column with
  | zero => exact readGap_of_goesOn hfuel h
  | succ n ih =>
    obtain ⟨fuel, rfl⟩ := Nat.exists_eq_succ_of_ne_zero (Nat.ne_of_gt (Nat.zero_lt_of_lt hfuel))
    have htab : (' ' == '\t') = false := rfl
    rw [List.replicate_succ, List.cons_append, readGap]
    simp only [show isBlank ' ' = true from rfl, htab, if_true, Bool.false_and, Bool.false_eq_true,
      if_false, Cursor.skip_cons]
    rw [ih (Nat.lt_of_succ_lt_succ hfuel)]
    simp only [Nat.add_assoc, Nat.add_comm 1 n]

/-- A break is no blank. -/
theorem isBlank_of_isBreak (h : isBreak b = true) : isBlank b = false := by
  refine Bool.eq_false_iff.2 fun hblank => ?_
  simp only [isBlank, Bool.or_eq_true, beq_iff_eq] at hblank
  rcases hblank with rfl | rfl
  · cases h
  · cases h

/-- Behind a break, further breaks are other breaks of the gap. -/
theorem readGap_broken {indent fuel : Nat} {first others breaks : List Char}
    (hbreaks : ∀ b ∈ breaks, isBreak b = true ∧ isPrintable b = true) (n : Nat)
    (hfuel : breaks.length + n < fuel) (h : GoesOn rest) :
    ∃ index' line' column', n ≤ column' ∧
      readGap indent fuel { broken := true, first, others }
          ⟨breaks ++ (List.replicate n ' ' ++ rest), index, line, column⟩ =
        some ({ broken := true, first, others := others ++ breaks },
          ⟨rest, index', line', column'⟩) := by
  induction breaks generalizing fuel others index line column with
  | nil =>
    rw [List.nil_append, readGap_spaces n (by simpa using hfuel) h, List.append_nil]
    exact ⟨_, _, _, Nat.le_add_left n column, rfl⟩
  | cons b breaks ih =>
    obtain ⟨fuel, rfl⟩ := Nat.exists_eq_succ_of_ne_zero (Nat.ne_of_gt (Nat.zero_lt_of_lt hfuel))
    have hb := hbreaks b List.mem_cons_self
    have hfuel : breaks.length + n < fuel := by
      rw [List.length_cons] at hfuel
      omega
    rw [List.cons_append, readGap]
    simp only [isBlank_of_isBreak hb.1, hb.1, Bool.false_eq_true, if_false, if_true,
      Cursor.readBreak_cons hb.1 hb.2]
    rw [List.append_cons others b breaks]
    exact ih (fun d hd => hbreaks d (List.mem_cons_of_mem b hd)) hfuel

/-- A gap that begins with a break. -/
theorem readGap_break {indent fuel : Nat} {breaks : List Char}
    (hbreaks : ∀ d ∈ b :: breaks, isBreak d = true ∧ isPrintable d = true) (n : Nat)
    (hfuel : breaks.length + n + 1 < fuel) (h : GoesOn rest) :
    ∃ index' line' column', n ≤ column' ∧
      readGap indent fuel {}
          ⟨b :: (breaks ++ (List.replicate n ' ' ++ rest)), index, line, column⟩ =
        some ({ broken := true, first := [b], others := breaks },
          ⟨rest, index', line', column'⟩) := by
  obtain ⟨fuel, rfl⟩ := Nat.exists_eq_succ_of_ne_zero (Nat.ne_of_gt (Nat.zero_lt_of_lt hfuel))
  have hb := hbreaks b List.mem_cons_self
  rw [readGap]
  simp only [isBlank_of_isBreak hb.1, hb.1, Bool.false_eq_true, if_false, if_true,
    Cursor.readBreak_cons hb.1 hb.2]
  exact readGap_broken (fun d hd => hbreaks d (List.mem_cons_of_mem b hd)) n
    (Nat.lt_of_succ_lt_succ hfuel) h

/-- The end of a line, if the next one is not indented. -/
theorem readGap_lineEnd {indent fuel : Nat} (hfuel : 1 < fuel) (h : GoesOn rest) :
    readGap indent fuel {} ⟨'\n' :: rest, index, line, column⟩ =
      some ({ broken := true, first := ['\n'] }, ⟨rest, index + 1, line + 1, 0⟩) := by
  obtain ⟨fuel, rfl⟩ := Nat.exists_eq_succ_of_ne_zero (Nat.ne_of_gt (Nat.zero_lt_of_lt hfuel))
  rw [readGap]
  exact readGap_of_goesOn (Nat.lt_of_succ_lt_succ hfuel) h

/-- What a gap without break stands for. -/
theorem Gap.text_blanks (blanks : List Char) : Gap.text { blanks } = blanks := rfl

/-- What a gap stands for whose first break is not folded into a space. -/
theorem Gap.text_broken {breaks : List Char} (h : b ≠ '\n') :
    Gap.text { broken := true, first := [b], others := breaks } = b :: breaks := by
  simp [Gap.text, h]

end Scaffold.Yaml
