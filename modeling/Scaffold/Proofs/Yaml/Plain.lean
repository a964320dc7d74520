import Scaffold.Proofs.Yaml.Gaps

/-!
# Reading back plain YAML scalars

A text that can be written plain is read back from one line (`readPlain_append`). The induction is
over its words; from the start of each of them the rest of the text is a `PlainText`, which has no
colon in front of a blank, no number sign behind one, and no blank at its end.
-/

namespace Scaffold.Yaml

variable {p q : Char → Bool} {a b : Char} {cs ds rest : List Char} {index line column : Nat}

/-! ## Neighbours -/

/-- Two neighbours are found at the front or behind it. -/
theorem hasPair_cons (p q : Char → Bool) (a : Char) (cs : List Char) :
    hasPair p q (a :: cs) = (p a && cs.head?.any q || hasPair p q cs) := by
  cases cs with
  | nil => simp [hasPair]
  | cons b cs => rfl

/-- A text without a pair has none at its end. -/
theorem hasPair_of_append (cs : List Char) (h : hasPair p q (cs ++ ds) = false) :
    hasPair p q ds = false := by
  induction cs with
  | nil => exact h
  | cons c cs ih =>
    rw [List.cons_append, hasPair_cons, Bool.or_eq_false_iff] at h
    exact ih h.2

/-- Neighbours in a text without a pair are none. -/
theorem not_pair_of_append (h : hasPair p q (cs ++ a :: b :: ds) = false) (hp : p a = true) :
    q b = false := by
  have := hasPair_of_append cs h
  rw [hasPair_cons, Bool.or_eq_false_iff] at this
  simpa [hp] using this.1

/-- Behind a run of the one comes none of the other. -/
theorem not_pair_of_run {run : List Char} (h : hasPair p q (run ++ ds) = false) (hne : run ≠ [])
    (hrun : ∀ c ∈ run, p c = true) (c : Char) (hc : ds.head? = some c) : q c = false := by
  obtain ⟨ds, rfl⟩ := List.head?_eq_some_iff.1 hc
  rw [← List.dropLast_concat_getLast hne, List.append_assoc] at h
  exact not_pair_of_append h (hrun _ (List.getLast_mem hne))

/-! ## Words -/

/-- What can be read plain from the start of a word. -/
structure PlainText (cs : List Char) : Prop where
  nonempty : cs ≠ []
  goesOn : GoesOn cs
  printable : ∀ c ∈ cs, isPrintable c = true ∧ isBreak c = false
  colon : hasPair (· == ':') isSeparator cs = false
  number : hasPair isSeparator (· == '#') cs = false
  start : cs.head? ≠ some '#'
  lastColon : cs.getLast? ≠ some ':'
  lastBlank : cs.getLast? ≠ some ' '

/-- A text that is not empty and can be written plain. -/
theorem PlainText.of_canBePlain (hne : cs ≠ []) (h : canBePlain cs = true) : PlainText cs := by
  simp only [canBePlain, hasIndicator, needsEscape, Bool.not_eq_eq_eq_not, Bool.not_true,
    Bool.or_eq_false_iff, List.any_eq_false, beq_eq_false_iff_ne] at h
  obtain ⟨⟨⟨⟨⟨hbreak, hhead⟩, hlast⟩, hstart⟩, ⟨hcolon, hnumber⟩, hlastColon⟩, hprint, _⟩ := h
  have hprintable (c : Char) (hc : c ∈ cs) : isPrintable c = true ∧ isBreak c = false :=
    ⟨by simpa using hprint c hc, by simpa using hbreak c hc⟩
  have hgoes : GoesOn cs := goesOn_of_ne (fun c hc => (hprintable c hc).1)
    (fun c hc => (hprintable c (List.mem_of_mem_head? hc)).2) hhead
  refine ⟨hne, hgoes, hprintable, hcolon, hnumber, fun hc => ?_, hlastColon, hlast⟩
  obtain ⟨cs, rfl⟩ := List.head?_eq_some_iff.1 hc
  simp [startsWithIndicator] at hstart

/-- A word is read up to the blank or break behind it. -/
theorem plainWord_append (hword : ∀ c ∈ cs, isSeparator c = false) (hlast : cs.getLast? ≠ some ':')
    (hrest : endsHere rest = true) : plainWord false (cs ++ rest) = some cs := by
  induction cs with
  | nil =>
    cases rest with
    | nil => rfl
    | cons c rest =>
      rw [List.nil_append, plainWord, if_pos (by exact hrest)]
  | cons c cs ih =>
    have hsep := hword c List.mem_cons_self
    have hmore (d : Char) (hd : d ∈ cs) := hword d (List.mem_cons_of_mem c hd)
    have hends : c = ':' → endsHere (cs ++ rest) = false := by
      rintro rfl
      cases cs with
      | nil => exact absurd rfl hlast
      | cons d cs => exact hmore d List.mem_cons_self
    have ih : plainWord false (cs ++ rest) = some cs := by
      refine ih hmore ?_
      cases cs with
      | nil => simp
      | cons d cs => rwa [List.getLast?_cons_cons] at hlast
    rw [List.cons_append, plainWord, if_neg (by simp [hsep])]
    simp only [Bool.false_and, Bool.false_eq_true, if_false, ih, Option.map_some]
    split
    · rename_i hc
      rw [hends (by simpa using hc), if_neg Bool.false_ne_true]
    · rfl

/-- What stands behind a space can be read plain from its start, too. -/
theorem PlainText.behind_space {front : List Char} (h : PlainText (front ++ ' ' :: cs))
    (hspace : cs.head? ≠ some ' ') : PlainText cs := by
  have hne : cs ≠ [] := by
    rintro rfl
    exact h.lastBlank List.getLast?_concat
  have hlast : (front ++ ' ' :: cs).getLast? = cs.getLast? := by
    rw [List.append_cons, List.getLast?_append, Option.or_of_isSome (by simpa using hne)]
  have hprintable (c : Char) (hc : c ∈ cs) : isPrintable c = true ∧ isBreak c = false :=
    h.printable c (List.mem_append_right front (List.mem_cons_of_mem ' ' hc))
  have hgoes : GoesOn cs := goesOn_of_ne (fun c hc => (hprintable c hc).1)
    (fun c hc => (hprintable c (List.mem_of_mem_head? hc)).2) hspace
  refine ⟨hne, hgoes, hprintable, ?_, ?_, fun hc => ?_, hlast ▸ h.lastColon, hlast ▸ h.lastBlank⟩
  · exact hasPair_of_append [' '] (hasPair_of_append front h.colon)
  · exact hasPair_of_append [' '] (hasPair_of_append front h.number)
  · obtain ⟨cs, rfl⟩ := List.head?_eq_some_iff.1 hc
    cases not_pair_of_append h.number rfl

/-- The characters of a text up to the first blank or break, and the spaces behind them. -/
theorem PlainText.exists_word (h : PlainText cs) :
    ∃ word, word ≠ [] ∧ (∀ c ∈ word, isSeparator c = false) ∧ word.getLast? ≠ some ':' ∧
      (cs = word ∨ ∃ n more, cs = word ++ (List.replicate (n + 1) ' ' ++ more) ∧
        PlainText more) := by
  obtain ⟨word, back, rfl, hword, hback⟩ := exists_run (fun c => !isSeparator c) cs
  have hword (c : Char) (hc : c ∈ word) : isSeparator c = false := by simpa using hword c hc
  have hne : word ≠ [] := by
    rintro rfl
    obtain ⟨c, back, rfl⟩ := List.exists_cons_of_ne_nil h.nonempty
    have hsep := hback c rfl
    rw [h.goesOn c rfl] at hsep
    cases hsep
  cases back with
  | nil => exact ⟨word, hne, hword, by simpa using h.lastColon, .inl (List.append_nil word)⟩
  | cons d back =>
    have hd := h.printable d (List.mem_append_right word List.mem_cons_self)
    obtain rfl : d = ' ' := eq_space_of_isSeparator hd.1 hd.2 (by simpa using hback d rfl)
    have hcolon : word.getLast? ≠ some ':' := by
      intro hlast
      obtain ⟨word, rfl⟩ := List.getLast?_eq_some_iff.1 hlast
      have := h.colon
      rw [List.append_assoc, List.singleton_append] at this
      cases not_pair_of_append this rfl
    obtain ⟨n, more, rfl, hmore⟩ := exists_spaces back
    have hspaces : word ++ ' ' :: (List.replicate n ' ' ++ more) =
        word ++ List.replicate n ' ' ++ ' ' :: more := by
      rw [List.append_assoc, List.append_cons _ ' ' more, ← List.replicate_succ',
        List.replicate_succ, List.cons_append]
    exact ⟨word, hne, hword, hcolon, .inr ⟨n, more, rfl, (hspaces ▸ h).behind_space hmore⟩⟩

/-- What the reader does with a word: the scalar ends with it or goes on behind a gap. -/
theorem readPlain_word {indent fuel : Nat} {text word tail : List Char} {gap : Gap}
    (hne : word ≠ []) (hstart : word.head? ≠ some '#')
    (htail : plainWord false (word ++ tail) = some word)
    (hmark : Cursor.atDocumentMark ⟨word ++ tail, index, line, column⟩ = false) :
    readPlain false indent (fuel + 1) text gap ⟨word ++ tail, index, line, column⟩ =
      if tail.head?.any isSeparator then
        match readGap indent (tail.length + 1) {}
          ⟨tail, index + word.length, line, column + word.length⟩ with
        | none => none
        | some (next, c) =>
          if c.column < indent then some (text ++ gap.text ++ word, next.broken, c)
          else readPlain false indent fuel (text ++ gap.text ++ word) next c
      else some (text ++ gap.text ++ word, false,
        ⟨tail, index + word.length, line, column + word.length⟩) := by
  obtain ⟨c, word, rfl⟩ := List.exists_cons_of_ne_nil hne
  have hnumber : (some c == some '#') = false := by simpa using hstart
  have hsep : (tail.head?.any isSeparator) =
      (tail.head?.any isBlank || tail.head?.any isBreak) := by
    cases tail <;> rfl
  rw [readPlain, hmark]
  simp only [Cursor.next?, List.cons_append, List.head?_cons, hnumber, Bool.or_false,
    Bool.false_eq_true, if_false]
  rw [List.cons_append] at htail
  rw [htail]
  simp only [← List.cons_append, Cursor.skip_append, Cursor.atBlank, Cursor.atBreak, ← hsep,
    Bool.not_eq_true', Bool.not_false, Bool.true_and, decide_eq_true_eq]
  cases tail.head?.any isSeparator <;> rfl

/-- A plain scalar is read from the start of a word to the end of the line, in front of a line that
is not indented. -/
theorem readPlain_append {fuel : Nat} {text blanks : List Char} (h : PlainText cs)
    (hfuel : cs.length < fuel) (hcolumn : 0 < column) (hrest : GoesOn rest) :
    ∃ index' line',
      readPlain false 1 fuel text { blanks } ⟨cs ++ '\n' :: rest, index, line, column⟩ =
      some (text ++ blanks ++ cs, true, ⟨rest, index', line', 0⟩) := by
  -- one word is read in each round, so what is read so far and the blanks behind it vary
  induction fuel generalizing cs text blanks index column with
  | zero => exact absurd hfuel (Nat.not_lt_zero _)
  | succ fuel ih =>
    obtain ⟨word, hne, hword, hlast, rfl | ⟨n, more, rfl, hmore⟩⟩ := h.exists_word
    · have hgap : readGap 1 (('\n' :: rest).length + 1) {}
          ⟨'\n' :: rest, index + cs.length, line, column + cs.length⟩ =
          some ({ broken := true, first := ['\n'] }, ⟨rest, index + cs.length + 1, line + 1, 0⟩) :=
        readGap_lineEnd (by simp) hrest
      rw [readPlain_word hne h.start (plainWord_append hword hlast rfl)
        (Cursor.atDocumentMark_of_column hcolumn)]
      exact ⟨_, _, by rw [hgap]; rfl⟩
    · have hgap : readGap 1 ((List.replicate (n + 1) ' ' ++ (more ++ '\n' :: rest)).length + 1) {}
          ⟨List.replicate (n + 1) ' ' ++ (more ++ '\n' :: rest), index + word.length, line,
            column + word.length⟩ =
          some ({ blanks := List.replicate (n + 1) ' ' }, ⟨more ++ '\n' :: rest,
            index + word.length + (n + 1), line, column + word.length + (n + 1)⟩) :=
        readGap_blanks (n + 1)
          (by rw [List.length_append, List.length_replicate]; omega)
          (hmore.goesOn.append hmore.nonempty _)
      have hstart : word.head? ≠ some '#' := by
        obtain ⟨c, word, rfl⟩ := List.exists_cons_of_ne_nil hne
        exact h.start
      have hlength : more.length < fuel := by
        rw [List.length_append, List.length_append, List.length_replicate] at hfuel
        omega
      have hsep : (List.replicate (n + 1) ' ' ++ (more ++ '\n' :: rest)).head?.any isSeparator =
          true := rfl
      have hindent : ¬ column + word.length + (n + 1) < 1 := by omega
      have htext : text ++ blanks ++ (word ++ (List.replicate (n + 1) ' ' ++ more)) =
          text ++ blanks ++ word ++ List.replicate (n + 1) ' ' ++ more := by
        simp only [List.append_assoc]
      rw [htext, List.append_assoc word, List.append_assoc (List.replicate (n + 1) ' '),
        readPlain_word hne hstart (plainWord_append hword hlast rfl)
          (Cursor.atDocumentMark_of_column hcolumn), if_pos hsep, hgap]
      simp only [if_neg hindent, Gap.text_blanks]
      exact ih hmore hlength (by omega)

end Scaffold.Yaml
