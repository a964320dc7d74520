import Mathlib.Data.List.TakeWhile
import Scaffold.Proofs.Text.Hex
import Scaffold.Toml.Text

/-!
# Reading back TOML strings

Whichever spelling a text gets, it is read back as the text, up to what stands behind the string
(`readString?_writeString`). Escapes mean the characters they are written for (`exists_escape`). In
a string of several lines the quotes in front of the closing ones must not be more than two, and no
three in a row may stand elsewhere: the writer escapes every third one (`length_quotes_writeBasic`),
and a text is only written without escapes if it has no longer run (`length_quotes_le_longestRun`).
-/

namespace Scaffold.Toml

variable {c q : Char} {cs t rest : List Char}

/-! ## Escapes -/

/-- A character is that of its code point. -/
theorem charOfCode?_toNat (c : Char) : charOfCode? c.toNat = some c := by
  rw [charOfCode?, if_pos (show c.toNat.isValidChar from c.valid), Char.ofNat_toNat]

/-- An escape is read as the character it is written for, and is no line break that is to be
skipped. -/
theorem exists_escape (h : c.toNat < 0x10000) :
    ∃ e, escape c = '\\' :: e ∧ (∀ rest, readEscape? (e ++ rest) = some (c, rest)) ∧
      ∀ rest, dropBreak? ((e ++ rest).dropWhile isBlank) = none := by
  unfold escape
  split
  case h_8 =>
    refine ⟨'u' :: Text.upperHex 4 c.toNat, rfl, fun rest => ?_, fun rest => rfl⟩
    have hlength := Text.length_upperHex 4 c.toNat
    rw [List.cons_append, readEscape?, if_neg (by simp [hlength]), List.take_left' hlength,
      List.drop_left' hlength, Text.ofHex?_upperHex h, Option.bind_some, charOfCode?_toNat,
      Option.map_some]
  all_goals exact ⟨_, rfl, fun rest => rfl, fun rest => rfl⟩

/-- A character of a basic string is written as itself, where the count of quotes goes on if it is
one, or as its escape. -/
theorem writeBasic_cons (lines : Bool) (quotes : Nat) (c : Char) (cs : List Char) :
    (c = '"' ∧ lines = true ∧ quotes < 2 ∧
        writeBasic lines quotes (c :: cs) = '"' :: writeBasic lines (quotes + 1) cs) ∨
      (c ≠ '"' ∧ c ≠ '\\' ∧ (isAllowed c = true ∨ lines = true ∧ c = '\n') ∧
        writeBasic lines quotes (c :: cs) = c :: writeBasic lines 0 cs) ∨
      c.toNat < 0x10000 ∧
        writeBasic lines quotes (c :: cs) = escape c ++ writeBasic lines 0 cs := by
  rw [writeBasic]
  split
  · rename_i hquote
    obtain rfl : c = '"' := by simpa using hquote
    split
    · rename_i hraw
      simp only [Bool.and_eq_true, decide_eq_true_eq] at hraw
      exact .inl ⟨rfl, hraw.1, hraw.2, rfl⟩
    · exact .inr (.inr ⟨by decide, rfl⟩)
  · rename_i hquote
    have hquote : c ≠ '"' := by simpa using hquote
    split
    · rename_i hbreak
      simp only [Bool.and_eq_true, beq_iff_eq] at hbreak
      exact .inr (.inl ⟨hquote, by rw [hbreak.2]; decide, .inr hbreak, rfl⟩)
    · split
      · rename_i hspecial
        simp only [Bool.or_eq_true, beq_iff_eq, decide_eq_true_eq] at hspecial
        refine .inr (.inr ⟨?_, rfl⟩)
        rcases hspecial with (rfl | h) | h
        · decide
        · omega
        · omega
      · rename_i hspecial
        simp only [Bool.or_eq_true, beq_iff_eq, decide_eq_true_eq, not_or, Nat.not_lt] at hspecial
        obtain ⟨⟨hslash, hlow⟩, hdelete⟩ := hspecial
        exact .inr (.inl ⟨hquote, hslash, .inl (by simp [isAllowed, hlow, hdelete]), rfl⟩)

/-! ## One line -/

/-- A character that stands for itself in a basic string. -/
theorem readBasic?_cons (hquote : c ≠ '"') (hslash : c ≠ '\\') (hallowed : isAllowed c = true) :
    readBasic? (c :: rest) = (readBasic? rest).map fun p => (c :: p.1, p.2) := by
  rw [readBasic?.eq_def]
  split
  · simp_all
  · simp_all
  · rename_i heq
    cases heq
    rw [if_pos hallowed]
  · rename_i heq
    cases heq

/-- An escape in a basic string. -/
theorem readBasic?_escape {e : List Char} (h : ∀ rest, readEscape? (e ++ rest) = some (c, rest)) :
    readBasic? ('\\' :: (e ++ rest)) = (readBasic? rest).map fun p => (c :: p.1, p.2) := by
  rw [readBasic?]
  split
  · rename_i hread
    cases (h rest).symm.trans hread
    rfl
  · rename_i hread
    cases (h rest).symm.trans hread

/-- A basic string on one line is read back behind its quote. -/
theorem readBasic?_writeBasic (quotes : Nat) (cs t : List Char) :
    readBasic? (writeBasic false quotes cs ++ '"' :: t) = some (cs, t) := by
  induction cs generalizing quotes with
  | nil => rw [writeBasic, List.nil_append, readBasic?]
  | cons c cs ih =>
    rcases writeBasic_cons false quotes c cs with ⟨_, h, _⟩ | ⟨hquote, hslash, hallowed, h⟩ |
      ⟨hcode, h⟩
    · cases h
    · have hallowed : isAllowed c = true := hallowed.resolve_right (by simp)
      rw [h, List.cons_append, readBasic?_cons hquote hslash hallowed, ih, Option.map_some]
    · obtain ⟨e, he, hread, _⟩ := exists_escape hcode
      rw [h, he, List.append_assoc, List.cons_append, readBasic?_escape hread, ih,
        Option.map_some]

/-- The greatest run so far is no greater than that of the whole. -/
theorem le_longestRun (q : Char) (run best : Nat) (cs : List Char) :
    best ≤ longestRun q run best cs := by
  induction cs generalizing run best with
  | nil => exact Nat.le_refl _
  | cons c cs ih =>
    rw [longestRun]
    split
    · exact Nat.le_trans (Nat.le_max_left _ _) (ih _ _)
    · exact ih _ _

/-- A text without a run of a character does not have the character. -/
theorem not_mem_of_longestRun {run best : Nat} (h : longestRun q run best cs = 0) : q ∉ cs := by
  induction cs generalizing run best with
  | nil => exact List.not_mem_nil
  | cons c cs ih =>
    rw [longestRun] at h
    split at h
    · have := le_longestRun q (run + 1) (max best (run + 1)) cs
      omega
    · rename_i hc
      exact List.not_mem_cons_of_ne_of_not_mem (fun h => hc (by simp [h])) (ih h)

/-- A character of a text that is neither a control character nor a line feed may stand in a
string. -/
theorem isAllowed_of_isControl (h : isControl c = false) (hbreak : c ≠ '\n') :
    isAllowed c = true := by
  by_cases htab : c = '\t'
  · rw [htab]
    rfl
  · simp only [isControl, Bool.or_eq_false_iff, beq_eq_false_iff_ne] at h
    have hlow : 0x20 ≤ c.toNat := by simpa [htab, hbreak] using h.1
    simp [isAllowed, hlow, h.2]

/-- A literal string on one line is read back behind its quote. -/
theorem readLiteral?_append (hquote : '\'' ∉ cs) (hallowed : ∀ c ∈ cs, isAllowed c = true)
    (t : List Char) : readLiteral? (cs ++ '\'' :: t) = some (cs, t) := by
  induction cs with
  | nil => rfl
  | cons c cs ih =>
    rw [List.mem_cons, not_or] at hquote
    rw [List.cons_append, readLiteral?, if_pos (hallowed c List.mem_cons_self),
      ih hquote.2 fun d hd => hallowed d (List.mem_cons_of_mem _ hd), Option.map_some]
    exact fun h => hquote.1 h.symm

/-! ## Several lines -/

/-- What closes a string of several lines: nothing, as long as there is more than quotes in front of
the closing ones, and at most two quotes otherwise. -/
theorem readClosing?_append {w : List Char} (hw : (w.takeWhile (· == q)).length ≤ 2)
    (ht : t.head? ≠ some q) :
    readClosing? q (w ++ q :: q :: q :: t) = if w.all (· == q) then some (w, t) else none := by
  have htail : t.takeWhile (· == q) = [] := by
    cases t with
    | nil => rfl
    | cons d t => exact List.takeWhile_cons_of_neg (by simpa using ht)
  by_cases hall : w.all (· == q) = true
  · have hw' : w = List.replicate w.length q :=
      List.eq_replicate_of_mem fun d hd => by simpa using List.all_eq_true.1 hall d hd
    have hrun : (w ++ q :: q :: q :: t).takeWhile (· == q) = w ++ [q, q, q] := by
      rw [List.takeWhile_append_of_pos (List.all_eq_true.1 hall)]
      simp [htail]
    rw [List.takeWhile_eq_self_iff.2 (List.all_eq_true.1 hall)] at hw
    have hdrop : (w ++ q :: q :: q :: t).drop (w.length + 3) = t := by
      rw [← List.drop_drop]
      simp
    rw [readClosing?, hrun, if_pos hall]
    simp only [List.length_append, List.length_cons, List.length_nil]
    rw [if_neg (by omega), Nat.min_eq_left (by omega), Nat.min_eq_left (by omega), hdrop,
      Nat.add_sub_cancel, ← hw']
  · have hrun : (w ++ q :: q :: q :: t).takeWhile (· == q) = w.takeWhile (· == q) := by
      rw [List.takeWhile_append, if_neg]
      intro h
      exact hall (List.all_eq_true.2 (List.takeWhile_eq_self_iff.1
        ((List.takeWhile_prefix _).eq_of_length h)))
    rw [readClosing?, hrun, if_neg hall, if_pos (by omega)]

/-- A string of several lines is read up to what closes it. -/
theorem readLines?_closing (basic : Bool) {p : List Char × List Char}
    (hclosing : readClosing? (if basic then '"' else '\'') cs = some p) :
    readLines? basic cs = some p := by
  rw [readLines?.eq_def]
  simp only [hclosing]

/-- A character that stands for itself in a string of several lines. -/
theorem readLines?_cons (basic : Bool)
    (hclosing : readClosing? (if basic then '"' else '\'') (c :: rest) = none)
    (hslash : basic = true → c ≠ '\\') (hallowed : isAllowed c = true ∨ c = '\n') :
    readLines? basic (c :: rest) = (readLines? basic rest).map fun p => (c :: p.1, p.2) := by
  rw [readLines?.eq_def]
  simp only [hclosing]
  split
  · rename_i heq
    cases heq
    exact absurd hallowed (by decide)
  · rename_i heq
    cases heq
    rw [if_neg fun h => hslash h rfl]
  · rename_i heq
    cases heq
    rw [if_pos (by simpa using hallowed)]
  · rename_i heq
    cases heq

/-- An escape in a string of several lines. -/
theorem readLines?_escape {e : List Char} (hread : ∀ rest, readEscape? (e ++ rest) = some (c, rest))
    (hbreak : ∀ rest, dropBreak? ((e ++ rest).dropWhile isBlank) = none) :
    readLines? true ('\\' :: (e ++ rest)) =
      (readLines? true rest).map fun p => (c :: p.1, p.2) := by
  have hclosing : readClosing? '"' ('\\' :: (e ++ rest)) = none := rfl
  rw [readLines?.eq_def]
  simp only [if_true, hclosing, hbreak]
  split
  · rename_i h
    cases (hread rest).symm.trans h
    rfl
  · rename_i h
    cases (hread rest).symm.trans h

/-- No more than two quotes stand in front of another character in what is written. -/
theorem length_quotes_writeBasic (quotes : Nat) (cs : List Char) :
    ((writeBasic true quotes cs).takeWhile (· == '"')).length ≤ 2 - quotes := by
  induction cs generalizing quotes with
  | nil => exact Nat.zero_le _
  | cons c cs ih =>
    rcases writeBasic_cons true quotes c cs with ⟨_, _, hquotes, h⟩ | ⟨hquote, _, _, h⟩ | ⟨hcode, h⟩
    · have := ih (quotes + 1)
      rw [h, List.takeWhile_cons_of_pos (by simp), List.length_cons]
      omega
    · rw [h, List.takeWhile_cons_of_neg (by simpa using hquote)]
      exact Nat.zero_le _
    · obtain ⟨e, he, _⟩ := exists_escape hcode
      rw [h, he, List.cons_append, List.takeWhile_cons_of_neg (by decide)]
      exact Nat.zero_le _

/-- If nothing but quotes is written, then they are the text. -/
theorem writeBasic_eq_of_quotes {quotes : Nat}
    (h : (writeBasic true quotes cs).all (· == '"') = true) : writeBasic true quotes cs = cs := by
  induction cs generalizing quotes with
  | nil => rfl
  | cons c cs ih =>
    rcases writeBasic_cons true quotes c cs with ⟨hc, _, _, hw⟩ | ⟨hquote, _, _, hw⟩ | ⟨hcode, hw⟩
    · rw [hw, List.all_cons, Bool.and_eq_true] at h
      rw [hw, ih h.2, hc]
    · simp [hw, hquote] at h
    · obtain ⟨e, he, _⟩ := exists_escape hcode
      simp [hw, he] at h

/-- A basic string of several lines is read back behind its quotes. -/
theorem readLines?_writeBasic (quotes : Nat) (cs : List Char) (ht : t.head? ≠ some '"') :
    readLines? true (writeBasic true quotes cs ++ '"' :: '"' :: '"' :: t) = some (cs, t) := by
  induction cs generalizing quotes with
  | nil =>
    have hclosing := readClosing?_append (q := '"') (w := []) (by decide) ht
    exact readLines?_closing true hclosing
  | cons c cs ih =>
    have hclosing :=
      readClosing?_append (q := '"') ((length_quotes_writeBasic quotes (c :: cs)).trans
      (Nat.sub_le 2 quotes)) ht
    by_cases hall : (writeBasic true quotes (c :: cs)).all (· == '"') = true
    · rw [if_pos hall] at hclosing
      rw [readLines?_closing true hclosing, writeBasic_eq_of_quotes hall]
    · rw [if_neg hall] at hclosing
      rcases writeBasic_cons true quotes c cs with ⟨hc, _, _, h⟩ | ⟨_, hslash, hallowed, h⟩ |
        ⟨hcode, h⟩
      · rw [h, List.cons_append] at hclosing ⊢
        rw [readLines?_cons true hclosing (fun _ => by decide) (.inl (by decide)), ih,
          Option.map_some, hc]
      · rw [h, List.cons_append] at hclosing ⊢
        rw [readLines?_cons true hclosing (fun _ => hslash)
          (hallowed.imp_right fun h => h.2), ih, Option.map_some]
      · obtain ⟨e, he, hread, hbreak⟩ := exists_escape hcode
        rw [h, he, List.append_assoc, List.cons_append, readLines?_escape hread hbreak, ih,
          Option.map_some]

/-- The quotes in front of another character are no more than the longest run. -/
theorem length_quotes_le_longestRun {run best : Nat} (h : run ≤ best) :
    run + (cs.takeWhile (· == q)).length ≤ longestRun q run best cs := by
  induction cs generalizing run best with
  | nil => simpa [longestRun] using h
  | cons c cs ih =>
    rw [longestRun]
    split
    · rename_i hc
      have := ih (Nat.le_max_right best (run + 1))
      rw [List.takeWhile_cons_of_pos (by exact hc), List.length_cons]
      omega
    · rename_i hc
      rw [List.takeWhile_cons_of_neg (by exact hc)]
      exact h.trans (le_longestRun q 0 best cs)

/-- A literal string of several lines is read back behind its quotes. -/
theorem readLines?_append {run best : Nat} (hrun : run ≤ best)
    (hbest : longestRun '\'' run best cs ≤ 2) (hallowed : ∀ c ∈ cs, isAllowed c = true ∨ c = '\n')
    (ht : t.head? ≠ some '\'') :
    readLines? false (cs ++ '\'' :: '\'' :: '\'' :: t) = some (cs, t) := by
  induction cs generalizing run best with
  | nil =>
    have hclosing := readClosing?_append (q := '\'') (w := []) (by decide) ht
    exact readLines?_closing false hclosing
  | cons c cs ih =>
    have hclosing := readClosing?_append (q := '\'') (Nat.le_trans
      (Nat.le_add_left _ run) ((length_quotes_le_longestRun hrun).trans hbest)) ht
    by_cases hall : (c :: cs).all (· == '\'') = true
    · rw [if_pos hall] at hclosing
      exact readLines?_closing false hclosing
    · rw [if_neg hall] at hclosing
      have ih : readLines? false (cs ++ '\'' :: '\'' :: '\'' :: t) = some (cs, t) := by
        have hallowed := fun d hd => hallowed d (List.mem_cons_of_mem c hd)
        rw [longestRun] at hbest
        split at hbest
        · exact ih (Nat.le_max_right best (run + 1)) hbest hallowed
        · exact ih (Nat.zero_le best) hbest hallowed
      rw [List.cons_append] at hclosing ⊢
      rw [readLines?_cons false hclosing (fun h => by cases h)
        (hallowed c List.mem_cons_self), ih, Option.map_some]

/-! ## Every spelling -/

/-- What a text is like that is written in single quotes on one line. -/
theorem Spelling.of_eq_literal (h : Spelling.of cs = .literal) :
    (∀ c ∈ cs, isControl c = false) ∧ longestRun '\'' 0 0 cs = 0 ∧ '\n' ∉ cs := by
  simp only [Spelling.of] at h
  split_ifs at h with _ hcond
  simpa [and_assoc] using hcond

/-- What a text is like that is written in single quotes on several lines. -/
theorem Spelling.of_eq_literalLines (h : Spelling.of cs = .literalLines) :
    (∀ c ∈ cs, isControl c = false) ∧ longestRun '\'' 0 0 cs ≤ 2 := by
  simp only [Spelling.of] at h
  split_ifs at h with _ _ _ hcond
  simpa using hcond

/-- A quote in front of anything but two more begins a string on one line. -/
theorem readString?_basic (h : ∀ x, cs ≠ '"' :: '"' :: x) :
    readString? ('"' :: cs) = readBasic? cs := by
  rw [readString?]
  rintro x heq
  exact h x heq

/-- A quote in front of anything but two more begins a string on one line. -/
theorem readString?_literal (h : ∀ x, cs ≠ '\'' :: '\'' :: x) :
    readString? ('\'' :: cs) = readLiteral? cs := by
  rw [readString?]
  rintro x heq
  exact h x heq

/-- A line break in front of the first line is no part of the string; there is one if the string has
another. -/
theorem dropBreak?_start {w : List Char} (h : '\n' ∉ cs → dropBreak? w = none) :
    (dropBreak? ((if cs.contains '\n' then ['\n'] else []) ++ w)).getD
      ((if cs.contains '\n' then ['\n'] else []) ++ w) = w := by
  by_cases hbreak : '\n' ∈ cs
  · simp [hbreak, dropBreak?]
  · simp [hbreak, h hbreak]

/-- A text that begins with a character that may stand in a string does not begin with a
line break. -/
theorem dropBreak?_cons (h : isAllowed c = true) : dropBreak? (c :: rest) = none := by
  rw [dropBreak?.eq_def]
  split
  · rename_i heq
    cases heq
    cases h
  · rename_i heq
    cases heq
    cases h
  · rfl

/-- A basic string of a text without line feed does not begin with a line break. -/
theorem dropBreak?_writeBasic (h : '\n' ∉ cs) (t : List Char) :
    dropBreak? (writeBasic true 0 cs ++ '"' :: t) = none := by
  cases cs with
  | nil => rfl
  | cons c cs =>
    rcases writeBasic_cons true 0 c cs with ⟨_, _, _, hw⟩ | ⟨_, _, hallowed, hw⟩ | ⟨hcode, hw⟩
    · rw [hw]
      rfl
    · have hallowed := hallowed.resolve_right fun hc => h (by rw [hc.2]; exact List.mem_cons_self)
      rw [hw, List.cons_append, dropBreak?_cons hallowed]
    · obtain ⟨e, he, _⟩ := exists_escape hcode
      rw [hw, he]
      rfl

/-- The opening quote of a basic string on one line is not in front of two more. -/
theorem writeBasic_ne_quotes (cs rest : List Char) :
    ∀ x, writeBasic false 0 cs ++ '"' :: '\n' :: rest ≠ '"' :: '"' :: x := by
  intro x heq
  cases cs with
  | nil => cases heq
  | cons c cs =>
    rcases writeBasic_cons false 0 c cs with ⟨_, h, _⟩ | ⟨hquote, _, _, h⟩ | ⟨hcode, h⟩
    · cases h
    · rw [h] at heq
      exact hquote (List.cons.inj heq).1
    · obtain ⟨e, he, _⟩ := exists_escape hcode
      rw [h, he] at heq
      cases heq

/-- Nor is that of a literal string on one line. -/
theorem literal_ne_quotes (h : '\'' ∉ cs) (rest : List Char) :
    ∀ x, cs ++ '\'' :: '\n' :: rest ≠ '\'' :: '\'' :: x := by
  intro x heq
  cases cs with
  | nil => cases heq
  | cons c cs => exact h ((List.cons.inj heq).1 ▸ List.mem_cons_self)

/-- A string is read back, up to the line break behind it. -/
theorem readString?_writeString (cs rest : List Char) :
    readString? (writeString cs ++ '\n' :: rest) = some (cs, '\n' :: rest) := by
  rw [writeString]
  cases hof : Spelling.of cs with
  | basic =>
    simp only [List.append_assoc, List.cons_append, List.nil_append]
    rw [readString?_basic (writeBasic_ne_quotes cs rest), readBasic?_writeBasic]
  | literal =>
    obtain ⟨hcontrol, hrun, hbreak⟩ := Spelling.of_eq_literal hof
    have hquote := not_mem_of_longestRun hrun
    have hallowed (c : Char) (hc : c ∈ cs) : isAllowed c = true :=
      isAllowed_of_isControl (hcontrol c hc) fun h => hbreak (h ▸ hc)
    simp only [List.append_assoc, List.cons_append, List.nil_append]
    rw [readString?_literal (literal_ne_quotes hquote rest), readLiteral?_append hquote hallowed]
  | basicLines =>
    simp only [List.append_assoc, List.cons_append, List.nil_append]
    rw [readString?, dropBreak?_start fun h => dropBreak?_writeBasic h _, readLines?_writeBasic]
    simp
  | literalLines =>
    obtain ⟨hcontrol, hrun⟩ := Spelling.of_eq_literalLines hof
    have hallowed (c : Char) (hc : c ∈ cs) : isAllowed c = true ∨ c = '\n' := by
      by_cases hbreak : c = '\n'
      · exact .inr hbreak
      · exact .inl (isAllowed_of_isControl (hcontrol c hc) hbreak)
    simp only [List.append_assoc, List.cons_append, List.nil_append]
    rw [readString?, dropBreak?_start, readLines?_append (Nat.le_refl 0) hrun hallowed (by simp)]
    intro hbreak
    cases cs with
    | nil => rfl
    | cons c cs =>
      exact dropBreak?_cons ((hallowed c List.mem_cons_self).resolve_right
        fun h => hbreak (h ▸ List.mem_cons_self))

end Scaffold.Toml
