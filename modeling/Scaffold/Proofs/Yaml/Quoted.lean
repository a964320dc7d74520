import Scaffold.Proofs.Text.Hex
import Scaffold.Proofs.Yaml.Plain

/-!
# Reading back quoted YAML scalars

A text is read back from single quotes if it has no space beside a break (`readQuoted_writeSingle`),
and from double quotes whatever it is (`readQuoted_writeEscaped`). Both inductions are over the runs
of characters that are neither blank nor break, as the reader takes them. In single quotes a break
stands for itself, because it is never a line feed, and two spaces of indentation follow it; in
double quotes every break is escaped.
-/

namespace Scaffold.Yaml

variable {c quote : Char} {cs text run tail rest : List Char} {fuel n index line column : Nat}

/-! ## Runs -/

/-- The run of a quoted scalar in front of a text, and how many characters it takes. -/
def quotedRun (quote : Char) (cs : List Char) : Option (List Char × Nat) :=
  if quote == '\'' then some (singleRun cs) else doubleRun cs

/-- A quoted scalar ends with a run in front of its quote. -/
theorem readQuoted_closing (hrun : quotedRun quote (cs ++ quote :: rest) = some (run, cs.length))
    (hcolumn : 0 < column) :
    readQuoted quote (fuel + 1) text ⟨cs ++ quote :: rest, index, line, column⟩ =
      some (text ++ run, ⟨rest, index + cs.length + 1, line, column + cs.length + 1⟩) := by
  have hescape : (quote == '"' && some quote == some '\\') = false := by
    by_cases h : quote = '"'
    · rw [h]
      rfl
    · simp [h]
  have hend : (cs ++ quote :: rest).isEmpty = false := by simp
  rw [quotedRun] at hrun
  rw [readQuoted]
  simp only [Cursor.atDocumentMark_of_column hcolumn, Cursor.atEnd, hend, Bool.or_self,
    Bool.false_eq_true, if_false, hrun, Cursor.skip_append, Cursor.next?, List.head?_cons, hescape,
    beq_self_eq_true, if_true, Cursor.skip_cons]

/-- A quoted scalar goes on behind a run and the gap that follows. -/
theorem readQuoted_gap {d : Char} {gap : Gap} {next : Cursor}
    (hrun : quotedRun quote (cs ++ d :: tail) = some (run, cs.length)) (hd : isSeparator d = true)
    (hquote : isSeparator quote = false) (hcolumn : 0 < column)
    (hgap : readGap 0 ((d :: tail).length + 1) {}
      ⟨d :: tail, index + cs.length, line, column + cs.length⟩ = some (gap, next)) :
    readQuoted quote (fuel + 1) text ⟨cs ++ d :: tail, index, line, column⟩ =
      readQuoted quote fuel (text ++ run ++ gap.text) next := by
  have hescape : (some d == some '\\') = false := by
    by_cases h : d = '\\'
    · rw [h] at hd
      cases hd
    · simp [h]
  have hclosing : (some d == some quote) = false := by
    by_cases h : d = quote
    · rw [h, hquote] at hd
      cases hd
    · simp [h]
  have hend : (cs ++ d :: tail).isEmpty = false := by simp
  rw [quotedRun] at hrun
  rw [readQuoted]
  simp only [Cursor.atDocumentMark_of_column hcolumn, Cursor.atEnd, hend, Bool.or_self,
    Bool.and_false, Bool.false_eq_true, if_false, hrun, Cursor.skip_append, Cursor.next?,
    List.head?_cons, hescape, hclosing, hgap]

/-! ## Single quotes -/

/-- The spelling of a character in single quotes. -/
def spellSingle (c : Char) : List Char := if c == '\'' then ['\'', '\''] else [c]

/-- What can be written in single quotes. -/
structure SingleText (cs : List Char) : Prop where
  printable : ∀ c ∈ cs, isPrintable c = true
  noLineFeed : '\n' ∉ cs
  blankBreak : hasPair (· == ' ') isBreak cs = false
  breakBlank : hasPair isBreak (· == ' ') cs = false

/-- A text without line feed that can be written in single quotes. -/
theorem SingleText.of_canBeSingle (h : canBeSingle cs = true) (hfeed : '\n' ∉ cs) :
    SingleText cs := by
  simp only [canBeSingle, needsEscape, Bool.not_eq_eq_eq_not, Bool.not_true, Bool.or_eq_false_iff,
    List.any_eq_false] at h
  exact ⟨fun c hc => by simpa using h.1.1 c hc, hfeed, h.1.2, h.2⟩

/-- What stands at the end of such a text can be written too. -/
theorem SingleText.of_append (cs : List Char) (h : SingleText (cs ++ tail)) : SingleText tail where
  printable c hc := h.printable c (List.mem_append_right cs hc)
  noLineFeed hc := h.noLineFeed (List.mem_append_right cs hc)
  blankBreak := hasPair_of_append cs h.blankBreak
  breakBlank := hasPair_of_append cs h.breakBlank

/-- A character that is no break stands where it stands in the text. -/
theorem writeSingle_cons (hc : isBreak c = false) (cs : List Char) :
    writeSingle false (c :: cs) = spellSingle c ++ writeSingle false cs := by
  rw [writeSingle, if_neg (by simp [hc]), if_neg Bool.false_ne_true, List.nil_append, spellSingle]

/-- Characters that are no breaks are spelled one by one. -/
theorem writeSingle_append (hrun : ∀ c ∈ run, isBreak c = false) (cs : List Char) :
    writeSingle false (run ++ cs) = run.flatMap spellSingle ++ writeSingle false cs := by
  induction run with
  | nil => rfl
  | cons c run ih =>
    have ih := ih fun d hd => hrun d (List.mem_cons_of_mem c hd)
    rw [List.cons_append, writeSingle_cons (hrun c List.mem_cons_self), ih, List.flatMap_cons,
      List.append_assoc]

/-- Single quotes add nothing but spaces and quotes. -/
theorem mem_of_mem_writeSingle {broken : Bool} (h : c ∈ writeSingle broken cs) :
    c ∈ cs ∨ c = ' ' ∨ c = '\'' := by
  induction cs generalizing broken with
  | nil =>
    cases broken <;> simp_all [writeSingle]
  | cons d cs ih =>
    rw [writeSingle] at h
    split at h
    · rcases List.mem_cons.1 h with rfl | h
      · exact .inl List.mem_cons_self
      · exact (ih h).imp_left (List.mem_cons_of_mem d)
    · rw [List.mem_append, List.mem_append] at h
      rcases h with (h | h) | h
      · cases broken <;> simp_all
      · split at h <;> simp_all
      · exact (ih h).imp_left (List.mem_cons_of_mem d)

/-- No character gets lost in single quotes. -/
theorem length_le_writeSingle (broken : Bool) (cs : List Char) :
    cs.length ≤ (writeSingle broken cs).length := by
  induction cs generalizing broken with
  | nil => exact Nat.zero_le _
  | cons c cs ih =>
    rw [writeSingle]
    split
    · exact Nat.succ_le_succ (ih true)
    · have := ih false
      have hc : 1 ≤ (if c == '\'' then ['\'', '\''] else [c]).length := by split <;> simp
      simp only [List.length_append, List.length_cons]
      omega

/-- Behind breaks stand two spaces. -/
theorem writeSingle_breaks {breaks : List Char} (hbreaks : ∀ c ∈ breaks, isBreak c = true)
    (hcs : ∀ c, cs.head? = some c → isBreak c = false) :
    writeSingle true (breaks ++ cs) = breaks ++ (List.replicate 2 ' ' ++ writeSingle false cs) := by
  induction breaks with
  | nil =>
    cases cs with
    | nil => rfl
    | cons c cs =>
      rw [List.nil_append, writeSingle, writeSingle, hcs c rfl]
      rfl
  | cons b breaks ih =>
    rw [List.cons_append, writeSingle, if_pos (hbreaks b List.mem_cons_self),
      ih fun d hd => hbreaks d (List.mem_cons_of_mem b hd), List.cons_append]

/-- Spaces stand for themselves. -/
theorem writeSingle_spaces (n : Nat) (cs : List Char) :
    writeSingle false (List.replicate n ' ' ++ cs) =
      List.replicate n ' ' ++ writeSingle false cs := by
  induction n with
  | zero => rfl
  | succ n ih =>
    rw [List.replicate_succ, List.cons_append, writeSingle_cons rfl, ih]
    rfl

/-- A run in single quotes is read up to a blank, a break or the closing quote. -/
theorem singleRun_append (hrun : ∀ c ∈ run, isSeparator c = false)
    (htail : singleRun tail = ([], 0)) :
    singleRun (run.flatMap spellSingle ++ tail) = (run, (run.flatMap spellSingle).length) := by
  induction run with
  | nil => exact htail
  | cons c run ih =>
    have ih := ih fun d hd => hrun d (List.mem_cons_of_mem c hd)
    rw [List.flatMap_cons, List.append_assoc]
    by_cases hc : c = '\''
    · rw [hc, spellSingle, if_pos (by decide), List.cons_append, List.singleton_append,
        singleRun, ih]
      rfl
    · have hsep := hrun c List.mem_cons_self
      rw [spellSingle, if_neg (by simpa using hc), List.singleton_append, singleRun]
      · rw [if_neg (by simp [hc, hsep]), ih]
        rfl
      · exact fun _ h => absurd h hc

/-- A blank or a break ends a run in single quotes. -/
theorem singleRun_of_isSeparator {d : Char} (hd : isSeparator d = true) :
    singleRun (d :: tail) = ([], 0) := by
  rw [singleRun]
  · rw [if_pos (by simp [hd])]
  · rintro _ rfl
    cases hd

/-- The text goes on where a text in single quotes begins without blank or break. -/
theorem goesOn_writeSingle (hcs : GoesOn cs) (rest : List Char) :
    GoesOn (writeSingle false cs ++ '\'' :: rest) := by
  cases cs with
  | nil => exact goesOn_cons rfl _
  | cons c cs =>
    have hbreak := hcs c rfl
    rw [isSeparator, Bool.or_eq_false_iff] at hbreak
    rw [writeSingle_cons hbreak.2, spellSingle]
    intro d hd
    split at hd
    · cases hd
      rfl
    · cases hd
      exact hcs c rfl

/-- A blank or a break stands where it stands in the text. -/
theorem writeSingle_separator {d : Char} (hd : isSeparator d = true) (cs : List Char) :
    writeSingle false (d :: cs) = d :: writeSingle (isBreak d) cs := by
  by_cases hbreak : isBreak d = true
  · rw [writeSingle, if_pos hbreak, hbreak]
  · have hquote : (d == '\'') = false := by
      by_cases h : d = '\''
      · rw [h] at hd
        cases hd
      · simp [h]
    rw [writeSingle_cons (by simpa using hbreak), spellSingle, hquote, Bool.eq_false_iff.2 hbreak]
    rfl

/-- A gap in single quotes stands for the blanks or breaks for which it is written. -/
theorem readGap_writeSingle {d : Char} (index line column : Nat) (h : SingleText (d :: cs))
    (hd : isSeparator d = true) (rest : List Char) :
    ∃ front back, d :: cs = front ++ back ∧ front ≠ [] ∧ SingleText back ∧
      ∃ gap index' line' column', 0 < column' ∧ Gap.text gap = front ∧
        readGap 0 ((d :: (writeSingle (isBreak d) cs ++ '\'' :: rest)).length + 1) {}
          ⟨d :: (writeSingle (isBreak d) cs ++ '\'' :: rest), index, line, column⟩ =
            some (gap, ⟨writeSingle false back ++ '\'' :: rest, index', line', column'⟩) := by
  by_cases hbreak : isBreak d = true
  · obtain ⟨breaks, back, rfl, hbreaks, hback⟩ := exists_run isBreak cs
    have hall (b : Char) (hb : b ∈ d :: breaks) : isBreak b = true := by
      rcases List.mem_cons.1 hb with rfl | hb
      · exact hbreak
      · exact hbreaks b hb
    -- only a line feed would be folded
    have hlineFeed : d ≠ '\n' := fun hd => h.noLineFeed (hd ▸ List.mem_cons_self)
    have htail : SingleText back := .of_append (d :: breaks) h
    have hgoes : GoesOn back := goesOn_of_ne htail.printable hback fun hspace => by
      cases not_pair_of_run h.breakBlank (List.cons_ne_nil d breaks) hall ' ' hspace
    rw [hbreak, writeSingle_breaks hbreaks hback, List.append_assoc, List.append_assoc]
    have hfuel : breaks.length + 2 + 1 < (d :: (breaks ++ (List.replicate 2 ' ' ++
        (writeSingle false back ++ '\'' :: rest)))).length + 1 := by
      simp only [List.length_cons, List.length_append, List.length_replicate]
      omega
    refine ⟨d :: breaks, back, rfl, List.cons_ne_nil d breaks, htail,
      { broken := true, first := [d], others := breaks }, ?_⟩
    obtain ⟨index', line', column', hcolumn, hgap⟩ := readGap_break
      (fun b hb => ⟨hall b hb, h.printable b (List.mem_append_left back hb)⟩) 2 hfuel
      (goesOn_writeSingle hgoes rest)
    exact ⟨index', line', column', Nat.lt_of_lt_of_le Nat.two_pos hcolumn,
      Gap.text_broken hlineFeed, hgap⟩
  · have hbreak : isBreak d = false := Bool.eq_false_iff.2 hbreak
    obtain rfl : d = ' ' := eq_space_of_isSeparator (h.printable d List.mem_cons_self) hbreak hd
    obtain ⟨n, back, rfl, hback⟩ := exists_spaces cs
    have htail : SingleText back := .of_append (List.replicate (n + 1) ' ') h
    have hrun : List.replicate (n + 1) ' ' ≠ [] := by simp
    have hgoes : GoesOn back := goesOn_of_ne htail.printable
      (not_pair_of_run h.blankBreak hrun (fun c hc => by simp [List.eq_of_mem_replicate hc])) hback
    rw [hbreak, writeSingle_spaces, List.append_assoc]
    exact ⟨List.replicate (n + 1) ' ', back, rfl, by simp, htail, _, _, _, _, Nat.succ_pos _,
      Gap.text_blanks _, readGap_blanks (n + 1)
        (by simp only [List.length_cons, List.length_append, List.length_replicate]; omega)
        (goesOn_writeSingle hgoes rest)⟩

/-- A text in single quotes is read back behind the opening one. -/
theorem readQuoted_writeSingle (text : List Char) (index line : Nat) (h : SingleText cs)
    (hfuel : cs.length < fuel) (hcolumn : 0 < column) (rest : List Char) :
    ∃ index' line' column',
      readQuoted '\'' fuel text
          ⟨writeSingle false cs ++ '\'' :: '\n' :: rest, index, line, column⟩ =
        some (text ++ cs, ⟨'\n' :: rest, index', line', column'⟩) := by
  induction fuel generalizing cs text index line column with
  | zero => exact absurd hfuel (Nat.not_lt_zero _)
  | succ fuel ih =>
    obtain ⟨run, more, rfl, hrun, hmore⟩ := exists_run (fun c => !isSeparator c) cs
    have hrun (c : Char) (hc : c ∈ run) : isSeparator c = false := by simpa using hrun c hc
    have hbreak (c : Char) (hc : c ∈ run) : isBreak c = false :=
      (Bool.or_eq_false_iff.1 (hrun c hc)).2
    rw [writeSingle_append hbreak, List.append_assoc]
    cases more with
    | nil =>
      have hread : quotedRun '\'' (run.flatMap spellSingle ++ '\'' :: '\n' :: rest) =
          some (run, (run.flatMap spellSingle).length) := congrArg some (singleRun_append hrun rfl)
      rw [List.append_nil]
      exact ⟨_, _, _, readQuoted_closing hread hcolumn⟩
    | cons d more =>
      have hd : isSeparator d = true := by simpa using hmore d rfl
      obtain ⟨front, back, hsplit, hne, hback, gap, _, _, _, hcolumn', htext, hgap⟩ :=
        readGap_writeSingle (index + (run.flatMap spellSingle).length) line
          (column + (run.flatMap spellSingle).length) (h.of_append run) hd ('\n' :: rest)
      have hread : quotedRun '\'' (run.flatMap spellSingle ++
          d :: (writeSingle (isBreak d) more ++ '\'' :: '\n' :: rest)) =
          some (run, (run.flatMap spellSingle).length) :=
        congrArg some (singleRun_append hrun (singleRun_of_isSeparator hd))
      have hlength : back.length < fuel := by
        have := List.length_pos_iff.2 hne
        rw [hsplit, List.length_append, List.length_append] at hfuel
        omega
      rw [writeSingle_separator hd, List.cons_append,
        readQuoted_gap hread hd rfl hcolumn hgap, htext, hsplit, ← List.append_assoc,
        ← List.append_assoc]
      exact ih _ _ _ hback hlength hcolumn'

/-! ## Double quotes -/

/-- A character is that of its code point. -/
theorem charOfCode?_toNat (c : Char) : charOfCode? c.toNat = some c := by
  rw [charOfCode?, if_pos (show c.toNat.isValidChar from c.valid), Char.ofNat_toNat]

/-- A character in double quotes is spelled by another one behind a backslash, by its digits, or as
itself. -/
inductive Escaped (c : Char) : List Char → Prop
  | char {d : Char} (meaning : escape? d = some (.char c)) (noBreak : isBreak d = false)
    (printable : isPrintable d = true) : Escaped c ['\\', d]
  | digits {d : Char} {k : Nat} (meaning : escape? d = some (.digits k))
    (noBreak : isBreak d = false) (printable : isPrintable d = true) (fits : c.toNat < 16 ^ k) :
    Escaped c ('\\' :: d :: Text.upperHex k c.toNat)
  | itself (noQuote : c ≠ '"') (noSlash : c ≠ '\\') (noBreak : isBreak c = false)
    (printable : isPrintable c = true) : Escaped c [c]

/-- Every character is written so. -/
theorem escaped_writeEscaped (c : Char) : Escaped c (writeEscaped c) := by
  unfold writeEscaped
  split
  case h_15 =>
    rename_i _ _ _ _ hfeed _ _ hreturn _ hquote hslash hnext hline hparagraph
    have hlimit : c.toNat < 16 ^ 8 := by
      have hvalid : c.toNat.isValidChar := c.valid
      unfold Nat.isValidChar at hvalid
      omega
    dsimp only
    split
    · rename_i hprint
      refine .itself hquote hslash ?_ hprint
      simp only [isBreak, Bool.or_eq_false_iff, beq_eq_false_iff_ne]
      exact ⟨⟨⟨⟨hfeed, hreturn⟩, hnext⟩, hline⟩, hparagraph⟩
    · split
      · rename_i hbyte
        exact .digits rfl rfl rfl (Nat.lt_succ_of_le hbyte)
      · split
        · rename_i hplane
          exact .digits rfl rfl rfl (Nat.lt_succ_of_le hplane)
        · exact .digits rfl rfl rfl hlimit
  all_goals exact .char rfl rfl rfl

/-- The spelling of a character may stand in a YAML text. -/
theorem Escaped.isAllowed {w : List Char} (h : Escaped c w) : ∀ d ∈ w, isAllowed d = true := by
  have hslash : Yaml.isAllowed '\\' = true := by decide
  cases h with
  | char _ _ printable => simp [hslash, isAllowed_of_isPrintable printable]
  | digits _ _ printable _ =>
    intro d hd
    rcases List.mem_cons.1 hd with rfl | hd
    · exact hslash
    · rcases List.mem_cons.1 hd with rfl | hd
      · exact isAllowed_of_isPrintable printable
      · obtain ⟨n, hn, rfl⟩ := Text.exists_of_mem_upperHex hd
        exact (by decide : ∀ n < 16, Yaml.isAllowed (Text.upperHexDigit n) = true) n hn
  | itself _ _ _ printable => simp [isAllowed_of_isPrintable printable]

/-- No character gets lost in double quotes. -/
theorem length_le_writeEscaped (cs : List Char) : cs.length ≤ (cs.flatMap writeEscaped).length := by
  induction cs with
  | nil => exact Nat.le_refl _
  | cons c cs ih =>
    have hc : 1 ≤ (writeEscaped c).length := by
      cases hw : writeEscaped c with
      | nil =>
        have := escaped_writeEscaped c
        rw [hw] at this
        cases this
      | cons => exact Nat.succ_le_succ (Nat.zero_le _)
    rw [List.flatMap_cons, List.length_append, List.length_cons]
    omega

/-- The spelling of a character is taken as the character, unless that is a space. -/
theorem doubleRun_escaped {w : List Char} (h : Escaped c w) (hc : c ≠ ' ') (rest : List Char) :
    doubleRun (w ++ rest) = (doubleRun rest).map fun p => (c :: p.1, p.2 + w.length) := by
  cases h with
  | char meaning noBreak =>
    rw [List.cons_append, List.singleton_append, doubleRun]
    simp only [noBreak, meaning, Bool.false_eq_true, if_false, List.length_cons, List.length_nil]
  | @digits d k meaning noBreak _ fits =>
    have hlength := Text.length_upperHex k c.toNat
    have hcode : (Text.ofHex? (Text.upperHex k c.toNat)).bind charOfCode? = some c := by
      rw [Text.ofHex?_upperHex fits, Option.bind_some, charOfCode?_toNat]
    have hshort : ¬ (Text.upperHex k c.toNat ++ rest).length < k := by simp [hlength]
    have hcount : k + 1 + 1 = 2 + k := by omega
    rw [List.cons_append, List.cons_append, doubleRun]
    simp only [noBreak, meaning, Bool.false_eq_true, if_false, List.take_left' hlength,
      List.drop_left' hlength, hcode, if_neg hshort, List.length_cons, hlength, hcount,
      Nat.add_assoc]
  | itself noQuote noSlash noBreak printable =>
    have hsep : isSeparator c = false := Bool.eq_false_iff.2 fun hsep =>
      hc (eq_space_of_isSeparator printable noBreak hsep)
    rw [List.singleton_append, doubleRun]
    · rw [if_neg (by simp [noQuote, hsep])]
      rfl
    · exact fun h => noSlash h

/-- A run in double quotes is read up to a blank or the closing quote. -/
theorem doubleRun_append (hrun : ∀ c ∈ run, c ≠ ' ') (htail : doubleRun tail = some ([], 0)) :
    doubleRun (run.flatMap writeEscaped ++ tail) =
      some (run, (run.flatMap writeEscaped).length) := by
  induction run with
  | nil => exact htail
  | cons c run ih =>
    rw [List.flatMap_cons, List.append_assoc,
      doubleRun_escaped (escaped_writeEscaped c) (hrun c List.mem_cons_self),
      ih fun d hd => hrun d (List.mem_cons_of_mem c hd), Option.map_some, List.length_append,
      Nat.add_comm]

/-- The text goes on where a character is written that is no space. -/
theorem Escaped.goesOn {w : List Char} (h : Escaped c w) (hc : c ≠ ' ') (rest : List Char) :
    GoesOn (w ++ rest) := by
  intro d hd
  cases h with
  | char | digits =>
    cases hd
    rfl
  | itself _ _ noBreak printable =>
    cases hd
    exact Bool.eq_false_iff.2 fun hsep => hc (eq_space_of_isSeparator printable noBreak hsep)

/-- The text goes on where a text in double quotes begins without space. -/
theorem goesOn_writeEscaped (hcs : cs.head? ≠ some ' ') (rest : List Char) :
    GoesOn (cs.flatMap writeEscaped ++ '"' :: rest) := by
  cases cs with
  | nil => exact goesOn_cons rfl _
  | cons c cs =>
    rw [List.flatMap_cons, List.append_assoc]
    exact (escaped_writeEscaped c).goesOn (fun h => hcs (congrArg some h)) _

/-- Spaces stand for themselves. -/
theorem flatMap_writeEscaped_spaces (n : Nat) :
    (List.replicate n ' ').flatMap writeEscaped = List.replicate n ' ' := by
  induction n with
  | zero => rfl
  | succ n ih =>
    rw [List.replicate_succ, List.flatMap_cons, ih]
    rfl

/-- A gap in double quotes stands for the spaces for which it is written. -/
theorem readGap_writeEscaped (n : Nat) (hcs : cs.head? ≠ some ' ') (rest : List Char) :
    readGap 0
        ((' ' :: (List.replicate n ' ' ++ (cs.flatMap writeEscaped ++ '"' :: rest))).length + 1) {}
        ⟨' ' :: (List.replicate n ' ' ++ (cs.flatMap writeEscaped ++ '"' :: rest)),
          index, line, column⟩ =
      some ({ blanks := List.replicate (n + 1) ' ' },
        ⟨cs.flatMap writeEscaped ++ '"' :: rest, index + (n + 1), line, column + (n + 1)⟩) :=
  readGap_blanks (n + 1)
    (by simp only [List.length_cons, List.length_append, List.length_replicate]; omega)
    (goesOn_writeEscaped hcs rest)

/-- A text in double quotes is read back behind the opening one. -/
theorem readQuoted_writeEscaped (text : List Char) (index line : Nat) (hfuel : cs.length < fuel)
    (hcolumn : 0 < column) (rest : List Char) :
    ∃ index' line' column',
      readQuoted '"' fuel text
          ⟨cs.flatMap writeEscaped ++ '"' :: '\n' :: rest, index, line, column⟩ =
        some (text ++ cs, ⟨'\n' :: rest, index', line', column'⟩) := by
  induction fuel generalizing cs text index line column with
  | zero => exact absurd hfuel (Nat.not_lt_zero _)
  | succ fuel ih =>
    obtain ⟨run, more, rfl, hrun, hmore⟩ := exists_run (· != ' ') cs
    have hrun (c : Char) (hc : c ∈ run) : c ≠ ' ' := by simpa using hrun c hc
    rw [List.flatMap_append, List.append_assoc]
    cases more with
    | nil =>
      have hread : quotedRun '"' (run.flatMap writeEscaped ++ '"' :: '\n' :: rest) =
          some (run, (run.flatMap writeEscaped).length) :=
            doubleRun_append hrun (by simp [doubleRun])
      rw [List.append_nil]
      exact ⟨_, _, _, readQuoted_closing hread hcolumn⟩
    | cons d more =>
      obtain rfl : d = ' ' := by simpa using hmore d rfl
      obtain ⟨n, more, rfl, hback⟩ := exists_spaces more
      have hwrite : (' ' :: (List.replicate n ' ' ++ more)).flatMap writeEscaped =
          ' ' :: (List.replicate n ' ' ++ more.flatMap writeEscaped) := by
        rw [List.flatMap_cons, List.flatMap_append, flatMap_writeEscaped_spaces]
        rfl
      have hread : quotedRun '"' (run.flatMap writeEscaped ++
          ' ' :: (List.replicate n ' ' ++ (more.flatMap writeEscaped ++ '"' :: '\n' :: rest))) =
          some (run, (run.flatMap writeEscaped).length) :=
        doubleRun_append hrun (by simp [doubleRun, isSeparator, isBlank])
      have hlength : more.length < fuel := by
        simp only [List.length_append, List.length_cons, List.length_replicate] at hfuel
        omega
      have htext : text ++ (run ++ ' ' :: (List.replicate n ' ' ++ more)) =
          text ++ run ++ List.replicate (n + 1) ' ' ++ more := by
        simp only [List.replicate_succ, List.append_assoc, List.cons_append]
      rw [hwrite, List.cons_append, List.append_assoc,
        readQuoted_gap hread rfl rfl hcolumn (readGap_writeEscaped n hback _),
        Gap.text_blanks, htext]
      exact ih _ _ _ hlength (Nat.succ_pos _)

end Scaffold.Yaml
