import Scaffold.Proofs.Yaml.Gaps

/-!
# Reading back literal YAML blocks

A text that is written as a literal block is read back (`readBlock_writeLines`). The lines are
indented by two columns. The header gives the indentation if the first line does not show it, and
says what becomes of the breaks at the end: the reader takes the last of them apart (`Apart`), and
the header is chosen so that those are put back that belong to the text.
-/

namespace Scaffold.Yaml

variable {b : Char} {cs line tail text first breaks rest : List Char}
  {fuel index row furthest : Nat} {indent : Option Nat}

/-! ## Lines -/

/-- The characters of a line stand for themselves. -/
theorem writeLines_append (hline : ∀ c ∈ line, isBreak c = false) (cs : List Char) :
    writeLines false (line ++ cs) = line ++ writeLines false cs := by
  induction line with
  | nil => rfl
  | cons c line ih =>
    rw [List.cons_append, writeLines, if_neg (by simp [hline c List.mem_cons_self]),
      if_neg Bool.false_ne_true, ih fun d hd => hline d (List.mem_cons_of_mem c hd)]
    rfl

/-- Breaks stand for themselves, and behind them begins a line, if there is one. -/
theorem writeLines_breaks (hbreaks : ∀ c ∈ breaks, isBreak c = true)
    (hcs : ∀ c, cs.head? = some c → isBreak c = false) :
    writeLines true (breaks ++ cs) =
      breaks ++ if cs.isEmpty then [] else ' ' :: ' ' :: writeLines false cs := by
  induction breaks with
  | nil =>
    cases cs with
    | nil => rfl
    | cons c cs =>
      have hc := hcs c rfl
      rw [List.nil_append, writeLines, writeLines, hc]
      rfl
  | cons b breaks ih =>
    rw [List.cons_append, writeLines, if_pos (hbreaks b List.mem_cons_self),
      ih fun d hd => hbreaks d (List.mem_cons_of_mem b hd), List.cons_append]

/-- The lines begin with the text itself where no break is in front. -/
theorem head?_writeLines (hne : cs ≠ []) (hhead : ∀ c, cs.head? = some c → isBreak c = false)
    (rest : List Char) : (writeLines false cs ++ rest).head? = cs.head? := by
  obtain ⟨c, cs, rfl⟩ := List.exists_cons_of_ne_nil hne
  rw [writeLines, if_neg (by simp [hhead c rfl]), if_neg Bool.false_ne_true]
  rfl

/-- The lines have no other characters than the text, but for spaces and line feeds. -/
theorem mem_of_mem_writeLines {c : Char} {broken : Bool} (h : c ∈ writeLines broken cs) :
    c ∈ cs ∨ c = ' ' ∨ c = '\n' := by
  induction cs generalizing broken with
  | nil => cases broken <;> simp_all [writeLines]
  | cons d cs ih =>
    rw [writeLines] at h
    split at h
    · rcases List.mem_cons.1 h with rfl | h
      · exact .inl List.mem_cons_self
      · exact (ih h).imp_left (List.mem_cons_of_mem d)
    · rcases List.mem_append.1 h with h | h
      · have h : c = ' ' ∨ c = d := by
          split at h
          · simpa using h
          · exact .inr (List.mem_singleton.1 h)
        exact h.elim (fun h => .inr (.inl h)) fun h => .inl (h ▸ List.mem_cons_self)
      · exact (ih h).imp_left (List.mem_cons_of_mem d)

/-! ## Indentation -/

/-- A text that does not begin with a blank begins with neither space nor tab. -/
theorem noBlank_of_head (h : ∀ c, cs.head? = some c → isBlank c = false) :
    cs.takeWhile (· == ' ') = [] ∧ (cs.head? == some '\t') = false := by
  cases cs with
  | nil => exact ⟨rfl, rfl⟩
  | cons c cs =>
    have hc := h c rfl
    rw [isBlank, Bool.or_eq_false_iff] at hc
    exact ⟨List.takeWhile_cons_of_neg (by simp [hc.1]), by simpa using hc.2⟩

/-- A text that does not begin with a break is not at the end of a line. -/
theorem noBreak_of_head (h : ∀ c, cs.head? = some c → isBreak c = false) :
    cs.head?.any isBreak = false := by
  cases hc : cs.head? with
  | none => rfl
  | some c => exact h c hc

/-- A line that does not begin with a blank is not indented; it may be blank itself. -/
theorem readIndentation_of_head (h : ∀ c, cs.head? = some c → isBlank c = false) :
    readIndentation indent (fuel + 1) text furthest ⟨cs, index, row, 0⟩ =
      if cs.head?.any isBreak then
        readIndentation indent fuel (text ++ (Cursor.readBreak ⟨cs, index, row, 0⟩).1) furthest
          (Cursor.readBreak ⟨cs, index, row, 0⟩).2
      else some (text, furthest, ⟨cs, index, row, 0⟩) := by
  obtain ⟨hspaces, htab⟩ := noBlank_of_head h
  rw [readIndentation.eq_def]
  cases indent <;>
    simp only [hspaces, List.length_nil, Nat.zero_min, Cursor.skip, List.drop_zero, Nat.add_zero,
      Nat.max_zero, Cursor.next?, htab, Bool.false_and, Bool.false_eq_true, if_false,
      Cursor.atBreak]

/-- Blank lines in front of a line. -/
theorem readIndentation_breaks (hbreaks : ∀ b ∈ breaks, isBreak b = true ∧ isPrintable b = true)
    (text : List Char) :
    readIndentation indent (fuel + breaks.length) text furthest ⟨breaks ++ tail, index, row, 0⟩ =
      readIndentation indent fuel (text ++ breaks) furthest
        ⟨tail, index + breaks.length, row + breaks.length, 0⟩ := by
  induction breaks generalizing text index row with
  | nil => rw [List.append_nil]; rfl
  | cons b breaks ih =>
    have hb := hbreaks b List.mem_cons_self
    rw [List.length_cons, ← Nat.add_assoc, List.cons_append, readIndentation_of_head,
      if_pos (by exact hb.1), Cursor.readBreak_cons hb.1 hb.2,
      ih fun d hd => hbreaks d (List.mem_cons_of_mem b hd)]
    · simp only [List.append_assoc, List.singleton_append, Nat.add_assoc, Nat.add_comm 1]
    · rintro c hc
      cases hc
      exact isBlank_of_isBreak hb.1

/-- No indentation. -/
theorem readIndentation_goesOn (h : GoesOn rest) :
    readIndentation indent (fuel + 1) text furthest ⟨rest, index, row, 0⟩ =
      some (text, furthest, ⟨rest, index, row, 0⟩) := by
  rw [readIndentation_of_head fun c hc => (Bool.or_eq_false_iff.1 (h c hc)).1,
    noBreak_of_head fun c hc => (Bool.or_eq_false_iff.1 (h c hc)).2, if_neg Bool.false_ne_true]

/-- The indentation of a line by two columns. -/
theorem readIndentation_two (hcs : ∀ c, cs.head? = some c → isBreak c = false) :
    readIndentation (some 2) (fuel + 1) text furthest ⟨' ' :: ' ' :: cs, index, row, 0⟩ =
      some (text, max furthest 2, ⟨cs, index + 2, row, 2⟩) := by
  have hspaces : min ((' ' :: ' ' :: cs).takeWhile (· == ' ')).length (2 - 0) = 2 := by simp
  rw [readIndentation]
  simp only [hspaces, Cursor.skip, List.drop_succ_cons, List.drop_zero, Nat.zero_add, Nat.lt_irrefl,
    decide_false, Bool.and_false, Bool.false_eq_true, if_false, Cursor.atBreak, noBreak_of_head hcs]

/-- The indentation of a line by two columns that does not begin with a blank. -/
theorem readIndentation_first (hcs : GoesOn cs) :
    readIndentation none (fuel + 1) text furthest ⟨' ' :: ' ' :: cs, index, row, 0⟩ =
      some (text, max furthest 2, ⟨cs, index + 2, row, 2⟩) := by
  obtain ⟨hnone, htab⟩ := noBlank_of_head fun c hc => (Bool.or_eq_false_iff.1 (hcs c hc)).1
  have hspaces : ((' ' :: ' ' :: cs).takeWhile (· == ' ')).length = 2 := by simp [hnone]
  rw [readIndentation]
  simp only [hspaces, Cursor.skip, List.drop_succ_cons, List.drop_zero, Nat.zero_add,
    Cursor.next?, htab, Bool.false_and, Bool.false_eq_true, if_false, Cursor.atBreak,
    noBreak_of_head fun c hc => (Bool.or_eq_false_iff.1 (hcs c hc)).2]

/-! ## The breaks at the end -/

/-- What the reader of the lines has to give for a text: the text up to its last breaks, the first
of these and the others, as far as the header lets them count. -/
structure Apart (cs text first breaks : List Char) : Prop where
  strip : cs.getLast?.any isBreak = false → text = cs
  clip : cs.getLast?.any isBreak = true → endsOpen cs = false → text ++ first = cs
  keep : endsOpen cs = true → text ++ first ++ breaks = cs

/-- A text that does not end in a break has no breaks at its end. -/
theorem endsOpen_of_getLast? (h : cs.getLast?.any isBreak = false) : endsOpen cs = false := by
  rw [← List.head?_reverse] at h
  unfold endsOpen
  split
  · rename_i hrev
    rw [hrev] at h
    exact h
  · rename_i hrev
    rw [hrev] at h
    simp_all
  · rfl

/-- A text ends open that ends in two breaks. -/
theorem endsOpen_append (cs : List Char) (hbreaks : ∀ c ∈ breaks, isBreak c = true)
    (hlength : 2 ≤ breaks.length) : endsOpen (cs ++ breaks) = true := by
  rw [endsOpen, List.reverse_append]
  match hrev : breaks.reverse with
  | a :: b :: more =>
    have hmem : ∀ c ∈ a :: b :: more, isBreak c = true := fun c hc =>
      hbreaks c (List.mem_reverse.1 (hrev ▸ hc))
    simp [hmem a, hmem b]
  | [_] | [] =>
    rw [← List.length_reverse, hrev] at hlength
    simp at hlength

/-- A text ends open that is nothing but breaks. -/
theorem endsOpen_of_breaks (hbreaks : ∀ c ∈ breaks, isBreak c = true) (hne : breaks ≠ []) :
    endsOpen breaks = true := by
  rcases breaks with _ | ⟨a, _ | ⟨b, more⟩⟩
  · exact absurd rfl hne
  · exact hbreaks a List.mem_cons_self
  · exact endsOpen_append [] hbreaks (by simp)

/-- A text that ends in a line. -/
theorem Apart.of_line (hline : ∀ c ∈ line, isBreak c = false) (hne : line ≠ [])
    (front : List Char) : Apart (front ++ line) (front ++ line) first breaks := by
  have hlast : (front ++ line).getLast?.any isBreak = false := by
    rw [List.getLast?_append, List.getLast?_eq_some_getLast hne]
    exact hline _ (List.getLast_mem hne)
  refine ⟨fun _ => rfl, fun h => ?_, fun h => ?_⟩
  · rw [hlast] at h
    cases h
  · rw [endsOpen_of_getLast? hlast] at h
    cases h

/-- A text with breaks at its end. -/
theorem getLast?_append_breaks (hbreaks : ∀ c ∈ breaks, isBreak c = true) (hne : breaks ≠ [])
    (cs : List Char) : (cs ++ breaks).getLast?.any isBreak = true := by
  rw [List.getLast?_append, List.getLast?_eq_some_getLast hne]
  exact hbreaks _ (List.getLast_mem hne)

/-- A text with a break at its end. -/
theorem Apart.of_break (hb : isBreak b = true) (hbreaks : ∀ c ∈ breaks, isBreak c = true) :
    Apart (text ++ b :: breaks) text [b] breaks := by
  have hall : ∀ c ∈ b :: breaks, isBreak c = true := List.forall_mem_cons.2 ⟨hb, hbreaks⟩
  refine ⟨fun h => ?_, fun _ h => ?_, fun _ => by rw [List.append_assoc, List.singleton_append]⟩
  · rw [getLast?_append_breaks hall (List.cons_ne_nil b breaks)] at h
    cases h
  · cases breaks with
    | nil => rfl
    | cons d breaks =>
      rw [endsOpen_append _ hall (by simp)] at h
      cases h

/-- A text that is nothing but breaks. -/
theorem Apart.of_breaks (hbreaks : ∀ c ∈ breaks, isBreak c = true) (hne : breaks ≠ []) :
    Apart breaks [] [] breaks := by
  have hopen := endsOpen_of_breaks hbreaks hne
  refine ⟨fun h => ?_, fun _ h => ?_, fun _ => rfl⟩
  · rw [endsOpen_of_getLast? h] at hopen
    cases hopen
  · rw [hopen] at h
    cases h

/-! ## Blocks -/

/-- What the reader does with a line and the break behind it. -/
theorem readBlockLines_line {blank : Bool} (hline : ∀ c ∈ line, isBreak c = false)
    (hb : isBreak b = true) (hprint : isPrintable b = true) :
    readBlockLines true 2 (fuel + 1) text first breaks blank ⟨line ++ b :: tail, index, row, 2⟩ =
      (readIndentation (some 2) (tail.length + 1) [] 0 ⟨tail, index + line.length + 1,
        row + 1, 0⟩).bind
        fun (more, _, c) => readBlockLines true 2 fuel (text ++ first ++ breaks ++ line) [b] more
          ((line ++ b :: tail).head?.any isBlank) c := by
  have htake : (line ++ b :: tail).takeWhile (fun d => !isBreak d) = line := by
    rw [List.takeWhile_append_of_pos fun c hc => by simp [hline c hc],
      List.takeWhile_cons_of_neg (by simp [hb]), List.append_nil]
  have hend : (line ++ b :: tail).isEmpty = false := by simp
  rw [readBlockLines]
  simp only [bne_self_eq_false, Cursor.atEnd, hend, Bool.or_self, Bool.false_eq_true, if_false,
    Bool.not_true, Bool.false_and, htake, Cursor.skip_append, Cursor.readBreak_cons hb hprint,
    Cursor.atBlank]
  cases readIndentation (some 2) (tail.length + 1) [] 0
    ⟨tail, index + line.length + 1, row + 1, 0⟩ <;> rfl

/-- Behind the last line the reader is at the margin. -/
theorem readBlockLines_margin {blank : Bool} :
    readBlockLines true 2 (fuel + 1) text first breaks blank ⟨rest, index, row, 0⟩ =
      some (text, first, breaks, ⟨rest, index, row, 0⟩) := rfl

/-- A text that begins with a line is this line, with breaks and a text behind it if it goes on. -/
theorem exists_line (hne : cs ≠ []) (hhead : ∀ c, cs.head? = some c → isBreak c = false) :
    ∃ line, line ≠ [] ∧ (∀ c ∈ line, isBreak c = false) ∧ (cs = line ∨
      ∃ b others more, cs = line ++ b :: (others ++ more) ∧ isBreak b = true ∧
        (∀ c ∈ others, isBreak c = true) ∧ ∀ c, more.head? = some c → isBreak c = false) := by
  obtain ⟨line, more, rfl, hline, hmore⟩ := exists_run (fun c => !isBreak c) cs
  have hline (c : Char) (hc : c ∈ line) : isBreak c = false := by simpa using hline c hc
  have hmore (c : Char) (hc : more.head? = some c) : isBreak c = true := by simpa using hmore c hc
  have hnonempty : line ≠ [] := by
    rintro rfl
    obtain ⟨c, more, rfl⟩ := List.exists_cons_of_ne_nil hne
    exact Bool.false_ne_true ((hhead c rfl).symm.trans (hmore c rfl))
  refine ⟨line, hnonempty, hline, ?_⟩
  cases more with
  | nil => exact .inl (List.append_nil line)
  | cons b more =>
    obtain ⟨others, more, rfl, hothers, hend⟩ := exists_run isBreak more
    exact .inr ⟨b, others, more, rfl, hmore b rfl, hothers, hend⟩

/-- The lines of a block are read from the start of one of them. -/
theorem readBlockLines_writeLines {blank : Bool} (hprint : ∀ c ∈ cs, isPrintable c = true)
    (hne : cs ≠ []) (hhead : ∀ c, cs.head? = some c → isBreak c = false) (hfuel : cs.length < fuel)
    (hrest : GoesOn rest) :
    ∃ text' first' breaks' index' row',
      readBlockLines true 2 fuel text first breaks blank
          ⟨writeLines false cs ++ rest, index, row, 2⟩ =
        some (text', first', breaks', ⟨rest, index', row', 0⟩) ∧
        Apart (text ++ first ++ breaks ++ cs) text' first' breaks' := by
  induction fuel generalizing cs text first breaks blank index row with
  | zero => exact absurd hfuel (Nat.not_lt_zero _)
  | succ fuel ih =>
    obtain ⟨line, hnonempty, hline, hcs⟩ := exists_line hne hhead
    have hlength := List.length_pos_iff.2 hnonempty
    obtain ⟨fuel, rfl⟩ : ∃ n, fuel = n + 1 := by
      have : line.length ≤ cs.length := by rcases hcs with rfl | ⟨_, _, _, rfl, -⟩ <;> simp
      exact ⟨fuel - 1, by omega⟩
    rcases hcs with rfl | ⟨b, others, more, rfl, hb, hothers, hmore⟩
    · have hwrite : writeLines false cs = cs ++ ['\n'] := by
        rw [← List.append_nil cs, writeLines_append hline, List.append_nil]
        rfl
      rw [hwrite, List.append_assoc, List.singleton_append, readBlockLines_line hline rfl rfl,
        readIndentation_goesOn hrest]
      exact ⟨_, _, _, _, _, rfl, .of_line hline hnonempty _⟩
    have hbreaks (c : Char) (hc : c ∈ others) : isBreak c = true ∧ isPrintable c = true :=
      ⟨hothers c hc, hprint c (by simp [hc])⟩
    rw [writeLines_append hline, List.append_assoc, writeLines, if_pos hb,
      writeLines_breaks hothers hmore, List.cons_append, List.append_assoc,
      readBlockLines_line hline hb (hprint b (by simp)), List.length_append,
      Nat.add_comm others.length, Nat.add_right_comm, readIndentation_breaks hbreaks,
      List.nil_append]
    cases more with
    | nil =>
      rw [List.isEmpty_nil, if_pos rfl, List.nil_append, readIndentation_goesOn hrest,
        List.append_nil, ← List.append_assoc]
      exact ⟨_, _, _, _, _, rfl, .of_break hb hothers⟩
    | cons c more =>
      have hne := List.cons_ne_nil c more
      have hfuel : (c :: more).length < fuel + 1 := by
        simp only [List.length_append, List.length_cons] at hfuel ⊢
        omega
      rw [List.isEmpty_cons, if_neg Bool.false_ne_true, List.cons_append, List.cons_append,
        readIndentation_two fun d hd => hmore d (head?_writeLines hne hmore rest ▸ hd)]
      -- the breaks in front of the next line become content, since a line follows
      have hcontent : text ++ first ++ breaks ++ (line ++ b :: (others ++ c :: more)) =
          text ++ first ++ breaks ++ line ++ [b] ++ others ++ c :: more := by simp
      rw [hcontent]
      exact ih (fun d hd => hprint d (by simp [hd])) hne hmore hfuel

/-- What the header says of the breaks at the end. -/
def chomping (cs : List Char) : Chomping :=
  if endsOpen cs then .keep else if cs.getLast?.any isBreak then .clip else .strip

/-- The indentation that the header gives. -/
def givenIndent (cs : List Char) : Option Nat :=
  if cs.head?.any fun c => c == ' ' || isBreak c then some 2 else none

/-- The header is read up to the end of its line. -/
theorem blockHeader?_writeHeader (cs tail : List Char) :
    blockHeader? (writeHeader cs ++ '\n' :: tail) =
      some (chomping cs, givenIndent cs, (writeHeader cs).length) := by
  unfold writeHeader chomping givenIndent
  cases cs.head?.any fun c => c == ' ' || isBreak c <;> cases endsOpen cs <;>
    cases cs.getLast?.any isBreak <;> rfl

/-- The text whose breaks at the end are read as the header says. -/
theorem Apart.chomp (h : Apart cs text first breaks) :
    (match chomping cs with
      | .strip => text
      | .clip => text ++ first
      | .keep => text ++ first ++ breaks) = cs := by
  unfold chomping
  cases hopen : endsOpen cs with
  | true => exact h.keep hopen
  | false =>
    cases hlast : cs.getLast?.any isBreak with
    | true => exact h.clip hlast hopen
    | false => exact h.strip hlast

/-- No character gets lost in the lines of a block. -/
theorem length_le_writeLines (broken : Bool) (cs : List Char) :
    cs.length ≤ (writeLines broken cs).length := by
  induction cs generalizing broken with
  | nil => exact Nat.zero_le _
  | cons c cs ih =>
    rw [writeLines]
    split
    · exact Nat.succ_le_succ (ih true)
    · have := ih false
      cases broken <;> simp <;> omega

/-- The reader gets to the first line, and from there through the block. -/
theorem exists_readIndentation (index row : Nat) (hprint : ∀ c ∈ cs, isPrintable c = true)
    (hne : cs ≠ []) (hrest : GoesOn rest) :
    ∃ breaks furthest c,
      readIndentation (givenIndent cs) ((writeLines true cs ++ rest).length + 1) [] 0
          ⟨writeLines true cs ++ rest, index, row, 0⟩ = some (breaks, furthest, c) ∧
        (givenIndent cs).getD (max furthest 1) = 2 ∧
        ∃ text first others index' row',
          readBlockLines true 2 (c.rest.length + 1) [] [] breaks false c =
              some (text, first, others, ⟨rest, index', row', 0⟩) ∧ Apart cs text first others := by
  -- a space or a break in front could not be told from the indentation, so the header gives that
  by_cases hgiven : (cs.head?.any fun c => c == ' ' || isBreak c) = true
  · obtain ⟨breaks, more, rfl, hbreaks, hmore⟩ := exists_run isBreak cs
    rw [givenIndent, if_pos hgiven, writeLines_breaks hbreaks hmore, List.append_assoc,
      List.length_append, Nat.add_comm breaks.length, Nat.add_right_comm,
      readIndentation_breaks fun b hb =>
        ⟨hbreaks b hb, hprint b (List.mem_append_left more hb)⟩, List.nil_append]
    cases more with
    | nil =>
      rw [List.append_nil] at hne ⊢
      rw [List.isEmpty_nil, if_pos rfl, List.nil_append, readIndentation_goesOn hrest]
      exact ⟨_, _, _, rfl, rfl, _, _, _, _, _, readBlockLines_margin, .of_breaks hbreaks hne⟩
    | cons c more =>
      have hhead := head?_writeLines (List.cons_ne_nil c more) hmore rest
      rw [List.isEmpty_cons, if_neg Bool.false_ne_true, List.cons_append, List.cons_append,
        readIndentation_two fun d hd => hmore d (hhead ▸ hd)]
      exact ⟨_, _, _, rfl, rfl, readBlockLines_writeLines (fun d hd => hprint d (by simp [hd]))
        (List.cons_ne_nil c more) hmore (by
          have := length_le_writeLines false (c :: more)
          simp only [List.length_append]
          omega) hrest⟩
  · have hhead (c : Char) (hc : cs.head? = some c) : c ≠ ' ' ∧ isBreak c = false := by
      rw [hc] at hgiven
      simpa using hgiven
    have hbreak := fun c hc => (hhead c hc).2
    have hlines : writeLines true cs = ' ' :: ' ' :: writeLines false cs := by
      have hnone : ∀ c ∈ [], isBreak c = true := by simp
      have := writeLines_breaks hnone hbreak
      rwa [if_neg (by simpa using hne)] at this
    have hgoes : GoesOn (writeLines false cs ++ rest) := by
      have : GoesOn cs := goesOn_of_ne hprint hbreak fun hc => (hhead ' ' hc).1 rfl
      exact fun d hd => this d (head?_writeLines hne hbreak rest ▸ hd)
    rw [givenIndent, if_neg hgiven, hlines, List.cons_append, List.cons_append,
      readIndentation_first hgoes]
    exact ⟨_, _, _, rfl, rfl, readBlockLines_writeLines hprint hne hbreak (by
      have := length_le_writeLines false cs
      simp only [List.length_append]
      omega) hrest⟩

/-- A text is read back from a literal block in a mapping at the margin. -/
theorem readBlock_writeLines (index row column : Nat) (hprint : ∀ c ∈ cs, isPrintable c = true)
    (hne : cs ≠ []) (hrest : GoesOn rest) :
    ∃ index' row',
      readBlock true (some 0)
          ⟨writeHeader cs ++ '\n' :: (writeLines true cs ++ rest), index, row, column⟩ =
        some (cs, ⟨rest, index', row', 0⟩) := by
  obtain ⟨breaks, furthest, c, hindentation, hindent, text, first, others, index', row', hlines,
    hapart⟩ :=
    exists_readIndentation (index + (writeHeader cs).length + 1) (row + 1) hprint hne hrest
  have hgiven : (givenIndent cs).map (fun g => 0 + g) = givenIndent cs := by
    cases givenIndent cs <;> simp
  have hskip : (Cursor.skipBlanks ⟨'\n' :: (writeLines true cs ++ rest),
      index + (writeHeader cs).length, row, column + (writeHeader cs).length⟩).skipComment =
      ⟨'\n' :: (writeLines true cs ++ rest), index + (writeHeader cs).length, row,
        column + (writeHeader cs).length⟩ := rfl
  refine ⟨index', row', ?_⟩
  rw [readBlock, blockHeader?_writeHeader]
  simp only [Option.bind_eq_bind, Option.bind_some, Cursor.skip_append, hskip,
    Option.getD_some, hgiven, Cursor.readBreak_cons (show isBreak '\n' = true from rfl) rfl,
    hindentation]
  rw [if_neg (by exact Bool.false_ne_true)]
  simp only [Nat.zero_add, hindent, hlines, Option.bind_some]
  exact congrArg (fun text => some (text, _)) hapart.chomp

end Scaffold.Yaml
