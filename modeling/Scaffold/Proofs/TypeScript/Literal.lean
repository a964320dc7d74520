import Mathlib.Data.List.Basic
import Scaffold.Text.Hex
import Scaffold.TypeScript.StringLiteral

/-!
# How string literals are read

The value of a literal is a sequence of UTF-16 code units (`units`), since escapes can denote single
halves of a surrogate pair. `readEscape?` reads what stands behind a backslash, in the same way for
every kind of literal, and `readLiteral?` a single-quoted literal. Both answer with what is left of
the text. The main statement is `readLiteral?_quote`: a literal that `quote` writes is read as the
text it was written for, and reading stops behind it.
-/

namespace Scaffold.TypeScript

/-! ## Code units -/

/-- The code units of a code point: itself, or a surrogate pair. -/
def unitsOfPoint (n : Nat) : List Nat :=
  if n < 0x10000 then [n]
  else [0xD800 + (n - 0x10000) / 0x400, 0xDC00 + (n - 0x10000) % 0x400]

/-- The code units of a character. -/
def codeUnits (c : Char) : List Nat := unitsOfPoint c.toNat

/-- The code units of a text. -/
def units (cs : List Char) : List Nat := cs.flatMap codeUnits

section
variable {c : Char} {cs ds : List Char}

@[simp] theorem units_nil : units [] = [] := rfl

@[simp] theorem units_cons : units (c :: cs) = codeUnits c ++ units cs := List.flatMap_cons

@[simp] theorem units_append : units (cs ++ ds) = units cs ++ units ds := List.flatMap_append

/-- A code point has one or two units. -/
theorem length_unitsOfPoint (n : Nat) :
    1 ≤ (unitsOfPoint n).length ∧ (unitsOfPoint n).length ≤ 2 := by
  rw [unitsOfPoint]
  split <;> simp

/-- No character is without units. -/
theorem codeUnits_pos (c : Char) : 1 ≤ (codeUnits c).length := (length_unitsOfPoint c.toNat).1

/-- A text has at least as many units as characters. -/
theorem length_le_length_units (cs : List Char) : cs.length ≤ (units cs).length := by
  induction cs with
  | nil => exact Nat.le_refl 0
  | cons c cs ih =>
    have := codeUnits_pos c
    simp only [units_cons, List.length_cons, List.length_append]
    omega

/-- Only the empty text has no units. -/
theorem units_eq_nil_iff : units cs = [] ↔ cs = [] := by
  refine ⟨fun h => ?_, fun h => by rw [h]; rfl⟩
  have := length_le_length_units cs
  rw [h] at this
  exact List.length_eq_zero_iff.1 (Nat.le_zero.1 this)

end

/-! ## Escapes -/

/-- The letters that denote control characters behind a backslash. -/
def controlEscapes : List (Char × Nat) :=
  [('b', 0x08), ('t', 0x09), ('n', 0x0A), ('v', 0x0B), ('f', 0x0C), ('r', 0x0D)]

/-- The characters that end a line. -/
def isLineEnd (c : Char) : Bool := c == '\n' || c == '\r' || c == '\u2028' || c == '\u2029'

/-- What stands behind a line end; a carriage return and a line feed are one. -/
def behindLineEnd (c : Char) (rest : List Char) : List Char :=
  if c = '\r' ∧ rest.head? = some '\n' then rest.tail else rest

/-- Reads a unit that is written with `width` hexadecimal digits. -/
def readHex? (width : Nat) (cs : List Char) : Option (List Nat × List Char) :=
  if width ≤ cs.length then
    (Text.ofHex? (cs.take width)).map fun n => ([n], cs.drop width)
  else none

/-- Reads the digits of a code point and the brace that closes them. -/
def readBraced? (cs : List Char) : Option (List Nat × List Char) :=
  match Text.ofHex? (cs.takeWhile Text.isHexDigit), cs.dropWhile Text.isHexDigit with
  | some n, '\x7d' :: rest =>
    if cs.head? ≠ some '\x7d' ∧ n ≤ 0x10FFFF then some (unitsOfPoint n, rest) else none
  | _, _ => none

/-- Reads what stands behind a backslash. A digit is only allowed for the character zero, and a line
that is broken here goes on. Any other character stands for itself. -/
def readEscape? : List Char → Option (List Nat × List Char)
  | [] => none
  | c :: rest =>
    if c = 'x' then readHex? 2 rest
    else if c = 'u' then
      if rest.head? = some '\x7b' then readBraced? rest.tail else readHex? 4 rest
    else if c.isDigit then
      if c = '0' ∧ ¬rest.head?.any Char.isDigit then some ([0], rest) else none
    else if isLineEnd c then some ([], behindLineEnd c rest)
    else
      match controlEscapes.lookup c with
      | some n => some ([n], rest)
      | none => some (codeUnits c, rest)

section
variable {c : Char} {cs rest : List Char} {us : List Nat} {width n : Nat}

/-- A line end takes up at most a line feed more. -/
theorem exists_behindLineEnd (c : Char) (rest : List Char) :
    ∃ pre, rest = pre ++ behindLineEnd c rest ∧ ∀ d ∈ pre, d = '\n' := by
  rw [behindLineEnd]
  split
  · rename_i h
    exact ⟨['\n'], List.eq_cons_of_mem_head? h.2, List.forall_mem_singleton.2 rfl⟩
  · exact ⟨[], rfl, List.forall_mem_nil _⟩

/-- Only digits denote a number. -/
theorem isHexDigit_of_foldlM {m : Nat}
    (h : cs.foldlM (fun n c => (Text.hexValue? c).map fun v => 16 * n + v) m = some n) :
    ∀ c ∈ cs, Text.isHexDigit c = true := by
  induction cs generalizing m with
  | nil => simp
  | cons c cs ih =>
    obtain ⟨m', hm, hrest⟩ := Option.bind_eq_some_iff.1 (List.foldlM_cons.symm.trans h)
    obtain ⟨v, hv, -⟩ := Option.map_eq_some_iff.1 hm
    rw [List.forall_mem_cons, Text.isHexDigit, hv]
    exact ⟨rfl, ih hrest⟩

/-- A question mark is no digit. -/
theorem question_not_mem (h : ∀ c ∈ cs, Text.isHexDigit c = true) : '?' ∉ cs :=
  fun hmem => absurd (h '?' hmem) (by decide)

/-- Digits stand for one unit. -/
theorem readHex?_eq_some (h : readHex? width cs = some (us, rest)) :
    us.length = 1 ∧ ∃ digits, cs = digits ++ rest ∧ ∀ c ∈ digits, Text.isHexDigit c = true := by
  rw [readHex?] at h
  split at h
  · obtain ⟨n, hn, heq⟩ := Option.map_eq_some_iff.1 h
    cases heq
    exact ⟨rfl, cs.take width, (List.take_append_drop width cs).symm, isHexDigit_of_foldlM hn⟩
  · cases h

/-- Digits in braces stand for at most two units. -/
theorem readBraced?_eq_some (h : readBraced? cs = some (us, rest)) :
    us.length ≤ 2 ∧
      ∃ digits, cs = digits ++ '\x7d' :: rest ∧ ∀ c ∈ digits, Text.isHexDigit c = true := by
  rw [readBraced?] at h
  split at h
  · rename_i n rest' hn hrest
    split at h
    · cases h
      refine ⟨(length_unitsOfPoint n).2, cs.takeWhile Text.isHexDigit, ?_, isHexDigit_of_foldlM hn⟩
      rw [← hrest, List.takeWhile_append_dropWhile]
    · cases h
  · cases h

/-- An escape takes up a part of the text with at least as many units as it stands for. It does not
go on over a question mark, unless that stands right behind the backslash. -/
theorem readEscape?_eq_some (h : readEscape? cs = some (us, rest)) :
    ∃ c pre, cs = c :: (pre ++ rest) ∧ us.length ≤ (units (c :: pre)).length ∧ '?' ∉ pre := by
  cases cs with
  | nil => cases h
  | cons c tail =>
    suffices hpre : ∃ pre, tail = pre ++ rest ∧ us.length ≤ (units (c :: pre)).length ∧ '?' ∉ pre by
      obtain ⟨pre, rfl, hpre⟩ := hpre
      exact ⟨c, pre, rfl, hpre⟩
    have hc := codeUnits_pos c
    have hdigits {width : Nat} (h : readHex? width tail = some (us, rest)) :
        ∃ pre, tail = pre ++ rest ∧ us.length ≤ (units (c :: pre)).length ∧ '?' ∉ pre := by
      obtain ⟨hus, digits, htail, hhex⟩ := readHex?_eq_some h
      refine ⟨digits, htail, ?_, question_not_mem hhex⟩
      simp only [units_cons, List.length_append]
      omega
    rw [readEscape?] at h
    split_ifs at h with _ _ hbrace _ _ hline
    · exact hdigits h
    · obtain ⟨hus, digits, htail, hhex⟩ := readBraced?_eq_some h
      refine ⟨'\x7b' :: (digits ++ ['\x7d']), ?_, ?_, by simpa using question_not_mem hhex⟩
      · rw [List.eq_cons_of_mem_head? hbrace, htail]
        simp
      · have := codeUnits_pos '\x7b'
        simp only [units_cons, List.length_append]
        omega
    · exact hdigits h
    · cases h
      exact ⟨[], rfl, by simpa using hc, by simp⟩
    · cases h
      obtain ⟨pre, hpre, hfeed⟩ := exists_behindLineEnd c tail
      exact ⟨pre, hpre, Nat.zero_le _, fun hmark => absurd (hfeed '?' hmark) (by decide)⟩
    · cases hl : controlEscapes.lookup c with
      | some n =>
        rw [hl] at h
        cases h
        exact ⟨[], rfl, by simpa using hc, by simp⟩
      | none =>
        rw [hl] at h
        cases h
        exact ⟨[], rfl, by simp, by simp⟩

/-- An escape takes up at least one character. -/
theorem length_readEscape?_lt (h : readEscape? cs = some (us, rest)) :
    rest.length < cs.length := by
  obtain ⟨c, pre, rfl, -, -⟩ := readEscape?_eq_some h
  rw [List.length_cons, List.length_append]
  omega

end

/-! ## Single-quoted literals -/

/-- Reads a single-quoted literal from behind its opening quote. A line may not end in it. -/
def readQuoted? : List Char → Option (List Nat × List Char)
  | [] => none
  | c :: cs =>
    if c = '\'' then some ([], cs)
    else if c = '\n' ∨ c = '\r' then none
    else if c = '\\' then
      match _ : readEscape? cs with
      | some (us, rest) => (readQuoted? rest).map fun p => (us ++ p.1, p.2)
      | none => none
    else (readQuoted? cs).map fun p => (codeUnits c ++ p.1, p.2)
termination_by cs => cs.length
decreasing_by
  · have := length_readEscape?_lt ‹readEscape? cs = some (us, rest)›
    simp only [List.length_cons]
    omega
  · simp

/-- The characters that are written with a backslash are read back. -/
theorem readEscape?_escapeChar {c d : Char} (h : escapeChar c = ['\\', d]) (rest : List Char) :
    readEscape? (d :: rest) = some (codeUnits c, rest) := by
  have hc : c = '\\' ∨ c = '\'' ∨ c = '\n' ∨ c = '\r' := by
    by_contra hc
    push Not at hc
    rw [escapeChar] at h <;> simp_all
  rcases hc with rfl | rfl | rfl | rfl <;> cases h <;> rfl

/-- What is written for a character is read as that character. -/
theorem readQuoted?_escapeChar (c : Char) (rest : List Char) :
    readQuoted? (escapeChar c ++ rest) =
      (readQuoted? rest).map fun p => (codeUnits c ++ p.1, p.2) := by
  have hc : (∃ d, escapeChar c = ['\\', d]) ∨
      escapeChar c = [c] ∧ c ≠ '\'' ∧ c ≠ '\n' ∧ c ≠ '\r' ∧ c ≠ '\\' := by
    unfold escapeChar
    split <;> simp_all
  rcases hc with ⟨d, hd⟩ | ⟨he, hquote, hfeed, hreturn, hslash⟩
  · rw [hd, List.cons_append, List.cons_append, List.nil_append, readQuoted?]
    simp only [Char.reduceEq, or_self, if_false, if_true]
    split
    · rename_i hread
      rw [readEscape?_escapeChar hd rest] at hread
      cases hread
      rfl
    · rename_i hread
      rw [readEscape?_escapeChar hd rest] at hread
      cases hread
  · rw [he, List.singleton_append, readQuoted?]
    simp [hquote, hfeed, hreturn, hslash]

/-- A literal that is written for a text is read as that text, whatever stands behind it. -/
theorem readQuoted?_escaped (cs rest : List Char) :
    readQuoted? (cs.flatMap escapeChar ++ '\'' :: rest) = some (units cs, rest) := by
  induction cs with
  | nil =>
    rw [List.flatMap_nil, List.nil_append, readQuoted?]
    simp
  | cons c cs ih =>
    rw [List.flatMap_cons, List.append_assoc, readQuoted?_escapeChar, ih]
    rfl

/-- Reads a single-quoted literal. -/
def readLiteral? : List Char → Option (List Nat × List Char)
  | '\'' :: cs => readQuoted? cs
  | _ => none

/-- A literal that is written for a text is read as that text, and reading stops behind it. -/
theorem readLiteral?_quote (s : String) (rest : List Char) :
    readLiteral? ((quote s).toList ++ rest) = some (units s.toList, rest) := by
  rw [quote, String.toList_ofList, quoteChars, List.cons_append, List.append_assoc,
    List.singleton_append]
  exact readQuoted?_escaped s.toList rest

end Scaffold.TypeScript
