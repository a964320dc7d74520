import Scaffold.Json.Write
import Scaffold.Proofs.Json.Units

/-!
# Reading back what is written in JSON

A text in quotes is read as the numbers of its characters, whatever stands behind it, and so is an
object whose members are texts or null (`readMembers?_compactMembers`). The reader works with fuel;
an object takes one unit for every member.
-/

namespace Scaffold.Json

variable {rest : List Char}

/-! ## Texts -/

/-- The numbers of the characters of a text. -/
def points (s : String) : List Nat := s.toList.map Char.toNat

/-- They denote the text. -/
theorem textOfUnits?_points (s : String) : textOfUnits? (points s) = some s := by
  have hchars (cs : List Char) : charsOfUnits? (cs.map Char.toNat) = some cs := by
    induction cs with
    | nil => rfl
    | cons c cs ih => rw [List.map_cons, charsOfUnits?_toNat, ih, Option.map_some]
  rw [textOfUnits?, points, hchars, Option.map_some, String.ofList_toList]

/-- A control character that is written in hexadecimal digits is read back. -/
theorem hex4?_control : ∀ n < 0x20,
    hex4? '0' '0' (Text.hexDigit (n / 16)) (Text.hexDigit (n % 16)) = some n := by decide

/-- What is written for a character is read as the number of the character. -/
theorem readString?_escapeChar (c : Char) (rest : List Char) :
    readString? (escapeChar c ++ rest) = (readString? rest).map fun p => (c.toNat :: p.1, p.2) := by
  unfold escapeChar
  split
  case h_8 =>
    rename_i hquote hslash _ _ _ _ _
    split
    · rename_i hcontrol
      simp only [List.cons_append, List.nil_append, readString?, hex4?_control _ hcontrol]
      cases readString? rest <;> rfl
    · rename_i hcontrol
      have hslash : (c == '\\') = false := by simpa using hslash
      have hcontrol : decide (c.toNat < 0x20) = false := by simpa using hcontrol
      rw [List.singleton_append, readString?]
      · simp only [hslash, hcontrol]
        cases readString? rest <;> rfl
      all_goals simp_all
  all_goals
    simp [readString?, escaped?]
    cases readString? rest <;> rfl

/-- A text in quotes is read behind the first of them. -/
theorem readString?_quoted (cs rest : List Char) :
    readString? (cs.flatMap escapeChar ++ '"' :: rest) = some (cs.map Char.toNat, rest) := by
  induction cs with
  | nil => rfl
  | cons c cs ih => rw [List.flatMap_cons, List.append_assoc, readString?_escapeChar, ih]; rfl

/-- A text in quotes begins with a quote. -/
theorem toList_quote_append (s : String) (rest : List Char) :
    (quote s).toList ++ rest = '"' :: (s.toList.flatMap escapeChar ++ '"' :: rest) := by
  rw [quote, String.toList_ofList, List.cons_append, List.cons_append, List.append_assoc,
    List.singleton_append]

/-! ## Objects of texts -/

/-- The structure of a text that may be absent. -/
def writtenText : Option String → Written
  | none => .null
  | some s => .string (points s)

/-- A text, or null, is read as what it is. -/
theorem readValue?_ofText? (fuel : Nat) (text : Option String) (rest : List Char) :
    readValue? (fuel + 1) ((compact (.ofText? text)).toList ++ rest) =
      some (writtenText text, rest) := by
  cases text with
  | none => rfl
  | some s =>
    have hvalue (cs : List Char) : readValue? (fuel + 1) ('"' :: cs) =
        (readString? cs).map fun p => (.string p.1, p.2) := rfl
    rw [ofText?, compact, toList_quote_append, hvalue, readString?_quoted]
    rfl

/-- Members whose values are texts that may be absent. -/
def textMembers (l : List (String × Option String)) : List (String × Json) :=
  l.map fun p => (p.1, .ofText? p.2)

/-- The structure of such members. -/
def writtenMembers (l : List (String × Option String)) : List (List Nat × Written) :=
  l.map fun p => (points p.1, writtenText p.2)

/-- A character that is no blank is not skipped. -/
theorem skipSpace_cons {c : Char} (h : isSpace c = false) : skipSpace (c :: rest) = c :: rest :=
  List.dropWhile_cons_of_neg (Bool.eq_false_iff.1 h)

/-- A member is a text in quotes, a colon and a value. -/
theorem toList_member_append (name : String) (text : Option String) (cs : List Char) :
    (quote name ++ ":" ++ compact (.ofText? text)).toList ++ cs =
      '"' :: (name.toList.flatMap escapeChar ++ '"' :: ':' ::
        ((compact (.ofText? text)).toList ++ cs)) := by
  rw [String.toList_append, String.toList_append, List.append_assoc, List.append_assoc,
    toList_quote_append]
  rfl

/-- A member is read up to what stands behind its value. -/
theorem readMembers?_member (fuel : Nat) (name : String) (text : Option String) (cs : List Char) :
    readMembers? (fuel + 1 + 1) ((quote name ++ ":" ++ compact (.ofText? text)).toList ++ cs) =
      match skipSpace cs with
      | '\x7d' :: rest => some ([(points name, writtenText text)], rest)
      | ',' :: rest =>
        (readMembers? (fuel + 1) rest).map fun p => ((points name, writtenText text) :: p.1, p.2)
      | _ => none := by
  rw [toList_member_append, readMembers?, skipSpace_cons rfl]
  simp only [readString?_quoted, skipSpace_cons (show isSpace ':' = false from rfl),
    readValue?_ofText?]
  rfl

/-- The members are written one by one. -/
theorem compactMembers_textMembers (l : List (String × Option String)) :
    compactMembers (textMembers l) = l.map fun p => quote p.1 ++ ":" ++ compact (.ofText? p.2) := by
  induction l with
  | nil => rfl
  | cons p l ih => rw [textMembers, List.map_cons, compactMembers, List.map_cons, ← ih, textMembers]

/-- The members of an object are read up to its closing brace. -/
theorem readMembers?_compactMembers {l : List (String × Option String)} (hl : l ≠ []) {fuel : Nat}
    (hfuel : l.length ≤ fuel) (rest : List Char) :
    readMembers? (fuel + 1) ((",".intercalate (compactMembers (textMembers l))).toList ++
      '\x7d' :: rest) =
      some (writtenMembers l, rest) := by
  rw [compactMembers_textMembers]
  induction l generalizing fuel with
  | nil => exact absurd rfl hl
  | cons p l ih =>
    cases fuel with
    | zero => cases hfuel
    | succ fuel =>
      cases l with
      | nil =>
        rw [List.map_singleton, String.intercalate_singleton, readMembers?_member,
          skipSpace_cons rfl]
        rfl
      | cons q l =>
        have hrest := ih (List.cons_ne_nil q l) (Nat.le_of_succ_le_succ hfuel)
        rw [List.map_cons] at hrest
        rw [List.map_cons, List.map_cons, String.intercalate_cons_cons, String.toList_append,
          String.toList_append, List.append_assoc, List.append_assoc, readMembers?_member,
          show ",".toList = [','] from rfl, List.singleton_append, skipSpace_cons rfl]
        simp only [hrest, Option.map_some]
        rfl

/-- The members of an object begin with a quote and have at least as many characters as they are. -/
theorem exists_compactMembers {l : List (String × Option String)} (hl : l ≠ []) : ∃ tail,
    (",".intercalate (compactMembers (textMembers l))).toList = '"' :: tail ∧
    l.length ≤ tail.length + 1 := by
  rw [compactMembers_textMembers]
  have hmember (p : String × Option String) :
      ∃ tail, (quote p.1 ++ ":" ++ compact (.ofText? p.2)).toList = '"' :: tail := by
    have htext := toList_member_append p.1 p.2 []
    rw [List.append_nil] at htext
    exact ⟨_, htext⟩
  induction l with
  | nil => exact absurd rfl hl
  | cons p l ih =>
    obtain ⟨tail, htail⟩ := hmember p
    cases l with
    | nil =>
      refine ⟨tail, ?_, Nat.le_add_left 1 _⟩
      rw [List.map_singleton, String.intercalate_singleton, htail]
    | cons q l =>
      obtain ⟨more, hmore, hlength⟩ := ih (List.cons_ne_nil q l)
      rw [List.map_cons] at hmore
      refine ⟨tail ++ ',' :: '"' :: more, ?_, ?_⟩
      · rw [List.map_cons, List.map_cons, String.intercalate_cons_cons, String.toList_append,
          String.toList_append, hmore, htail]
        simp
      · simp only [List.length_cons, List.length_append] at hlength ⊢
        omega

/-- An object with a member or more is read as what it is. -/
theorem Written.read?_compact {l : List (String × Option String)} (hl : l ≠ []) :
    Written.read? (compact (.object (textMembers l))) = some (.object (writtenMembers l)) := by
  obtain ⟨tail, htail, hlength⟩ := exists_compactMembers hl
  have htext : (compact (.object (textMembers l))).toList =
      '\x7b' :: '"' :: (tail ++ ['\x7d']) := by
    rw [compact, String.toList_append, String.toList_append, htail]
    rfl
  have hmembers : readMembers? (tail.length + 3 + 1) ('"' :: (tail ++ ['\x7d'])) =
      some (writtenMembers l, []) := by
    have hread := readMembers?_compactMembers hl (show l.length ≤ tail.length + 3 by omega) []
    rwa [htail] at hread
  have hvalue (fuel : Nat) (cs : List Char) : readValue? (fuel + 1) ('\x7b' :: '"' :: cs) =
      (readMembers? fuel ('"' :: cs)).map fun p => (.object p.1, p.2) := rfl
  rw [Written.read?, htext]
  simp only [List.length_cons, List.length_append, List.length_nil, Nat.zero_add]
  rw [hvalue, hmembers]
  rfl

end Scaffold.Json
