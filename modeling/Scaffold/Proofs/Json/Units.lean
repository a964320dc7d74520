import Scaffold.Json.Written
import Scaffold.Proofs.TypeScript.Literal

/-!
# Characters and code units

A character denotes one number, or two as a surrogate pair, and either way it is read back: the
numbers of characters are no halves of surrogate pairs, and a pair is no character. The main
statement is `textOfUnits?_units`.
-/

namespace Scaffold.Json

open TypeScript (codeUnits units unitsOfPoint)

variable {us : List Nat}

/-- A number that is no half of a surrogate pair denotes a character. -/
theorem charsOfUnits?_cons {u : Nat} (h : ¬ (0xD800 ≤ u ∧ u < 0xE000)) :
    charsOfUnits? (u :: us) = (charsOfUnits? us).map (Char.ofNat u :: ·) := by
  cases us with
  | nil => simp only [charsOfUnits?, if_neg h, Option.map_some]
  | cons l us => rw [charsOfUnits?, if_neg (by omega), if_neg (by omega)]

/-- The number of a character is no half of a surrogate pair. -/
theorem toNat_not_surrogate (c : Char) : ¬ (0xD800 ≤ c.toNat ∧ c.toNat < 0xE000) := by
  have hvalid : c.toNat < 0xD800 ∨ 0xDFFF < c.toNat ∧ c.toNat < 0x110000 := c.valid
  omega

/-- The number of a character denotes the character. -/
theorem charsOfUnits?_toNat (c : Char) :
    charsOfUnits? (c.toNat :: us) = (charsOfUnits? us).map (c :: ·) := by
  rw [charsOfUnits?_cons (toNat_not_surrogate c), Char.ofNat_toNat]

/-- So do the code units of a character. -/
theorem charsOfUnits?_codeUnits (c : Char) :
    charsOfUnits? (codeUnits c ++ us) = (charsOfUnits? us).map (c :: ·) := by
  rw [codeUnits, unitsOfPoint]
  by_cases h : c.toNat < 0x10000
  · rw [if_pos h]
    exact charsOfUnits?_toNat c
  · have hbound : c.toNat < 0x110000 := by
      have hvalid : c.toNat < 0xD800 ∨ 0xDFFF < c.toNat ∧ c.toNat < 0x110000 := c.valid
      omega
    have hpoint : 0x10000 + (0xD800 + (c.toNat - 0x10000) / 0x400 - 0xD800) * 0x400 +
        (0xDC00 + (c.toNat - 0x10000) % 0x400 - 0xDC00) = c.toNat := by omega
    rw [if_neg h, List.cons_append, List.singleton_append, charsOfUnits?, if_pos (by omega),
      if_pos (by omega), hpoint, Char.ofNat_toNat]

/-- The code units of a text denote the text. -/
theorem charsOfUnits?_units (cs : List Char) : charsOfUnits? (units cs) = some cs := by
  induction cs with
  | nil => rfl
  | cons c cs ih => rw [TypeScript.units_cons, charsOfUnits?_codeUnits, ih, Option.map_some]

/-- The code units of a text denote the text. -/
theorem textOfUnits?_units (s : String) : textOfUnits? (units s.toList) = some s := by
  rw [textOfUnits?, charsOfUnits?_units, Option.map_some, String.ofList_toList]

end Scaffold.Json
