/-!
# Hexadecimal digits

The digits of numbers to base sixteen, in either letter case, and sets of code points that are
listed as ranges of such numbers.
-/

namespace Scaffold.Text

/-- The value of a hexadecimal digit. -/
def hexValue? (c : Char) : Option Nat :=
  let n := c.toNat
  if 0x30 ≤ n ∧ n ≤ 0x39 then some (n - 0x30)
  else if 0x61 ≤ n ∧ n ≤ 0x66 then some (n - 0x61 + 10)
  else if 0x41 ≤ n ∧ n ≤ 0x46 then some (n - 0x41 + 10)
  else none

/-- Whether a character is a hexadecimal digit. -/
def isHexDigit (c : Char) : Bool := (hexValue? c).isSome

/-- The number that hexadecimal digits denote; nothing if there is another character. -/
def ofHex? (cs : List Char) : Option Nat :=
  cs.foldlM (fun n c => (hexValue? c).map fun v => 16 * n + v) 0

/-- The lower-case digit of a number below sixteen. -/
def hexDigit (n : Nat) : Char :=
  if n < 10 then Char.ofNat (n + 0x30) else Char.ofNat (n - 10 + 0x61)

/-- The upper-case digit of a number below sixteen. -/
def upperHexDigit (n : Nat) : Char :=
  if n < 10 then Char.ofNat (n + 0x30) else Char.ofNat (n - 10 + 0x41)

/-- The lower-case digits of a number, without leading zeros. -/
def toHex (n : Nat) : List Char := Nat.toDigits 16 n

/-- The last `width` upper-case digits of a number. -/
def upperHex : (width : Nat) → Nat → List Char
  | 0, _ => []
  | width + 1, n => upperHex width (n / 16) ++ [upperHexDigit (n % 16)]

/-- A set of code points, as ranges that include both ends. -/
structure CodeRanges where
  ranges : Array (Nat × Nat)

namespace CodeRanges

/-- Reads a range: one number, or two with a hyphen between them. -/
def readRange? (s : String) : Option (Nat × Nat) :=
  match s.splitOn "-" with
  | [a] => do let n ← ofHex? a.toList; return (n, n)
  | [a, b] => do return (← ofHex? a.toList, ← ofHex? b.toList)
  | _ => none

/-- The set that is written as ranges with single blanks between them. -/
def ofText (s : String) : CodeRanges := ⟨((s.splitOn " ").filterMap readRange?).toArray⟩

/-- Whether a code point is in the set. -/
def contains (r : CodeRanges) (n : Nat) : Bool := r.ranges.any fun (a, b) => a ≤ n && n ≤ b

end CodeRanges

end Scaffold.Text
