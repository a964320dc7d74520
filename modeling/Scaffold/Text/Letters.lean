/-!
# Letter case

Full Unicode case mapping, as far as its results are ASCII. Names are compared with ASCII texts
only, so a character whose mapping leaves ASCII may stand for itself: `upper s = t` holds for an
ASCII text `t` exactly when the full upper-casing of `s` is `t`, and likewise for `lower`.
-/

namespace Scaffold.Text

/-- The upper case of a character, if that consists of ASCII letters; otherwise the character. -/
def upperChar (c : Char) : List Char :=
  match c.toNat with
  | 0xDF => ['S', 'S']
  | 0x131 => ['I']
  | 0x17F => ['S']
  | 0xFB00 => ['F', 'F']
  | 0xFB01 => ['F', 'I']
  | 0xFB02 => ['F', 'L']
  | 0xFB03 => ['F', 'F', 'I']
  | 0xFB04 => ['F', 'F', 'L']
  | 0xFB05 => ['S', 'T']
  | 0xFB06 => ['S', 'T']
  | _ => [c.toUpper]

/-- The lower case of a character, if that is an ASCII letter; otherwise the character. The
Kelvin sign is the only character outside ASCII with an ASCII lower case. -/
def lowerChar (c : Char) : Char :=
  if c.toNat = 0x212A then 'k' else c.toLower

/-- A text with every character in upper case. -/
def upper (s : String) : String := String.ofList (s.toList.flatMap upperChar)

/-- A text with every character in lower case. -/
def lower (s : String) : String := String.ofList (s.toList.map lowerChar)

/-- A text with its ASCII letters in lower case. -/
def lowerAscii (s : String) : String := String.ofList (s.toList.map Char.toLower)

/-- Equality up to the case of ASCII letters. -/
def sameLetters (s t : String) : Bool := lowerAscii s == lowerAscii t

end Scaffold.Text
