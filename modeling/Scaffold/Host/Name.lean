import Scaffold.Host.Direction
import Scaffold.Host.Punycode
import Scaffold.Host.Table
import Scaffold.Text.Hidden

/-!
# Host names

`Name.ofText?` writes the name of a host in ASCII: characters are replaced by those that stand for
them in host names, and every label that still has others is encoded. It fails for a name with a
character that no host name may have.
-/

namespace Scaffold.Host.Name

/-- What a character is written by in a host name. -/
def replaceChar (c : Char) : List Char :=
  if c.toNat < 0x80 then [c.toLower]
  else
    match replacements.findSome? fun r => r.replace? c.toNat with
    | some codes => codes.map Char.ofNat
    | none => [c]

/-- The character that a Hangul syllable or letter makes with a letter behind it. -/
def mergeHangul? (a b : Nat) : Option Nat :=
  if 0x1100 ≤ a ∧ a < 0x1113 ∧ 0x1161 ≤ b ∧ b < 0x1176 then
    some (0xAC00 + ((a - 0x1100) * 21 + (b - 0x1161)) * 28)
  else if 0xAC00 ≤ a ∧ a < 0xD7A4 ∧ (a - 0xAC00) % 28 = 0 ∧ 0x11A8 ≤ b ∧ b < 0x11C3 then
    some (a + (b - 0x11A7))
  else none

/-- The character that a character and a mark behind it make. -/
def merge? (a b : Char) : Option Char :=
  match mergeHangul? a.toNat b.toNat with
  | some n => some (Char.ofNat n)
  | none =>
    (merges.find? fun (mark, base, _) => mark == b.toNat && base == a.toNat).map
      fun (_, _, both) => Char.ofNat both

/-- Merges the characters of a text with the marks behind them, where `last` holds in reverse what
is done. -/
def mergeFrom : (done : List Char) → List Char → List Char
  | done, [] => done.reverse
  | [], c :: rest => mergeFrom [c] rest
  | a :: done, c :: rest =>
    match (if c.toNat < 0x80 then none else merge? a c) with
    | some b => mergeFrom (b :: done) rest
    | none => mergeFrom (c :: a :: done) rest

/-- A name with every character replaced and merged. -/
def normalize (cs : List Char) : List Char := mergeFrom [] (cs.flatMap replaceChar)

/-- The ASCII characters that no host name has. -/
def isForbidden (c : Char) : Bool :=
  c.toNat ≤ 0x20 || c.toNat == 0x7F || "%#/:<>?@[\\]^|".toList.contains c

/-- The characters beyond ASCII that show but stand in no host name; among them are those that
contain a dot. -/
def excluded : Text.CodeRanges :=
  .ofText <| " ".intercalate [
    "115F-1160 17B4-17B5 1806 2024-2026 2488-249B 2FF0-2FFB 3002 3164 33C2 33C7 33D8 FE19 FE30",
    "FE52 FFA0 FFFC-FFFD 1D173-1D17A 1F100"]

/-- Whether a character may stand in a name that is normalized. -/
def isValid (c : Char) : Bool :=
  if c.toNat < 0x80 then !(isForbidden c || c.isUpper)
  else !(Text.unseen.contains c.toNat || excluded.contains c.toNat)

/-- Whether a label has a character beyond ASCII. -/
def isWide (cs : List Char) : Bool := cs.any fun c => 0x80 ≤ c.toNat

/-- Whether a label beyond ASCII is well-formed. -/
def isValidLabel (cs : List Char) : Bool :=
  normalize cs == cs && cs.all isValid && !cs.head?.any fun c => Text.marks.contains c.toNat

/-- A label of a normalized name as it is shown, and in ASCII. -/
def label? (cs : List Char) : Option (List Char × List Char) :=
  if ['x', 'n', '-', '-'].isPrefixOf cs then
    match Punycode.decode (cs.drop 4) with
    | none => none
    | some codes =>
      let decoded := codes.map Char.ofNat
      if codes.all Nat.isValidChar && isWide decoded && isValidLabel decoded && !isWide cs &&
          cs.all isValid then some (decoded, cs)
      else none
  else if isWide cs then
    if isValidLabel cs then
      some (cs, "xn--".toList ++ Punycode.encode (cs.map Char.toNat))
    else none
  else if cs.all isValid then some (cs, cs)
  else none

/-- The parts of a name between its dots. -/
def labels (cs : List Char) : List (List Char) := cs.splitOn '.'

/-- The ASCII form of a name. -/
def ofText? (cs : List Char) : Option (List Char) := do
  let ls ← (labels (normalize cs)).mapM label?
  if Direction.areUniform (ls.map Prod.fst) then return ['.'].intercalate (ls.map Prod.snd)
  else none

end Scaffold.Host.Name
