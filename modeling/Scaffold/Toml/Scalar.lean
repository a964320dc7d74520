import Scaffold.Number.Binary64
import Scaffold.Toml.Text

/-!
# TOML numbers, dates and truth values

Each reader takes a scalar off the front of a text and returns what follows. Only the form is of
interest: no setting is a number, a date or a truth value, but a text with a malformed one is
refused as a whole. A number may be out of range and a date may not exist; both count as malformed.
-/

namespace Scaffold.Toml

/-- The character in front, if it belongs to a class, and what follows it. -/
def readIf? (p : Char → Bool) : List Char → Option (Char × List Char)
  | c :: rest => if p c then some (c, rest) else none
  | [] => none

/-- A text without a word in front. -/
def dropWord? : (word : List Char) → List Char → Option (List Char)
  | [], cs => some cs
  | w :: word, c :: cs => if w == c then dropWord? word cs else none
  | _ :: _, [] => none

/-- The sign in front of a number, true for minus, and what follows it. -/
def readSign : List Char → Bool × List Char
  | '-' :: rest => (true, rest)
  | '+' :: rest => (false, rest)
  | cs => (false, cs)

/-- Reads digits behind the first one; an underscore stands between two of them. -/
def readMoreDigits? (p : Char → Bool) : List Char → Option (List Char × List Char)
  | '_' :: c :: rest =>
    if p c then (readMoreDigits? p rest).map fun (digits, rest) => (c :: digits, rest) else none
  | '_' :: [] => none
  | c :: rest =>
    if p c then (readMoreDigits? p rest).map fun (digits, rest) => (c :: digits, rest)
    else some ([], c :: rest)
  | [] => some ([], [])

/-- Reads one or more digits. -/
def readDigits? (p : Char → Bool) (cs : List Char) : Option (List Char × List Char) := do
  let (c, rest) ← readIf? p cs
  let (digits, rest) ← readMoreDigits? p rest
  return (c :: digits, rest)

/-- Reads the digits of a decimal number; a zero in front stands alone. -/
def readDecimal? : List Char → Option (List Char × List Char)
  | '0' :: rest => some (['0'], rest)
  | cs => readDigits? Char.isDigit cs

/-- The number that digits denote in a base. -/
def valueOf (base : Nat) (digits : List Char) : Nat :=
  digits.foldl (fun n c => base * n + (Text.hexValue? c).getD 0) 0

/-- The least number above all integers of 64 bits, with two to the power of 63. -/
def integerLimit : Nat := 0x8000000000000000

/-- Reads an integer that is written to a base which its spelling begins with. -/
def readBased? (base : Nat) (p : Char → Bool) (cs : List Char) : Option (List Char) := do
  let (digits, rest) ← readDigits? p cs
  if valueOf base digits < integerLimit then some rest else none

/-- Reads an exponent behind its letter: whether it is negative, and its digits. -/
def readExponent? (cs : List Char) : Option (Int × List Char) := do
  let (negative, rest) := readSign cs
  let (digits, rest) ← readDigits? Char.isDigit rest
  let n := valueOf 10 digits
  return (if negative then -n else n, rest)

/-- Whether a decimal number is too large for a finite floating-point number. -/
def isTooLarge (digits : Nat) (exponent : Int) : Bool :=
  (Binary64.ofDecimal? false digits exponent).isNone

/-- Reads a fraction behind its point. -/
def readFraction? (cs : List Char) : Option (List Char × List Char) := readDigits? Char.isDigit cs

/-- Reads a decimal integer or a floating-point number. An integer has to be in range, and a
positive floating-point number has to be finite. -/
def readNumber? (cs : List Char) : Option (List Char) := do
  let (negative, rest) := readSign cs
  let (whole, rest) ← readDecimal? rest
  match rest with
  | '.' :: rest =>
    let (fraction, rest) ← readFraction? rest
    let (exponent, rest) ←
      match rest with
      | 'e' :: rest | 'E' :: rest => readExponent? rest
      | _ => some (0, rest)
    let digits := valueOf 10 (whole ++ fraction)
    if !negative && isTooLarge digits (exponent - fraction.length) then none else some rest
  | 'e' :: rest | 'E' :: rest =>
    let (exponent, rest) ← readExponent? rest
    if !negative && isTooLarge (valueOf 10 whole) exponent then none else some rest
  | _ =>
    let n := valueOf 10 whole
    if n < integerLimit || (negative && n == integerLimit) then some rest else none

/-- Reads one of the numbers that have names. -/
def readNamed? (cs : List Char) : Option (List Char) :=
  let rest := (readSign cs).2
  (dropWord? "inf".toList rest).or (dropWord? "nan".toList rest)

/-! ## Dates and times -/

/-- Reads as many digits as `count`, behind those that make `n`. -/
def readDigitsFrom? (n : Nat) : (count : Nat) → List Char → Option (Nat × List Char)
  | 0, cs => some (n, cs)
  | count + 1, cs => do
    let (c, rest) ← readIf? Char.isDigit cs
    readDigitsFrom? (10 * n + (Text.hexValue? c).getD 0) count rest

/-- Reads a number of as many digits as `count`. -/
def readCount? (count : Nat) (cs : List Char) : Option (Nat × List Char) :=
  readDigitsFrom? 0 count cs

/-- Reads two digits of a number from `low` to `high`. -/
def readPart? (low high : Nat) (cs : List Char) : Option (Nat × List Char) := do
  let (n, rest) ← readCount? 2 cs
  if low ≤ n && n ≤ high then some (n, rest) else none

/-- The number of days in a month. -/
def daysIn (year month : Nat) : Nat :=
  if month == 2 then
    if year % 4 == 0 && (year % 100 != 0 || year % 400 == 0) then 29 else 28
  else if month == 4 || month == 6 || month == 9 || month == 11 then 30
  else 31

/-- Reads the month and the day of a date behind the year and its hyphen. -/
def readMonthDay? (year : Nat) (cs : List Char) : Option (List Char) := do
  let (month, rest) ← readPart? 1 12 cs
  let rest ← dropWord? ['-'] rest
  let (_, rest) ← readPart? 1 (daysIn year month) rest
  return rest

/-- Reads the minutes and seconds of a time behind the hours and their colon. -/
def readMinutes? (cs : List Char) : Option (List Char) := do
  let (_, rest) ← readPart? 0 59 cs
  let rest ← dropWord? [':'] rest
  let (_, rest) ← readPart? 0 60 rest
  match rest with
  | '.' :: c :: more => return if c.isDigit then more.dropWhile Char.isDigit else rest
  | _ => return rest

/-- The text behind the hours of a time and their colon, if it begins with them. -/
def dropHours? (cs : List Char) : Option (List Char) := do
  let (_, rest) ← readPart? 0 23 cs
  dropWord? [':'] rest

/-- Reads the difference to universal time that may follow a time. -/
def readOffset? : List Char → Option (List Char)
  | 'Z' :: rest | 'z' :: rest => some rest
  | '+' :: rest | '-' :: rest => do
    let rest ← dropHours? rest
    let (_, rest) ← readPart? 0 59 rest
    return rest
  | cs => some cs

/-- Reads the time that may follow a date. -/
def readTimeOfDay? (cs : List Char) : Option (List Char) :=
  match cs with
  | c :: rest =>
    if c == 'T' || c == 't' || c == ' ' then
      match dropHours? rest with
      | some rest => (readMinutes? rest).bind readOffset?
      | none => some cs
    else some cs
  | [] => some cs

/-- Reads a number, a date or a time that begins with a sign or a digit. What begins like a date or
a time is nothing else. -/
def readNumeric? (cs : List Char) : Option (List Char) :=
  match readCount? 4 cs with
  | some (year, '-' :: rest) => (readMonthDay? year rest).bind readTimeOfDay?
  | _ =>
    match dropHours? cs with
    | some rest => readMinutes? rest
    | none =>
      match cs with
      | '0' :: 'x' :: rest => readBased? 16 Text.isHexDigit rest
      | '0' :: 'o' :: rest => readBased? 8 (fun c => '0' ≤ c && c ≤ '7') rest
      | '0' :: 'b' :: rest => readBased? 2 (fun c => c == '0' || c == '1') rest
      | _ => (readNumber? cs).or (readNamed? cs)

/-- Reads a scalar that is no string. -/
def readScalar? : List Char → Option (List Char)
  | 't' :: rest => dropWord? "rue".toList rest
  | 'f' :: rest => dropWord? "alse".toList rest
  | 'i' :: rest => dropWord? "nf".toList rest
  | 'n' :: rest => dropWord? "an".toList rest
  | c :: rest => if c == '+' || c == '-' || c.isDigit then readNumeric? (c :: rest) else none
  | [] => none

end Scaffold.Toml
