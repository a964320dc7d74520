import Scaffold.Json.Basic
import Scaffold.Text.Hex

/-!
# JSON texts

`Written` is the structure of a JSON text before its leaves are given a value: strings are the
numbers that their characters and escapes denote, so that half of a surrogate pair can stand
alone, and numbers are their digits. `Written.read?` accepts exactly the grammar of JSON;
`Written.toJson?` evaluates the leaves and fails where one has no value.
-/

namespace Scaffold.Json

/-- The digits of a number in a JSON text. -/
structure NumberText where
  negative : Bool
  whole : List Char
  fraction : Option (List Char)
  /-- The exponent: whether it is negative, and its digits. -/
  exponent : Option (Bool × List Char)
  deriving DecidableEq, Repr

/-- The structure of a JSON text. -/
inductive Written where
  | null
  | bool (b : Bool)
  | number (digits : NumberText)
  | string (units : List Nat)
  | array (items : List Written)
  | object (members : List (List Nat × Written))

/-- The blanks between the tokens of a JSON text. -/
def isSpace (c : Char) : Bool := c == ' ' || c == '\n' || c == '\t' || c == '\r'

/-- A text without the blanks in front. -/
def skipSpace (cs : List Char) : List Char := cs.dropWhile isSpace

/-- The number that four hexadecimal digits denote. -/
def hex4? (a b c d : Char) : Option Nat := Text.ofHex? [a, b, c, d]

/-- The character that stands for itself or another one behind a backslash. -/
def escaped? : Char → Option Char
  | '"' => some '"'
  | '\\' => some '\\'
  | '/' => some '/'
  | 'b' => some '\x08'
  | 'f' => some '\x0c'
  | 'n' => some '\n'
  | 'r' => some '\r'
  | 't' => some '\t'
  | _ => none

/-- Reads a string behind its opening quote; gives what its characters denote and what follows
the closing quote. -/
def readString? : List Char → Option (List Nat × List Char)
  | [] => none
  | '"' :: rest => some ([], rest)
  | '\\' :: 'u' :: a :: b :: c :: d :: rest =>
    match hex4? a b c d, readString? rest with
    | some u, some (us, rest') => some (u :: us, rest')
    | _, _ => none
  | '\\' :: c :: rest =>
    match escaped? c, readString? rest with
    | some e, some (us, rest') => some (e.toNat :: us, rest')
    | _, _ => none
  | c :: rest =>
    if c == '\\' || c.toNat < 0x20 then none
    else
      match readString? rest with
      | some (us, rest') => some (c.toNat :: us, rest')
      | none => none

/-- The digits in front of a text, and what follows them. -/
def spanDigits (cs : List Char) : List Char × List Char :=
  (cs.takeWhile Char.isDigit, cs.dropWhile Char.isDigit)

/-- Reads the digits behind a decimal point, if one is there. -/
def readFraction? : List Char → Option (Option (List Char) × List Char)
  | '.' :: rest =>
    let (ds, rest') := spanDigits rest
    if ds.isEmpty then none else some (some ds, rest')
  | cs => some (none, cs)

/-- Reads an exponent, if one is there. -/
def readExponent? : List Char → Option (Option (Bool × List Char) × List Char)
  | c :: rest =>
    if c == 'e' || c == 'E' then
      let (negative, rest) :=
        match rest with
        | '-' :: r => (true, r)
        | '+' :: r => (false, r)
        | r => (false, r)
      let (ds, rest') := spanDigits rest
      if ds.isEmpty then none else some (some (negative, ds), rest')
    else some (none, c :: rest)
  | [] => some (none, [])

/-- Reads a number. A leading zero has no digit behind it. -/
def readNumber? (cs : List Char) : Option (NumberText × List Char) := do
  let (negative, cs) := match cs with
    | '-' :: r => (true, r)
    | r => (false, r)
  let (whole, cs) := spanDigits cs
  if whole.isEmpty || (whole.length > 1 && whole.head? == some '0') then none
  else
    let (fraction, cs) ← readFraction? cs
    let (exponent, cs) ← readExponent? cs
    return (⟨negative, whole, fraction, exponent⟩, cs)

mutual

/-- Reads a value; `fuel` bounds the number of containers and members on the way. -/
def readValue? : Nat → List Char → Option (Written × List Char)
  | 0, _ => none
  | fuel + 1, cs =>
    match skipSpace cs with
    | 'n' :: 'u' :: 'l' :: 'l' :: rest => some (.null, rest)
    | 't' :: 'r' :: 'u' :: 'e' :: rest => some (.bool true, rest)
    | 'f' :: 'a' :: 'l' :: 's' :: 'e' :: rest => some (.bool false, rest)
    | '"' :: rest => (readString? rest).map fun (us, rest) => (.string us, rest)
    | '[' :: rest =>
      match skipSpace rest with
      | ']' :: rest => some (.array [], rest)
      | rest => (readItems? fuel rest).map fun (items, rest) => (.array items, rest)
    | '\x7b' :: rest =>
      match skipSpace rest with
      | '\x7d' :: rest => some (.object [], rest)
      | rest => (readMembers? fuel rest).map fun (ms, rest) => (.object ms, rest)
    | rest => (readNumber? rest).map fun (n, rest) => (.number n, rest)

/-- Reads the items of an array up to its closing bracket. -/
def readItems? : Nat → List Char → Option (List Written × List Char)
  | 0, _ => none
  | fuel + 1, cs =>
    match readValue? fuel cs with
    | none => none
    | some (item, rest) =>
      match skipSpace rest with
      | ']' :: rest => some ([item], rest)
      | ',' :: rest => (readItems? fuel rest).map fun (items, rest) => (item :: items, rest)
      | _ => none

/-- Reads the members of an object up to its closing brace. -/
def readMembers? : Nat → List Char → Option (List (List Nat × Written) × List Char)
  | 0, _ => none
  | fuel + 1, cs =>
    match skipSpace cs with
    | '"' :: rest =>
      match readString? rest with
      | none => none
      | some (name, rest) =>
        match skipSpace rest with
        | ':' :: rest =>
          match readValue? fuel rest with
          | none => none
          | some (value, rest) =>
            match skipSpace rest with
            | '\x7d' :: rest => some ([(name, value)], rest)
            | ',' :: rest =>
              (readMembers? fuel rest).map fun (ms, rest) => ((name, value) :: ms, rest)
            | _ => none
        | _ => none
    | _ => none

end

/-- Reads a whole JSON text. -/
def Written.read? (s : String) : Option Written :=
  let cs := s.toList
  match readValue? (cs.length + 2) cs with
  | some (w, rest) => if (skipSpace rest).isEmpty then some w else none
  | none => none

/-- The characters that the units of a string denote; nothing if half of a surrogate pair stands
alone. -/
def charsOfUnits? : List Nat → Option (List Char)
  | [] => some []
  | h :: l :: rest =>
    if 0xD800 ≤ h ∧ h < 0xDC00 then
      if 0xDC00 ≤ l ∧ l < 0xE000 then
        (charsOfUnits? rest).map
          (Char.ofNat (0x10000 + (h - 0xD800) * 0x400 + (l - 0xDC00)) :: ·)
      else none
    else if 0xDC00 ≤ h ∧ h < 0xE000 then none
    else (charsOfUnits? (l :: rest)).map (Char.ofNat h :: ·)
  | [u] => if 0xD800 ≤ u ∧ u < 0xE000 then none else some [Char.ofNat u]

/-- The text that the units of a string denote. -/
def textOfUnits? (units : List Nat) : Option String := (charsOfUnits? units).map String.ofList

/-- The number that a list of decimal digits denotes. -/
def natOfDigits (ds : List Char) : Nat := ds.foldl (fun n c => 10 * n + (c.toNat - 0x30)) 0

/-- The least number above all signed integers of 64 bits. -/
def signedLimit : Nat := 0x8000000000000000

/-- The value of a number: an integer if it has neither fraction nor exponent and fits 64 bits
(minus zero is none), otherwise a double; nothing beyond the greatest double. -/
def NumberText.toNumber? (n : NumberText) : Option JsonNumber :=
  let whole := natOfDigits n.whole
  let fits := if n.negative then 0 < whole ∧ whole ≤ signedLimit else whole < 2 * signedLimit
  if n.fraction = none ∧ n.exponent = none ∧ fits then
    some (.integer (if n.negative then -(whole : Int) else whole))
  else
    let fraction := n.fraction.getD []
    let exponent : Int := match n.exponent with
      | some (true, ds) => -(natOfDigits ds : Int)
      | some (false, ds) => natOfDigits ds
      | none => 0
    (Binary64.ofDecimal? n.negative (natOfDigits (n.whole ++ fraction))
      (exponent - fraction.length)).map .float

mutual

/-- The value of a JSON text; nothing if a string or a number in it has none. -/
def Written.toJson? : Written → Option Json
  | .null => some .null
  | .bool b => some (.bool b)
  | .number n => n.toNumber?.map .number
  | .string us => (textOfUnits? us).map .string
  | .array items => (itemsToJson? items).map .array
  | .object ms => (membersToJson? ms).map Json.ofMembers

/-- The values of the items of an array. -/
def itemsToJson? : List Written → Option (List Json)
  | [] => some []
  | w :: rest =>
    match w.toJson?, itemsToJson? rest with
    | some j, some js => some (j :: js)
    | _, _ => none

/-- The values of the members of an object. -/
def membersToJson? : List (List Nat × Written) → Option (List (String × Json))
  | [] => some []
  | (k, w) :: rest =>
    match textOfUnits? k, w.toJson?, membersToJson? rest with
    | some k, some j, some js => some ((k, j) :: js)
    | _, _, _ => none

end

/-- Reads a JSON text as a value. -/
def read? (s : String) : Option Json := (Written.read? s).bind Written.toJson?

end Scaffold.Json
