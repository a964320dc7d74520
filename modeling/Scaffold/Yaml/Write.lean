import Scaffold.Number.Binary64
import Scaffold.Text.Hex
import Scaffold.Yaml.Decode

/-!
# Writing YAML

A mapping of names to texts or nothing, one entry a line. A text is written plain if it is read
back as that text; in single quotes if a plain scalar would be taken for something else; as a
literal block if it has a line feed; and in double quotes with escapes where the others cannot
hold it.
-/

namespace Scaffold.Yaml

/-! ## Words that stand for something else -/

/-- A number without its sign: whether that is a minus, and what follows. -/
def splitSign : List Char → Option Bool × List Char
  | '-' :: rest => (some true, rest)
  | '+' :: rest => (some false, rest)
  | cs => (none, cs)

/-- Whether a text has only digits to a base, and at least one. -/
def allDigits (base : Nat) (cs : List Char) : Bool :=
  !cs.isEmpty && cs.all fun c => (Text.hexValue? c).any (· < base)

/-- The value of digits to a base. -/
def digitsValue (base : Nat) (cs : List Char) : Nat :=
  cs.foldl (fun n c => base * n + (Text.hexValue? c).getD 0) 0

/-- The least number above all signed integers of 128 bits. -/
def signedLimit : Nat := 0x80000000000000000000000000000000

/-- Whether a text is an integer of 128 bits with a mark of its base. -/
def isMarkedInteger (cs : List Char) : Bool :=
  let (sign, digits) := splitSign cs
  let fits (base : Nat) (ds : List Char) : Bool :=
    let n := digitsValue base ds
    allDigits base ds && (if sign == some true then n ≤ signedLimit else n < 2 * signedLimit)
  match digits with
  | '0' :: 'x' :: ds => fits 16 ds
  | '0' :: 'o' :: ds => fits 8 ds
  | '0' :: 'b' :: ds => fits 2 ds
  | _ => false

/-- Whether a text is a finite decimal number, with or without a fraction and an exponent. -/
def isDecimal (cs : List Char) : Bool :=
  let (_, cs) := splitSign cs
  let whole := cs.takeWhile Char.isDigit
  let cs := cs.drop whole.length
  let (fraction, cs) :=
    match cs with
    | '.' :: rest => (rest.takeWhile Char.isDigit, rest.dropWhile Char.isDigit)
    | _ => ([], cs)
  let exponent? : Option Int :=
    match cs with
    | [] => some 0
    | c :: rest =>
      let (sign, ds) := splitSign rest
      if (c == 'e' || c == 'E') && allDigits 10 ds then
        let n : Int := digitsValue 10 ds
        some (if sign == some true then -n else n)
      else none
  match exponent? with
  | none => false
  | some e =>
    !(whole.isEmpty && fraction.isEmpty) &&
      (Binary64.ofDecimal? false (digitsValue 10 (whole ++ fraction))
        (e - fraction.length)).isSome

/-- The words for numbers that are not finite. -/
def isSpecialNumber (cs : List Char) : Bool :=
  [".inf", ".Inf", ".INF", "+.inf", "+.Inf", "+.INF", "-.inf", "-.Inf", "-.INF", ".nan", ".NaN",
    ".NAN"].any fun w => cs == w.toList

/-- Whether a plain scalar of these characters would be taken for something else than a text. -/
def isAmbiguous (cs : List Char) : Bool :=
  cs.isEmpty || Decoder.isNull cs || (Decoder.bool? cs).isSome || isMarkedInteger cs ||
    isDecimal cs || isSpecialNumber cs

/-! ## What a form can hold -/

/-- The characters that need no escape. -/
def isPrintable (c : Char) : Bool :=
  let n := c.toNat
  n == 0x0A || (0x20 ≤ n && n ≤ 0x7E) || (0xA0 ≤ n && n ≤ 0xD7FF) ||
    (0xE000 ≤ n && n ≤ 0xFFFD && n != 0xFEFF) || 0x10000 ≤ n

/-- Whether two neighbours have the properties `p` and `q`. -/
def hasPair (p q : Char → Bool) : List Char → Bool
  | a :: b :: rest => (p a && q b) || hasPair p q (b :: rest)
  | _ => false

/-- Whether a text begins as a plain scalar must not. -/
def startsWithIndicator (cs : List Char) : Bool :=
  ['-', '-', '-'].isPrefixOf cs || ['.', '.', '.'].isPrefixOf cs ||
    match cs with
    | [] => false
    | c :: rest =>
      "#,[]\x7b\x7d&*!|>'\"%@\x60".toList.contains c ||
        ((c == '?' || c == ':' || c == '-') && endsHere rest)

/-- Whether a text has a colon or a number sign that a plain scalar must not have. -/
def hasIndicator (cs : List Char) : Bool :=
  hasPair (· == ':') isSeparator cs || hasPair isSeparator (· == '#') cs ||
    cs.getLast? == some ':'

/-- Whether a text has a character that needs an escape, or a blank in front of a break. -/
def needsEscape (cs : List Char) : Bool :=
  cs.any (fun c => !isPrintable c) || hasPair (· == ' ') isBreak cs

/-- Whether a text can be written plain. -/
def canBePlain (cs : List Char) : Bool :=
  !(cs.any isBreak || cs.head? == some ' ' || cs.getLast? == some ' ' ||
    startsWithIndicator cs || hasIndicator cs || needsEscape cs)

/-- Whether a text can be written in single quotes. -/
def canBeSingle (cs : List Char) : Bool := !(needsEscape cs || hasPair isBreak (· == ' ') cs)

/-- Whether a text can be written as a literal block. -/
def canBeLiteral (cs : List Char) : Bool :=
  !(cs.isEmpty || needsEscape cs || cs.getLast? == some ' ')

/-- The form of a text. -/
inductive Form where
  | plain
  | single
  | double
  | literal
  deriving DecidableEq, Repr

/-- The form in which a text is written. -/
def Form.of (cs : List Char) : Form :=
  if cs.contains '\n' then (if canBeLiteral cs then literal else double)
  else if !isAmbiguous cs && canBePlain cs then plain
  else if canBeSingle cs then single
  else double

/-! ## Writing -/

/-- The text of the characters between single quotes; `broken` says whether a break is in front. -/
def writeSingle : (broken : Bool) → List Char → List Char
  | broken, [] => if broken then [' ', ' '] else []
  | broken, c :: rest =>
    if isBreak c then c :: writeSingle true rest
    else
      (if broken then [' ', ' '] else []) ++ (if c == '\'' then ['\'', '\''] else [c]) ++
        writeSingle false rest

/-- The spelling of a character between double quotes. -/
def writeEscaped (c : Char) : List Char :=
  match c with
  | '\x00' => ['\\', '0']
  | '\x07' => ['\\', 'a']
  | '\x08' => ['\\', 'b']
  | '\t' => ['\\', 't']
  | '\n' => ['\\', 'n']
  | '\x0b' => ['\\', 'v']
  | '\x0c' => ['\\', 'f']
  | '\r' => ['\\', 'r']
  | '\x1b' => ['\\', 'e']
  | '"' => ['\\', '"']
  | '\\' => ['\\', '\\']
  | '\u0085' => ['\\', 'N']
  | '\u2028' => ['\\', 'L']
  | '\u2029' => ['\\', 'P']
  | c =>
    let n := c.toNat
    if isPrintable c then [c]
    else if n ≤ 0xFF then '\\' :: 'x' :: Text.upperHex 2 n
    else if n ≤ 0xFFFF then '\\' :: 'u' :: Text.upperHex 4 n
    else '\\' :: 'U' :: Text.upperHex 8 n

/-- The lines of a literal block; `broken` says whether a line begins. -/
def writeLines : (broken : Bool) → List Char → List Char
  | broken, [] => if broken then [] else ['\n']
  | broken, c :: rest =>
    if isBreak c then c :: writeLines true rest
    else (if broken then [' ', ' ', c] else [c]) ++ writeLines false rest

/-- Whether a text ends in more than one break, or is one. -/
def endsOpen (cs : List Char) : Bool :=
  match cs.reverse with
  | [a] => isBreak a
  | a :: b :: _ => isBreak a && isBreak b
  | [] => false

/-- The header of a literal block behind its indicator: the indentation if that cannot be seen,
and what becomes of the last breaks. -/
def writeHeader (cs : List Char) : List Char :=
  (if cs.head?.any fun c => c == ' ' || isBreak c then ['2'] else []) ++
    (if endsOpen cs then ['+'] else if cs.getLast?.any isBreak then [] else ['-'])

/-- A text behind the colon of its key, up to the end of the line. -/
def writeText (cs : List Char) : List Char :=
  match Form.of cs with
  | .plain => cs ++ ['\n']
  | .single => '\'' :: writeSingle false cs ++ ['\'', '\n']
  | .double => '"' :: cs.flatMap writeEscaped ++ ['"', '\n']
  | .literal => '|' :: writeHeader cs ++ ['\n'] ++ writeLines true cs

/-- An entry of a mapping. -/
def writeEntry (name : String) (value : Option String) : List Char :=
  name.toList ++ [':', ' '] ++
    match value with
    | some s => writeText s.toList
    | none => "null\n".toList

/-- A mapping of names to texts or nothing. -/
def write (entries : List (String × Option String)) : String :=
  String.ofList (entries.flatMap fun (name, value) => writeEntry name value)

end Scaffold.Yaml
