import Scaffold.Text.Hex

/-!
# TOML strings

The four spellings of a string, and which of them a text gets. Reading gives the text and what
follows it; writing prefers the spelling with the fewest escapes.
-/

namespace Scaffold.Toml

/-- Whether a character may stand in a string or a comment. -/
def isAllowed (c : Char) : Bool := c == '\t' || (0x20 ≤ c.toNat && c.toNat != 0x7F)

/-- The blanks between tokens on a line. -/
def isBlank (c : Char) : Bool := c == ' ' || c == '\t'

/-- A text without the line break in front; nothing if there is none. -/
def dropBreak? : List Char → Option (List Char)
  | '\n' :: rest => some rest
  | '\r' :: '\n' :: rest => some rest
  | _ => none

/-- A text without the blanks and line breaks in front. -/
def skipSpace : List Char → List Char
  | '\n' :: rest => skipSpace rest
  | '\r' :: '\n' :: rest => skipSpace rest
  | c :: rest => if isBlank c then skipSpace rest else c :: rest
  | [] => []

theorem length_skipSpace_le (cs : List Char) : (skipSpace cs).length ≤ cs.length := by
  fun_induction skipSpace cs <;> simp_all <;> omega

/-- The character of a code point. -/
def charOfCode? (n : Nat) : Option Char := if n.isValidChar then some (Char.ofNat n) else none

/-- Reads the character that an escape stands for, behind the backslash. -/
def readEscape? : List Char → Option (Char × List Char)
  | 'b' :: rest => some ('\x08', rest)
  | 't' :: rest => some ('\t', rest)
  | 'n' :: rest => some ('\n', rest)
  | 'f' :: rest => some ('\x0c', rest)
  | 'r' :: rest => some ('\r', rest)
  | '"' :: rest => some ('"', rest)
  | '\\' :: rest => some ('\\', rest)
  | 'u' :: rest =>
    if rest.length < 4 then none
    else ((Text.ofHex? (rest.take 4)).bind charOfCode?).map (·, rest.drop 4)
  | 'U' :: rest =>
    if rest.length < 8 then none
    else ((Text.ofHex? (rest.take 8)).bind charOfCode?).map (·, rest.drop 8)
  | _ => none

theorem length_readEscape? {cs rest : List Char} {c : Char} (h : readEscape? cs = some (c, rest)) :
    rest.length < cs.length := by
  unfold readEscape? at h
  split at h
  case h_8 | h_9 =>
    split at h
    · cases h
    · simp only [Option.map_eq_some_iff] at h
      obtain ⟨_, _, h⟩ := h
      cases h
      simp only [List.length_cons, List.length_drop]
      omega
  all_goals cases h <;> simp

/-- Reads a basic string on one line behind its quote. -/
def readBasic? (cs : List Char) : Option (List Char × List Char) :=
  match cs with
  | '"' :: rest => some ([], rest)
  | '\\' :: rest =>
    match _h : readEscape? rest with
    | some (c, rest) => (readBasic? rest).map fun (text, rest) => (c :: text, rest)
    | none => none
  | c :: rest =>
    if isAllowed c then (readBasic? rest).map fun (text, rest) => (c :: text, rest) else none
  | [] => none
  termination_by cs.length
  decreasing_by
    · have := length_readEscape? _h
      simp only [List.length_cons]
      omega
    · simp

/-- Reads a literal string on one line behind its quote. -/
def readLiteral? : List Char → Option (List Char × List Char)
  | '\'' :: rest => some ([], rest)
  | c :: rest =>
    if isAllowed c then (readLiteral? rest).map fun (text, rest) => (c :: text, rest) else none
  | [] => none

/-- The end of a string of several lines: the quotes that belong to it, and what follows. At most
two quotes stand in front of the three that close it. -/
def readClosing? (quote : Char) (cs : List Char) : Option (List Char × List Char) :=
  let n := (cs.takeWhile (· == quote)).length
  if n < 3 then none else some (List.replicate (min (n - 3) 2) quote, cs.drop (min n 5))

/-- Reads a string of several lines behind its quotes and the line break after them. -/
def readLines? (basic : Bool) (cs : List Char) : Option (List Char × List Char) :=
  let quote := if basic then '"' else '\''
  match readClosing? quote cs with
  | some closing => some closing
  | none =>
    match cs with
    | '\r' :: '\n' :: rest =>
      (readLines? basic rest).map fun (text, rest) => ('\n' :: text, rest)
    | '\\' :: rest =>
      if basic then
        match dropBreak? (rest.dropWhile isBlank) with
        | some _ => readLines? basic (skipSpace rest)
        | none =>
          match _h : readEscape? rest with
          | some (c, rest) => (readLines? basic rest).map fun (text, rest) => (c :: text, rest)
          | none => none
      else (readLines? basic rest).map fun (text, rest) => ('\\' :: text, rest)
    | c :: rest =>
      if isAllowed c || c == '\n' then
        (readLines? basic rest).map fun (text, rest) => (c :: text, rest)
      else none
    | [] => none
  termination_by cs.length
  decreasing_by
    · simp only [List.length_cons]
      omega
    · have := length_skipSpace_le rest
      simp only [List.length_cons]
      omega
    · have := length_readEscape? _h
      simp only [List.length_cons]
      omega
    · simp
    · simp

/-- Reads a string. -/
def readString? : List Char → Option (List Char × List Char)
  | '"' :: '"' :: '"' :: rest => readLines? true ((dropBreak? rest).getD rest)
  | '\'' :: '\'' :: '\'' :: rest => readLines? false ((dropBreak? rest).getD rest)
  | '"' :: rest => readBasic? rest
  | '\'' :: rest => readLiteral? rest
  | _ => none

/-! ## Writing -/

/-- Whether a character needs an escape in every spelling that has escapes. -/
def isControl (c : Char) : Bool :=
  (c.toNat < 0x20 && c != '\t' && c != '\n') || c.toNat == 0x7F

/-- The longest run of a character. -/
def longestRun (q : Char) : (run best : Nat) → List Char → Nat
  | _, best, [] => best
  | run, best, c :: rest =>
    if c == q then longestRun q (run + 1) (max best (run + 1)) rest else longestRun q 0 best rest

/-- The spelling of a string. -/
inductive Spelling where
  | basic
  | literal
  | basicLines
  | literalLines
  deriving DecidableEq, Repr

/-- The spelling in which a text is written. -/
def Spelling.of (cs : List Char) : Spelling :=
  let control := cs.any isControl
  let break_ := cs.contains '\n'
  let backslash := cs.contains '\\'
  let double := longestRun '"' 0 0 cs
  let single := longestRun '\'' 0 0 cs
  if !control && !backslash && double == 0 && !break_ then basic
  else if !control && single == 0 && !break_ then literal
  else if !control && !backslash && double ≤ 2 then basicLines
  else if !control && single ≤ 2 then literalLines
  else if break_ then basicLines
  else basic

/-- The escape of a character. -/
def escape (c : Char) : List Char :=
  match c with
  | '\x08' => ['\\', 'b']
  | '\t' => ['\\', 't']
  | '\n' => ['\\', 'n']
  | '\x0c' => ['\\', 'f']
  | '\r' => ['\\', 'r']
  | '"' => ['\\', '"']
  | '\\' => ['\\', '\\']
  | c => '\\' :: 'u' :: Text.upperHex 4 c.toNat

/-- The characters of a basic string; of several lines if `lines` holds, where every third quote of
a run is escaped, and `quotes` is their number in front. -/
def writeBasic (lines : Bool) : (quotes : Nat) → List Char → List Char
  | _, [] => []
  | quotes, c :: rest =>
    if c == '"' then
      if lines && quotes < 2 then c :: writeBasic lines (quotes + 1) rest
      else escape c ++ writeBasic lines 0 rest
    else if lines && c == '\n' then c :: writeBasic lines 0 rest
    else if c == '\\' || c.toNat < 0x20 || c.toNat == 0x7F then
      escape c ++ writeBasic lines 0 rest
    else c :: writeBasic lines 0 rest

/-- A text as a string. -/
def writeString (cs : List Char) : List Char :=
  let start := if cs.contains '\n' then ['\n'] else []
  match Spelling.of cs with
  | .basic => '"' :: writeBasic false 0 cs ++ ['"']
  | .literal => '\'' :: cs ++ ['\'']
  | .basicLines => ['"', '"', '"'] ++ start ++ writeBasic true 0 cs ++ ['"', '"', '"']
  | .literalLines => ['\'', '\'', '\''] ++ start ++ cs ++ ['\'', '\'', '\'']

/-- Names with texts, one a line; names without one are left out. -/
def write (entries : List (String × Option String)) : String :=
  String.ofList (entries.flatMap fun (name, value) =>
    match value with
    | some s => name.toList ++ [' ', '=', ' '] ++ writeString s.toList ++ ['\n']
    | none => [])

end Scaffold.Toml
