/-!
# Places in a YAML text

A cursor is what is left of a text together with the place where that begins. Lines end at a line
feed, a carriage return, both together, or one of three line breaks beyond ASCII; a folded break
counts as a line feed unless it is a line or paragraph separator.
-/

namespace Scaffold.Yaml

/-- The blanks between tokens on a line. -/
def isBlank (c : Char) : Bool := c == ' ' || c == '\t'

/-- The characters that end a line. -/
def isBreak (c : Char) : Bool :=
  c == '\n' || c == '\r' || c == '\u0085' || c == '\u2028' || c == '\u2029'

/-- Whether a character separates tokens. -/
def isSeparator (c : Char) : Bool := isBlank c || isBreak c

/-- Whether a token ends in front of a text: at its end or at a blank or break. -/
def endsHere : List Char → Bool
  | [] => true
  | c :: _ => isSeparator c

/-- The characters of which the names of anchors and of tag handles consist. -/
def isNameChar (c : Char) : Bool := c.isAlphanum || c == '_' || c == '-'

/-- The characters that may stand in a YAML text. -/
def isAllowed (c : Char) : Bool :=
  let n := c.toNat
  n == 0x09 || n == 0x0A || n == 0x0D || (0x20 ≤ n && n ≤ 0x7E) || n == 0x85 ||
    (0xA0 ≤ n && n ≤ 0xD7FF) || (0xE000 ≤ n && n ≤ 0xFFFD) || 0x10000 ≤ n

/-- What is left of a text, and where that begins. -/
structure Cursor where
  rest : List Char
  /-- The number of characters in front. -/
  index : Nat := 0
  line : Nat := 0
  column : Nat := 0
  deriving Repr

namespace Cursor

/-- The next character. -/
def next? (c : Cursor) : Option Char := c.rest.head?

/-- The cursor `n` characters further on the same line. -/
def skip (c : Cursor) (n : Nat) : Cursor :=
  { c with rest := c.rest.drop n, index := c.index + n, column := c.column + n }

/-- Whether the next character is a blank. -/
def atBlank (c : Cursor) : Bool := c.rest.head?.any isBlank

/-- Whether the next character ends the line. -/
def atBreak (c : Cursor) : Bool := c.rest.head?.any isBreak

/-- Whether the text ends here. -/
def atEnd (c : Cursor) : Bool := c.rest.isEmpty

/-- The text of the line break at a cursor, and the cursor behind it. -/
def readBreak (c : Cursor) : List Char × Cursor :=
  let past (rest : List Char) (n : Nat) : Cursor := ⟨rest, c.index + n, c.line + 1, 0⟩
  match c.rest with
  | '\r' :: '\n' :: rest => (['\n'], past rest 2)
  | d :: rest =>
    if d == '\u2028' || d == '\u2029' then ([d], past rest 1)
    else if isBreak d then (['\n'], past rest 1)
    else ([], c)
  | [] => ([], c)

/-- The cursor behind the blanks on the line. -/
def skipBlanks (c : Cursor) : Cursor := c.skip (c.rest.takeWhile isBlank).length

/-- The cursor at the end of the line, if a comment begins here. -/
def skipComment (c : Cursor) : Cursor :=
  if c.next? == some '#' then c.skip (c.rest.takeWhile fun d => !isBreak d).length else c

/-- Whether `mark`, which is three characters long, stands alone at the start of a line. -/
def atMark (c : Cursor) (mark : List Char) : Bool :=
  c.column == 0 && mark.isPrefixOf c.rest && endsHere (c.rest.drop 3)

/-- Whether a line begins that starts or ends a document. -/
def atDocumentMark (c : Cursor) : Bool := c.atMark ['-', '-', '-'] || c.atMark ['.', '.', '.']

end Cursor

end Scaffold.Yaml
