import Scaffold.Yaml.Property
import Scaffold.Yaml.Scalar

/-!
# The tokens of a YAML text

`tokens?` lists the tokens of a text. Where a key begins is known only when its colon is reached,
so every token that may begin one is remembered, and its lexeme marked when the colon comes: as a
key, and as the start of a block mapping if the indentation grows there. A key ends on the line on
which it begins, within 1024 characters.
-/

namespace Scaffold.Yaml

/-- A token with what begins in front of it. -/
structure Lexeme where
  token : Token
  /-- Whether a key begins here that no question mark announces. -/
  key : Bool := false
  /-- Whether a block mapping begins with that key. -/
  mapping : Bool := false
  deriving Repr

/-- The tokens of a lexeme. -/
def Lexeme.tokens (l : Lexeme) : List Token :=
  (if l.mapping then [.blockMappingStart] else []) ++ (if l.key then [.key] else []) ++ [l.token]

/-- A place at which a key may begin. -/
structure KeyStart where
  /-- The number of the lexeme that begins there. -/
  lexeme : Nat
  index : Nat
  line : Nat
  column : Nat
  /-- Whether a key has to begin there. -/
  required : Bool
  deriving Repr

/-- How far a text is read, and in what surroundings. -/
structure Scanner where
  cursor : Cursor
  lexemes : Array Lexeme := #[]
  /-- The columns of the open blocks, innermost first. -/
  blocks : List Nat := []
  /-- Where a key may have begun: in the innermost collection, and in those around it. -/
  start : Option KeyStart := none
  outer : List (Option KeyStart) := []
  /-- Whether a key may begin with the next token. -/
  keyAllowed : Bool := true
  deriving Repr

namespace Scanner

/-- Whether the scanner is inside a flow collection. -/
def inFlow (s : Scanner) : Bool := !s.outer.isEmpty

/-- Whether the column `n` is beyond the innermost block. -/
def deeper (s : Scanner) (n : Nat) : Bool :=
  match s.blocks with
  | [] => true
  | b :: _ => b < n

/-- The scanner with one more token. -/
def push (s : Scanner) (t : Token) : Scanner := { s with lexemes := s.lexemes.push { token := t } }

/-- Forgets where a key may have begun; fails if one has to begin there. -/
def dropStart (s : Scanner) : Option Scanner :=
  if s.start.any KeyStart.required then none else some { s with start := none }

/-- Remembers that a key may begin here. -/
def saveStart (s : Scanner) : Option Scanner :=
  if s.keyAllowed then
    (s.dropStart).map fun s =>
      { s with
        start := some {
          lexeme := s.lexemes.size
          index := s.cursor.index
          line := s.cursor.line
          column := s.cursor.column
          required := !s.inFlow && s.blocks.head? == some s.cursor.column } }
  else some s

/-- Whether a key that began at a place cannot reach as far as the cursor. -/
def isStale (c : Cursor) (k : KeyStart) : Bool := k.line < c.line || k.index + 1024 < c.index

/-- A start without one that is stale; fails if a key has to begin there. -/
def refresh (c : Cursor) : Option KeyStart → Option (Option KeyStart)
  | none => some none
  | some k => if isStale c k then (if k.required then none else some none) else some (some k)

/-- Forgets the starts of keys that are stale. -/
def dropStale (s : Scanner) : Option Scanner := do
  let start ← refresh s.cursor s.start
  let outer ← s.outer.mapM (refresh s.cursor)
  return { s with start, outer }

/-- Opens a block with the token `t` if the cursor is beyond the innermost block. -/
def openBlock (s : Scanner) (t : Token) : Scanner :=
  if !s.inFlow && s.deeper s.cursor.column then
    { s.push t with blocks := s.cursor.column :: s.blocks }
  else s

/-- The blocks that contain a column, and how many are closed in front of it. -/
def closed (column : Nat) : List Nat → List Nat × Nat
  | [] => ([], 0)
  | b :: rest =>
    if column < b then
      let (kept, n) := closed column rest
      (kept, n + 1)
    else (b :: rest, 0)

/-- The scanner with `n` blocks closed, so that `kept` are open. -/
def close (s : Scanner) (kept : List Nat) (n : Nat) : Scanner :=
  { s with
    blocks := kept
    lexemes := s.lexemes ++ (List.replicate n { token := .blockEnd }).toArray }

/-- Closes the blocks beyond the cursor. -/
def closeBlocks (s : Scanner) : Scanner :=
  if s.inFlow then s
  else
    let (kept, n) := closed s.cursor.column s.blocks
    s.close kept n

/-- Closes every block. -/
def closeAll (s : Scanner) : Scanner :=
  if s.inFlow then s else s.close [] s.blocks.length

/-- Goes to the next token, past blanks, comments and breaks. A tab is no indentation. -/
def toNextToken : (fuel : Nat) → Scanner → Scanner
  | 0, s => s
  | fuel + 1, s =>
    let c := s.cursor
    let c := if c.column == 0 && c.next? == some '\ufeff' then c.skip 1 else c
    let blank (d : Char) : Bool := d == ' ' || (d == '\t' && (s.inFlow || !s.keyAllowed))
    let c := (c.skip (c.rest.takeWhile blank).length).skipComment
    if c.atBreak then
      toNextToken fuel
        { s with cursor := c.readBreak.2, keyAllowed := s.keyAllowed || !s.inFlow }
    else { s with cursor := c }

/-- Reads a token of `n` characters. -/
def take (s : Scanner) (t : Token) (n : Nat) : Scanner :=
  { s.push t with cursor := s.cursor.skip n }

/-- Reads a token that `read` gives. -/
def takeWith (s : Scanner) (read : Option (Token × Cursor)) : Option Scanner :=
  read.map fun (t, c) => { s.push t with cursor := c }

/-- Reads a token in front of which all blocks are closed. -/
def atMargin (s : Scanner) (read : Scanner → Option Scanner) : Option Scanner := do
  let s ← s.closeAll.dropStart
  read { s with keyAllowed := false }

/-- Reads the start of a flow collection. -/
def openFlow (s : Scanner) (t : Token) : Option Scanner := do
  let s ← s.saveStart
  return { s.take t 1 with outer := s.start :: s.outer, start := none, keyAllowed := true }

/-- Reads the end of a flow collection. -/
def closeFlow (s : Scanner) (t : Token) : Option Scanner := do
  let s ← s.dropStart
  let s := { s.take t 1 with keyAllowed := false }
  match s.outer with
  | [] => return s
  | start :: outer => return { s with start, outer }

/-- Reads the indicator of an item of a block sequence. -/
def blockEntry (s : Scanner) : Option Scanner :=
  if !s.inFlow && !s.keyAllowed then none
  else do
    let s ← (s.openBlock .blockSequenceStart).dropStart
    return { s.take .blockEntry 1 with keyAllowed := true }

/-- Reads the indicator of a key. -/
def keyIndicator (s : Scanner) : Option Scanner :=
  if !s.inFlow && !s.keyAllowed then none
  else do
    let s ← (s.openBlock .blockMappingStart).dropStart
    return { s.take .key 1 with keyAllowed := !s.inFlow }

/-- Reads the indicator of a value, and with it marks the key that has begun. -/
def valueIndicator (s : Scanner) : Option Scanner :=
  match s.start with
  | some k =>
    let opens := !s.inFlow && s.deeper k.column
    some { s.take .value 1 with
      lexemes := (s.lexemes.modify k.lexeme fun l => { l with key := true, mapping := opens }).push
        { token := .value }
      blocks := if opens then k.column :: s.blocks else s.blocks
      start := none
      keyAllowed := false }
  | none =>
    if !s.inFlow && !s.keyAllowed then none
    else
      let s := s.openBlock .blockMappingStart
      some { s.take .value 1 with keyAllowed := !s.inFlow }

/-- Reads a token with which a key may begin, but behind which none may. -/
def keyable (s : Scanner) (read : Cursor → Option (Token × Cursor)) : Option Scanner := do
  let s ← s.saveStart
  { s with keyAllowed := false }.takeWith (read s.cursor)

/-- Reads a block scalar behind its indicator. -/
def blockScalar (s : Scanner) (style : Style) : Option Scanner := do
  let s ← s.dropStart
  let (text, c) ← readBlock (style == .literal) s.blocks.head? (s.cursor.skip 1)
  return { s.push (.scalar style text) with cursor := c, keyAllowed := true }

/-- Reads a plain scalar. -/
def plainScalar (s : Scanner) : Option Scanner := do
  let s ← s.saveStart
  let indent := match s.blocks with
    | [] => 0
    | b :: _ => b + 1
  let (text, broken, c) ← readPlain s.inFlow indent (s.cursor.rest.length + 1) [] {} s.cursor
  return { s.push (.scalar .plain text) with cursor := c, keyAllowed := broken }

/-- Reads a quoted scalar. -/
def quotedScalar (s : Scanner) (quote : Char) : Option Scanner :=
  s.keyable fun c =>
    (readQuoted quote (c.rest.length + 1) [] (c.skip 1)).map fun (text, c) =>
      (.scalar .quoted text, c)

/-- The characters with which no plain scalar begins. -/
def isIndicator (c : Char) : Bool :=
  "-?:,[]\x7b\x7d#&*!|>'\"%@\x60".toList.contains c

/-- Whether a plain scalar begins with `d`, followed by `rest`. -/
def startsPlain (s : Scanner) (d : Char) (rest : List Char) : Bool :=
  !(isSeparator d || isIndicator d) ||
    (d == '-' && !rest.head?.any isBlank) ||
    (!s.inFlow && (d == '?' || d == ':') && !endsHere rest)

/-- Reads the token at the cursor, which is not at the end of the text. -/
def readToken (s : Scanner) (d : Char) (rest : List Char) : Option Scanner :=
  let c := s.cursor
  if c.column == 0 && d == '%' then
    s.atMargin fun s => s.takeWith (readDirective (s.cursor.skip 1))
  else if c.atMark ['-', '-', '-'] then s.atMargin fun s => some (s.take .documentStart 3)
  else if c.atMark ['.', '.', '.'] then s.atMargin fun s => some (s.take .documentEnd 3)
  else if d == '[' then s.openFlow .flowSequenceStart
  else if d == '\x7b' then s.openFlow .flowMappingStart
  else if d == ']' then s.closeFlow .flowSequenceEnd
  else if d == '\x7d' then s.closeFlow .flowMappingEnd
  else if d == ',' then do
    let s ← s.dropStart
    return { s.take .flowEntry 1 with keyAllowed := true }
  else if d == '-' && endsHere rest then s.blockEntry
  else if d == '?' && (s.inFlow || endsHere rest) then s.keyIndicator
  else if d == ':' && (s.inFlow || endsHere rest) then s.valueIndicator
  else if d == '*' then
    s.keyable fun c => (readAnchor (c.skip 1)).map fun (name, c) => (.alias name, c)
  else if d == '&' then
    s.keyable fun c => (readAnchor (c.skip 1)).map fun (name, c) => (.anchor name, c)
  else if d == '!' then s.keyable (readTag s.inFlow)
  else if d == '|' && !s.inFlow then s.blockScalar .literal
  else if d == '>' && !s.inFlow then s.blockScalar .folded
  else if d == '\'' || d == '"' then s.quotedScalar d
  else if s.startsPlain d rest then s.plainScalar
  else none

/-- Reads tokens up to the end of the text. -/
def run : (fuel : Nat) → Scanner → Option Scanner
  | 0, _ => none
  | fuel + 1, s => do
    let s ← (s.toNextToken (s.cursor.rest.length + 1)).dropStale
    let s := s.closeBlocks
    match s.cursor.rest with
    | [] =>
      let s ← s.closeAll.dropStart
      return s.push .streamEnd
    | d :: rest => run fuel (← s.readToken d rest)

end Scanner

/-- The tokens of a text; nothing if it is ill-formed. -/
def tokens? (cs : List Char) : Option (List Token) :=
  if cs.all isAllowed then
    (Scanner.run (cs.length + 2) { cursor := { rest := cs } }).map fun s =>
      s.lexemes.toList.flatMap Lexeme.tokens
  else none

end Scaffold.Yaml
