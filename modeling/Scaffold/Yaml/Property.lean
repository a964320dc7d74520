import Scaffold.Text.Hex
import Scaffold.Yaml.Cursor
import Scaffold.Yaml.Token

/-!
# Anchors, tags and directives

What may stand in front of a node besides its content, and the two directives in front of a
document. Percent signs in tags escape the bytes of characters in UTF-8.
-/

namespace Scaffold.Yaml

/-- The characters that may follow the name of an anchor directly. -/
def endsAnchor (cs : List Char) : Bool :=
  endsHere cs || cs.head?.any fun c =>
    c == '?' || c == ':' || c == ',' || c == ']' || c == '\x7d' || c == '%' || c == '@' ||
      c == '\x60'

/-- Reads the name of an anchor behind its indicator. -/
def readAnchor (c : Cursor) : Option (List Char × Cursor) :=
  let name := c.rest.takeWhile isNameChar
  let c := c.skip name.length
  if name.isEmpty || !endsAnchor c.rest then none else some (name, c)

/-- The characters of a tag besides letters, digits, the underscore and the hyphen; some more of
them may stand in a tag that is written out in full. -/
def isTagChar (full : Bool) (c : Char) : Bool :=
  isNameChar c || ";/?:@&=+$.%!~*'()".toList.contains c ||
    (full && (c == ',' || c == '[' || c == ']'))

/-- The byte that a percent sign and two digits denote. -/
def readByte? : List Char → Option (Nat × List Char)
  | '%' :: a :: b :: rest => (Text.ofHex? [a, b]).map (·, rest)
  | _ => none

/-- Reads the bytes of a character behind the first of them. -/
def readContinuation? : Nat → Nat → List Char → Option (Nat × List Char)
  | 0, value, cs => some (value, cs)
  | n + 1, value, cs =>
    match readByte? cs with
    | some (b, rest) =>
      if b / 64 = 2 then readContinuation? n (value * 64 + b % 64) rest else none
    | none => none

/-- Reads a character whose bytes are escaped. -/
def readEscapedChar? (cs : List Char) : Option (Char × List Char) := do
  let (b, rest) ← readByte? cs
  let (n, start) ←
    if b < 0x80 then some (0, b)
    else if b / 32 = 6 then some (1, b % 32)
    else if b / 16 = 14 then some (2, b % 16)
    else if b / 8 = 30 then some (3, b % 8)
    else none
  let (value, rest) ← readContinuation? n start rest
  return (Char.ofNat value, rest)

/-- Reads the characters of a tag. -/
def readTagText (full : Bool) : (fuel : Nat) → List Char → Option (List Char × List Char)
  | 0, _ => none
  | fuel + 1, cs =>
    match cs with
    | [] => some ([], [])
    | c :: rest =>
      if !isTagChar full c then some ([], c :: rest)
      else if c == '%' then do
        let (d, rest) ← readEscapedChar? cs
        let (text, rest) ← readTagText full fuel rest
        return (d :: text, rest)
      else (readTagText full fuel rest).map fun (text, rest) => (c :: text, rest)

/-- Reads the text of a tag behind `start`, which may be all of it. -/
def readTagUri (full : Bool) (start : List Char) (c : Cursor) :
    Option (List Char × Cursor) := do
  let (text, rest) ← readTagText full (c.rest.length + 1) c.rest
  if start.isEmpty && text.isEmpty then none
  else return (start.drop 1 ++ text, c.skip (c.rest.length - rest.length))

/-- Reads an exclamation mark, a name, and a second exclamation mark if one is there. -/
def readHandle (c : Cursor) : Option (List Char × Cursor) :=
  if c.next? != some '!' then none
  else
    let name := (c.rest.drop 1).takeWhile isNameChar
    let c := c.skip (name.length + 1)
    if c.next? == some '!' then some ('!' :: name ++ ['!'], c.skip 1)
    else some ('!' :: name, c)

/-- Reads a tag as its handle and suffix. -/
def readTag (flow : Bool) (c : Cursor) : Option (Token × Cursor) := do
  let (handle, suffix, c) ←
    if (c.rest.drop 1).head? == some '<' then do
      let (uri, c) ← readTagUri true [] (c.skip 2)
      if c.next? == some '>' then some ([], uri, c.skip 1) else none
    else do
      let (handle, c) ← readHandle c
      if handle.length > 1 && handle.getLast? == some '!' then
        let (suffix, c) ← readTagUri false [] c
        some (handle, suffix, c)
      else
        let (suffix, c) ← readTagUri false handle c
        if suffix.isEmpty then some ([], ['!'], c) else some (['!'], suffix, c)
  if endsHere c.rest || (flow && c.next? == some ',') then return (.tag handle suffix, c)
  else none

/-- Reads a number of at most nine digits. -/
def readVersionNumber (c : Cursor) : Option (Nat × Cursor) :=
  let digits := c.rest.takeWhile Char.isDigit
  if digits.isEmpty || digits.length > 9 then none
  else some (digits.foldl (fun n d => 10 * n + (d.toNat - 0x30)) 0, c.skip digits.length)

/-- Reads a directive behind its indicator, up to the start of the next line. -/
def readDirective (c : Cursor) : Option (Token × Cursor) := do
  let name := c.rest.takeWhile isNameChar
  let c := c.skip name.length
  if !endsHere c.rest then none
  else
    let c := c.skipBlanks
    let (token, c) ←
      if name = ['Y', 'A', 'M', 'L'] then do
        let (major, c) ← readVersionNumber c
        if c.next? != some '.' then none
        else
          let (minor, c) ← readVersionNumber (c.skip 1)
          some (Token.version major minor, c)
      else if name = ['T', 'A', 'G'] then do
        let (handle, c) ← readHandle c
        if handle.length > 1 && handle.getLast? != some '!' then none
        else if !c.atBlank then none
        else
          let (uri, c) ← readTagUri true [] c.skipBlanks
          if endsHere c.rest then some (Token.tagDirective handle uri, c) else none
      else none
    let c := c.skipBlanks.skipComment
    if c.atEnd || c.atBreak then return (token, c.readBreak.2) else none

end Scaffold.Yaml
