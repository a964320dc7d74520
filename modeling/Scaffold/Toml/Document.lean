import Scaffold.Toml.Item
import Scaffold.Toml.Scalar

/-!
# TOML documents

A document is a sequence of statements, one a line: headers and pairs of a key and a value. Arrays
and inline tables nest to a limited depth, over which `readValue?` recurses. `Document.ofText?`
reads the statements and carries them out on the entries of the document in turn.
-/

namespace Scaffold.Toml

/-- The depth at and beyond which values may not nest, and the number of keys at and beyond which a
dotted key is too long. -/
def depthLimit : Nat := 80

/-- A dotted key: the first key, and those behind its dots. -/
structure DottedKey where
  first : String
  more : List String

namespace DottedKey

/-- All keys of a dotted key. -/
def keys (k : DottedKey) : List String := k.first :: k.more

/-- The keys in front of the last one. -/
def path (k : DottedKey) : List String := k.keys.dropLast

/-- The last key. -/
def last (k : DottedKey) : String := k.more.getLast?.getD k.first

end DottedKey

/-- Whether a character may stand in a key without quotes. -/
def isKeyChar (c : Char) : Bool := c.isAlphanum || c == '_' || c == '-'

/-- Reads a key without dots. -/
def readKey? (cs : List Char) : Option (String × List Char) :=
  match cs with
  | '"' :: rest => (readBasic? rest).map fun (text, rest) => (String.ofList text, rest)
  | '\'' :: rest => (readLiteral? rest).map fun (text, rest) => (String.ofList text, rest)
  | _ =>
    let name := cs.takeWhile isKeyChar
    if name.isEmpty then none else some (String.ofList name, cs.dropWhile isKeyChar)

/-- Reads the keys of a dotted key, with blanks around each. -/
def readKeys? (cs : List Char) : Option (DottedKey × List Char) :=
  match readKey? (cs.dropWhile isBlank) with
  | none => none
  | some (key, rest) =>
    match rest.dropWhile isBlank with
    | '.' :: rest =>
      if rest.length < cs.length then
        match readKeys? rest with
        | none => none
        | some (k, rest) => some (⟨key, k.first :: k.more⟩, rest)
      else none
    | rest => some (⟨key, []⟩, rest)
  termination_by cs.length

/-- Reads a dotted key that is not too long. -/
def readDottedKey? (cs : List Char) : Option (DottedKey × List Char) := do
  let (key, rest) ← readKeys? cs
  if key.keys.length < depthLimit then some (key, rest) else none

/-- A text without blanks, line breaks and comments in front. -/
def skipTrivia (cs : List Char) : List Char :=
  match _h : skipSpace cs with
  | '#' :: rest => skipTrivia (rest.dropWhile isAllowed)
  | rest => rest
  termination_by cs.length
  decreasing_by
    have h₁ := length_skipSpace_le cs
    have h₂ := (List.dropWhile_suffix (l := rest) isAllowed).length_le
    simp only [_h, List.length_cons] at h₁
    omega

/-- Reads the items of an array behind its bracket or a comma. -/
def readItems? (read : List Char → Option (Item × List Char)) (cs : List Char) :
    Option (List Char) :=
  match skipTrivia cs with
  | ']' :: rest => some rest
  | start =>
    match read start with
    | none => none
    | some (_, rest) =>
      match skipTrivia rest with
      | ']' :: rest => some rest
      | ',' :: rest => if rest.length < cs.length then readItems? read rest else none
      | _ => none
  termination_by cs.length

/-- Reads the pairs of an inline table, of which the entries are there already. -/
def readPairs? (read : List Char → Option (Item × List Char)) (es : Entries) (cs : List Char) :
    Option (List Char) :=
  match readDottedKey? cs with
  | some (key, '=' :: rest) =>
    match read (rest.dropWhile isBlank) with
    | none => none
    | some (item, rest) =>
      match es.insertAt? item key.last true key.path, rest.dropWhile isBlank with
      | some _, '\x7d' :: rest => some rest
      | some es, ',' :: rest => if rest.length < cs.length then readPairs? read es rest else none
      | _, _ => none
  | _ => none
  termination_by cs.length

/-- Reads an inline table behind its brace. -/
def readInlineTable? (read : List Char → Option (Item × List Char)) (cs : List Char) :
    Option (List Char) :=
  match cs.dropWhile isBlank with
  | '\x7d' :: rest => some rest
  | _ => readPairs? read [] cs

/-- Reads a value inside which others nest to the given depth. -/
def readValue? : (depth : Nat) → List Char → Option (Item × List Char)
  | depth, '[' :: rest =>
    match depth with
    | 0 => none
    | depth + 1 => (readItems? (readValue? depth) rest).map (.value, ·)
  | depth, '\x7b' :: rest =>
    match depth with
    | 0 => none
    | depth + 1 => (readInlineTable? (readValue? depth) rest).map (.value, ·)
  | _, cs =>
    match readString? cs with
    | some (text, rest) => some (.text (String.ofList text), rest)
    | none => (readScalar? cs).map (.value, ·)

/-- A line of a document. -/
inductive Statement where
  /-- The header of a table. -/
  | table (key : DottedKey)
  /-- The header of an element of an array of tables. -/
  | element (key : DottedKey)
  | pair (key : DottedKey) (item : Item)

/-- The text behind the end of a line, in front of which blanks and a comment may stand. -/
def readLineEnd? (cs : List Char) : Option (List Char) :=
  let rest :=
    match cs.dropWhile isBlank with
    | '#' :: rest => rest.dropWhile isAllowed
    | rest => rest
  if rest.isEmpty then some [] else dropBreak? rest

/-- Reads a statement with the end of its line. -/
def readStatement? : List Char → Option (Statement × List Char)
  | '[' :: '[' :: rest => do
    let (key, rest) ← readDottedKey? rest
    let rest ← readLineEnd? (← dropWord? [']', ']'] rest)
    return (.element key, rest)
  | '[' :: rest => do
    let (key, rest) ← readDottedKey? rest
    let rest ← readLineEnd? (← dropWord? [']'] rest)
    return (.table key, rest)
  | cs => do
    let (key, rest) ← readDottedKey? cs
    let (item, rest) ← readValue? (depthLimit - 1) ((← dropWord? ['='] rest).dropWhile isBlank)
    let rest ← readLineEnd? rest
    return (.pair key item, rest)

/-- Reads all statements of a text. -/
def readStatements? (cs : List Char) : Option (List Statement) :=
  match skipTrivia cs with
  | [] => some []
  | start =>
    match readStatement? start with
    | none => none
    | some (s, rest) =>
      if rest.length < cs.length then (readStatements? rest).map (s :: ·) else none
  termination_by cs.length

namespace Document

/-- Carries out statements. `table` is the path of the last header. -/
def run? : (table : List String) → List Statement → Entries → Option Entries
  | _, [], es => some es
  | _, .table key :: rest, es =>
    (Entries.atHeader? (Entries.openTable? key.last) key.path es).bind (run? key.keys rest)
  | _, .element key :: rest, es =>
    (Entries.atHeader? (Entries.openElement? key.last) key.path es).bind (run? key.keys rest)
  | table, .pair key item :: rest, es =>
    (Entries.atHeader? (Entries.insertAt? item key.last true key.path) table es).bind
      (run? table rest)

/-- The entries of a document; a byte order mark in front is passed over. -/
def ofText? (s : String) : Option Entries :=
  let cs :=
    match s.toList with
    | '\ufeff' :: rest => rest
    | cs => cs
  (readStatements? cs).bind fun statements => run? [] statements []

end Document

end Scaffold.Toml
