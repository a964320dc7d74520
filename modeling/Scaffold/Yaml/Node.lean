import Scaffold.Yaml.Lexeme

/-!
# YAML nodes

`Node.ofText?` reads the one document of a YAML text as a tree. Aliases in the tree carry the name
of their anchor, and tags are expanded by the directives of the document.
-/

namespace Scaffold.Yaml

/-- What stands in front of the content of a node. -/
structure Properties where
  anchor : Option (List Char) := none
  tag : Option (List Char) := none
  deriving DecidableEq, Repr

/-- A node, in which `ref` refers to another one. -/
inductive Node (ref : Type) where
  | alias (target : ref)
  | scalar (properties : Properties) (style : Style) (text : List Char)
  | sequence (properties : Properties) (items : List (Node ref))
  | mapping (properties : Properties) (entries : List (Node ref × Node ref))

namespace Node

/-- The node of which nothing is written. -/
def empty {ref : Type} : Node ref := .scalar {} .plain []

/-- The expansions of tag handles. -/
abbrev Handles := List (List Char × List Char)

/-- The expansions that hold unless a directive replaces them. -/
def defaultHandles : Handles := [(['!'], ['!']), (['!', '!'], "tag:yaml.org,2002:".toList)]

/-- The tag that a handle and a suffix stand for. -/
def expandTag (handles : Handles) (handle suffix : List Char) : Option (List Char) :=
  if handle.isEmpty then some suffix
  else ((handles ++ defaultHandles).lookup handle).map (· ++ suffix)

/-- Reads the anchor and the tag in front of a node, in either order. -/
def readProperties (handles : Handles) : List Token → Option (Properties × List Token)
  | .anchor a :: .tag h s :: rest =>
    (expandTag handles h s).map fun tag => ({ anchor := some a, tag := some tag }, rest)
  | .anchor a :: rest => some ({ anchor := some a }, rest)
  | .tag h s :: .anchor a :: rest =>
    (expandTag handles h s).map fun tag => ({ anchor := some a, tag := some tag }, rest)
  | .tag h s :: rest => (expandTag handles h s).map fun tag => ({ tag := some tag }, rest)
  | rest => some ({}, rest)

/-- Whether a node of a block mapping is left out in front of the tokens. -/
def endsBlockEntry : List Token → Bool
  | .key :: _ | .value :: _ | .blockEnd :: _ => true
  | _ => false

/-- Whether an item of a block sequence is left out in front of the tokens. -/
def endsBlockItem : List Token → Bool
  | .blockEntry :: _ | .blockEnd :: _ => true
  | _ => false

/-- Whether a value of a flow mapping is left out in front of the tokens. -/
def endsFlowValue : List Token → Bool
  | .flowEntry :: _ | .flowMappingEnd :: _ => true
  | _ => false

/-- Whether a value inside a flow sequence is left out in front of the tokens. -/
def endsFlowPair : List Token → Bool
  | .flowEntry :: _ | .flowSequenceEnd :: _ => true
  | _ => false

/-- What is read in front of the remaining tokens. -/
abbrev Reader (α : Type) := List Token → Option (α × List Token)

/-- Reads a node, or the empty node if `left` says that it is left out. -/
def readOrEmpty (left : List Token → Bool) (read : Reader (Node (List Char))) :
    Reader (Node (List Char)) := fun ts => if left ts then some (empty, ts) else read ts

mutual

/-- Reads a node. Block collections are read if `block` holds, and a sequence without indentation
of its own if `indentless` holds. -/
def read (handles : Handles) (block indentless : Bool) :
    (fuel : Nat) → Reader (Node (List Char))
  | 0, _ => none
  | fuel + 1, ts =>
    match ts with
    | .alias name :: rest => some (.alias name, rest)
    | _ =>
      match readProperties handles ts with
      | none => none
      | some (p, ts) =>
        match ts with
        | .scalar style text :: rest =>
          some (.scalar (if p.tag = some ['!'] then { p with tag := none } else p) style text, rest)
        | .flowSequenceStart :: rest =>
          (readFlowItems handles fuel true rest).map fun (items, rest) =>
            (.sequence p items, rest)
        | .flowMappingStart :: rest =>
          (readFlowEntries handles fuel true rest).map fun (entries, rest) =>
            (.mapping p entries, rest)
        | .blockSequenceStart :: rest =>
          if block then
            (readBlockItems handles fuel rest).map fun (items, rest) => (.sequence p items, rest)
          else readEmpty p ts
        | .blockMappingStart :: rest =>
          if block then
            (readBlockEntries handles fuel rest).map fun (entries, rest) =>
              (.mapping p entries, rest)
          else readEmpty p ts
        | .blockEntry :: _ =>
          if indentless then
            (readIndentlessItems handles fuel ts).map fun (items, rest) =>
              (.sequence p items, rest)
          else readEmpty p ts
        | _ => readEmpty p ts

/-- A node of which only properties are written. -/
def readEmpty (p : Properties) : Reader (Node (List Char)) := fun ts =>
  if p.anchor.isNone && p.tag.isNone then none else some (.scalar p .plain [], ts)

/-- Reads the items of a block sequence. -/
def readBlockItems (handles : Handles) : (fuel : Nat) → Reader (List (Node (List Char)))
  | 0, _ => none
  | fuel + 1, ts =>
    match ts with
    | .blockEnd :: rest => some ([], rest)
    | .blockEntry :: rest => do
      let (item, rest) ← readOrEmpty endsBlockItem (read handles true false fuel) rest
      let (items, rest) ← readBlockItems handles fuel rest
      return (item :: items, rest)
    | _ => none

/-- Reads the items of a block sequence without indentation of its own. -/
def readIndentlessItems (handles : Handles) : (fuel : Nat) → Reader (List (Node (List Char)))
  | 0, _ => none
  | fuel + 1, ts =>
    match ts with
    | .blockEntry :: rest => do
      let left (ts : List Token) : Bool := endsBlockItem ts || endsBlockEntry ts
      let (item, rest) ← readOrEmpty left (read handles true false fuel) rest
      let (items, rest) ← readIndentlessItems handles fuel rest
      return (item :: items, rest)
    | _ => some ([], ts)

/-- Reads the entries of a block mapping. -/
def readBlockEntries (handles : Handles) :
    (fuel : Nat) → Reader (List (Node (List Char) × Node (List Char)))
  | 0, _ => none
  | fuel + 1, ts =>
    match ts with
    | .blockEnd :: rest => some ([], rest)
    | .key :: rest => do
      let (key, rest) ← readOrEmpty endsBlockEntry (read handles true true fuel) rest
      let (value, rest) ← readBlockValue handles fuel rest
      let (entries, rest) ← readBlockEntries handles fuel rest
      return ((key, value) :: entries, rest)
    | _ => none

/-- Reads the value of an entry of a block mapping. -/
def readBlockValue (handles : Handles) : (fuel : Nat) → Reader (Node (List Char))
  | 0, _ => none
  | fuel + 1, ts =>
    match ts with
    | .value :: rest => readOrEmpty endsBlockEntry (read handles true true fuel) rest
    | _ => some (empty, ts)

/-- Reads the items of a flow sequence, of which one is already read unless `first` holds. -/
def readFlowItems (handles : Handles) :
    (fuel : Nat) → (first : Bool) → Reader (List (Node (List Char)))
  | 0, _, _ => none
  | fuel + 1, first, ts =>
    match first, ts with
    | _, .flowSequenceEnd :: rest => some ([], rest)
    | false, .flowEntry :: .flowSequenceEnd :: rest => some ([], rest)
    | false, .flowEntry :: rest => do
      let (item, rest) ← readFlowItem handles fuel rest
      let (items, rest) ← readFlowItems handles fuel false rest
      return (item :: items, rest)
    | false, _ => none
    | true, ts => do
      let (item, rest) ← readFlowItem handles fuel ts
      let (items, rest) ← readFlowItems handles fuel false rest
      return (item :: items, rest)

/-- Reads an item of a flow sequence, which may be a single pair. A pair without a key takes the
token in front of which the key would stand. -/
def readFlowItem (handles : Handles) : (fuel : Nat) → Reader (Node (List Char))
  | 0, _ => none
  | fuel + 1, ts =>
    match ts with
    | .key :: rest => do
      let (key, rest) ←
        match rest with
        | .value :: rest | .flowEntry :: rest | .flowSequenceEnd :: rest => some (empty, rest)
        | _ => read handles false false fuel rest
      let (value, rest) ←
        match rest with
        | .value :: rest => readOrEmpty endsFlowPair (read handles false false fuel) rest
        | _ => some (empty, rest)
      return (.mapping {} [(key, value)], rest)
    | _ => read handles false false fuel ts

/-- Reads the entries of a flow mapping, of which one is already read unless `first` holds. -/
def readFlowEntries (handles : Handles) :
    (fuel : Nat) → (first : Bool) → Reader (List (Node (List Char) × Node (List Char)))
  | 0, _, _ => none
  | fuel + 1, first, ts =>
    match first, ts with
    | _, .flowMappingEnd :: rest => some ([], rest)
    | false, .flowEntry :: .flowMappingEnd :: rest => some ([], rest)
    | false, .flowEntry :: rest => do
      let (entry, rest) ← readFlowEntry handles fuel rest
      let (entries, rest) ← readFlowEntries handles fuel false rest
      return (entry :: entries, rest)
    | false, _ => none
    | true, ts => do
      let (entry, rest) ← readFlowEntry handles fuel ts
      let (entries, rest) ← readFlowEntries handles fuel false rest
      return (entry :: entries, rest)

/-- Reads an entry of a flow mapping; one without a key indicator has no value. -/
def readFlowEntry (handles : Handles) :
    (fuel : Nat) → Reader (Node (List Char) × Node (List Char))
  | 0, _ => none
  | fuel + 1, ts =>
    match ts with
    | .key :: rest => do
      let left (ts : List Token) : Bool := endsFlowValue ts || ts.head? == some .value
      let (key, rest) ← readOrEmpty left (read handles false false fuel) rest
      let (value, rest) ←
        match rest with
        | .value :: rest => readOrEmpty endsFlowValue (read handles false false fuel) rest
        | _ => some (empty, rest)
      return ((key, value), rest)
    | _ => (read handles false false fuel ts).map fun (key, rest) => ((key, empty), rest)

end

/-- Reads the directives in front of a document: whether there is a version, and the handles. Only
versions 1.1 and 1.2 are known, and nothing may be declared twice. -/
def readDirectives : (version : Bool) → Handles → Reader Handles
  | version, handles, .version major minor :: rest =>
    if version || major != 1 || !(minor == 1 || minor == 2) then none
    else readDirectives true handles rest
  | version, handles, .tagDirective handle uri :: rest =>
    if (handles.lookup handle).isSome then none
    else readDirectives version ((handle, uri) :: handles) rest
  | _, handles, ts => some (handles, ts)

/-- Whether the tokens begin with one that stands between documents. -/
def betweenDocuments : List Token → Bool
  | .version _ _ :: _ | .tagDirective _ _ :: _ | .documentStart :: _ | .documentEnd :: _
  | .streamEnd :: _ => true
  | _ => false

/-- Reads a document. -/
def readDocument (fuel : Nat) : Reader (Node (List Char))
  | [.streamEnd] => some (empty, [.streamEnd])
  | ts =>
    if betweenDocuments ts && ts.head? != some .documentEnd then do
      let (handles, ts) ← readDirectives false [] ts
      match ts with
      | .documentStart :: rest => readOrEmpty betweenDocuments (read handles true false fuel) rest
      | _ => none
    else read [] true false fuel ts

/-- The document of a list of tokens; nothing if there is another one behind it. -/
def ofTokens? (ts : List Token) : Option (Node (List Char)) := do
  let (node, rest) ← readDocument (4 * ts.length + 4) ts
  if rest.dropWhile (· == .documentEnd) = [.streamEnd] then return node else none

/-- The document of a text. -/
def ofText? (s : String) : Option (Node (List Char)) := (tokens? s.toList).bind ofTokens?

end Node

end Scaffold.Yaml
