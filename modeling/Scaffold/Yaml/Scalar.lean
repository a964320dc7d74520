import Scaffold.Text.Hex
import Scaffold.Yaml.Cursor
import Scaffold.Yaml.Token

/-!
# YAML scalars

Plain, quoted and block scalars. In plain and quoted ones a gap of blanks and breaks between two
words is folded: blanks alone stand for themselves, one break for a space, more breaks for all but
the first of them.
-/

namespace Scaffold.Yaml

/-- A gap between two words of a scalar. -/
structure Gap where
  /-- The blanks in front of the first break. -/
  blanks : List Char := []
  /-- Whether there is a break. -/
  broken : Bool := false
  /-- The first break; nothing if that is escaped. -/
  first : List Char := []
  /-- The other breaks. -/
  others : List Char := []
  deriving Repr

/-- What a gap stands for. -/
def Gap.text (g : Gap) : List Char :=
  if g.broken then
    if g.first = ['\n'] then (if g.others.isEmpty then [' '] else g.others)
    else g.first ++ g.others
  else g.blanks

/-- Reads a gap on from `g`. Behind a break no tab may stand in front of the column `indent`. -/
def readGap (indent : Nat) : (fuel : Nat) → Gap → Cursor → Option (Gap × Cursor)
  | 0, _, _ => none
  | fuel + 1, g, c =>
    match c.rest with
    | [] => some (g, c)
    | d :: _ =>
      if isBlank d then
        if g.broken then
          if d == '\t' && c.column < indent then none else readGap indent fuel g (c.skip 1)
        else readGap indent fuel { g with blanks := g.blanks ++ [d] } (c.skip 1)
      else if isBreak d then
        let (text, c) := c.readBreak
        if g.broken then readGap indent fuel { g with others := g.others ++ text } c
        else readGap indent fuel { broken := true, first := text } c
      else some (g, c)

/-- The characters that end a plain scalar inside a flow collection. -/
def isFlowIndicator (c : Char) : Bool :=
  c == ',' || c == '[' || c == ']' || c == '\x7b' || c == '\x7d'

/-- The word of a plain scalar in front of a text. Inside a flow collection a colon must not stand
directly in front of an indicator. -/
def plainWord (flow : Bool) : List Char → Option (List Char)
  | [] => some []
  | c :: rest =>
    if isSeparator c then some []
    else if c == ':' then
      if flow && rest.head?.any (fun d => isFlowIndicator d || d == '?') then none
      else if endsHere rest then some []
      else (plainWord flow rest).map (c :: ·)
    else if flow && isFlowIndicator c then some []
    else (plainWord flow rest).map (c :: ·)

/-- Reads a plain scalar on from `text` and the gap behind that. The lines of a plain scalar in a
block are indented to the column `indent` at least. The result says whether a break follows. -/
def readPlain (flow : Bool) (indent : Nat) :
    (fuel : Nat) → List Char → Gap → Cursor → Option (List Char × Bool × Cursor)
  | 0, _, _, _ => none
  | fuel + 1, text, gap, c =>
    if c.atDocumentMark || c.next? == some '#' then some (text, gap.broken, c)
    else
      match plainWord flow c.rest with
      | none => none
      | some [] => some (text, gap.broken, c)
      | some word =>
        let text := text ++ gap.text ++ word
        let c := c.skip word.length
        if !(c.atBlank || c.atBreak) then some (text, false, c)
        else
          match readGap indent (c.rest.length + 1) {} c with
          | none => none
          | some (gap, c) =>
            if !flow && c.column < indent then some (text, gap.broken, c)
            else readPlain flow indent fuel text gap c

/-- The run of a single-quoted scalar up to a blank, a break or the closing quote, and how many
characters it takes. -/
def singleRun : List Char → List Char × Nat
  | '\'' :: '\'' :: rest =>
    let (text, n) := singleRun rest
    ('\'' :: text, n + 2)
  | c :: rest =>
    if c == '\'' || isSeparator c then ([], 0)
    else
      let (text, n) := singleRun rest
      (c :: text, n + 1)
  | [] => ([], 0)

/-- What stands behind a backslash. -/
inductive Escape where
  /-- A character that stands for another one. -/
  | char (c : Char)
  /-- The announcement of hexadecimal digits. -/
  | digits (n : Nat)

/-- The meaning of a character behind a backslash. -/
def escape? : Char → Option Escape
  | '0' => some (.char '\x00')
  | 'a' => some (.char '\x07')
  | 'b' => some (.char '\x08')
  | 't' | '\t' => some (.char '\t')
  | 'n' => some (.char '\n')
  | 'v' => some (.char '\x0b')
  | 'f' => some (.char '\x0c')
  | 'r' => some (.char '\r')
  | 'e' => some (.char '\x1b')
  | ' ' => some (.char ' ')
  | '"' => some (.char '"')
  | '/' => some (.char '/')
  | '\\' => some (.char '\\')
  | 'N' => some (.char '\u0085')
  | '_' => some (.char '\u00a0')
  | 'L' => some (.char '\u2028')
  | 'P' => some (.char '\u2029')
  | 'x' => some (.digits 2)
  | 'u' => some (.digits 4)
  | 'U' => some (.digits 8)
  | _ => none

/-- The character of a code point; none of the surrogates is one. -/
def charOfCode? (n : Nat) : Option Char :=
  if n.isValidChar then some (Char.ofNat n) else none

/-- The run of a double-quoted scalar up to a blank, a break, an escaped break or the closing
quote, and how many characters it takes. -/
def doubleRun (cs : List Char) : Option (List Char × Nat) :=
  match cs with
  | [] => some ([], 0)
  | '\\' :: rest =>
    match rest with
    | [] => none
    | c :: rest =>
      if isBreak c then some ([], 0)
      else
        match escape? c with
        | none => none
        | some (.char d) => (doubleRun rest).map fun (text, n) => (d :: text, n + 2)
        | some (.digits k) =>
          if rest.length < k then none
          else
            match (Text.ofHex? (rest.take k)).bind charOfCode? with
            | none => none
            | some d => (doubleRun (rest.drop k)).map fun (text, n) => (d :: text, n + 2 + k)
  | c :: rest =>
    if c == '"' || isSeparator c then some ([], 0)
    else (doubleRun rest).map fun (text, n) => (c :: text, n + 1)
  termination_by cs.length
  decreasing_by
    all_goals simp only [List.length_cons, List.length_drop]
    all_goals omega

/-- Reads a quoted scalar on from `text`, behind its opening quote. -/
def readQuoted (quote : Char) :
    (fuel : Nat) → List Char → Cursor → Option (List Char × Cursor)
  | 0, _, _ => none
  | fuel + 1, text, c =>
    if c.atDocumentMark || c.atEnd then none
    else
      match (if quote == '\'' then some (singleRun c.rest) else doubleRun c.rest) with
      | none => none
      | some (run, n) =>
        let text := text ++ run
        let c := c.skip n
        let (gap, c) : Gap × Cursor :=
          if quote == '"' && c.next? == some '\\' then
            ({ broken := true }, (c.skip 1).readBreak.2)
          else ({}, c)
        if c.next? == some quote then some (text, c.skip 1)
        else
          match readGap 0 (c.rest.length + 1) gap c with
          | none => none
          | some (gap, c) => readQuoted quote fuel (text ++ gap.text) c

/-- What becomes of the breaks at the end of a block scalar. -/
inductive Chomping where
  | strip
  | clip
  | keep
  deriving DecidableEq, Repr

/-- The header of a block scalar behind its indicator: the chomping, the indentation if it is
given, and the number of characters. -/
def blockHeader? : List Char → Option (Chomping × Option Nat × Nat)
  | cs =>
    let chomping? : Char → Option Chomping
      | '+' => some .keep
      | '-' => some .strip
      | _ => none
    let digit? (c : Char) : Option Nat := if c.isDigit then some (c.toNat - 0x30) else none
    match cs with
    | [] => some (.clip, none, 0)
    | a :: rest =>
      match chomping? a with
      | some ch =>
        match rest.head?.bind digit? with
        | some 0 => none
        | some n => some (ch, some n, 2)
        | none => some (ch, none, 1)
      | none =>
        match digit? a with
        | some 0 => none
        | some n =>
          match rest.head?.bind chomping? with
          | some ch => some (ch, some n, 2)
          | none => some (.clip, some n, 1)
        | none => some (.clip, none, 0)

/-- Reads the blank lines and the indentation in front of a line of a block scalar: the breaks,
and the furthest column. Without a given indentation all spaces are indentation. -/
def readIndentation (indent : Option Nat) :
    (fuel : Nat) → List Char → Nat → Cursor → Option (List Char × Nat × Cursor)
  | 0, _, _, _ => none
  | fuel + 1, breaks, furthest, c =>
    let spaces := (c.rest.takeWhile (· == ' ')).length
    let c := c.skip (match indent with
      | some n => min spaces (n - c.column)
      | none => spaces)
    let furthest := max furthest c.column
    if c.next? == some '\t' && (match indent with
        | some n => decide (c.column < n)
        | none => true) then none
    else if c.atBreak then
      let (text, c) := c.readBreak
      readIndentation indent fuel (breaks ++ text) furthest c
    else some (breaks, furthest, c)

/-- Reads the lines of a block scalar on from `text`; `first` and `breaks` are the breaks behind
that, and `blank` says whether its last line begins with a blank. The result is the text with the
last breaks apart. -/
def readBlockLines (literal : Bool) (indent : Nat) :
    (fuel : Nat) → (text first breaks : List Char) → (blank : Bool) → Cursor →
      Option (List Char × List Char × List Char × Cursor)
  | 0, _, _, _, _, _ => none
  | fuel + 1, text, first, breaks, blank, c =>
    if c.column != indent || c.atEnd then some (text, first, breaks, c)
    else
      let nextBlank := c.atBlank
      let joint :=
        if !literal && first.head? == some '\n' && !blank && !nextBlank then
          if breaks.isEmpty then [' '] else []
        else first
      let line := c.rest.takeWhile fun d => !isBreak d
      let (newFirst, c) := (c.skip line.length).readBreak
      match readIndentation (some indent) (c.rest.length + 1) [] 0 c with
      | none => none
      | some (newBreaks, _, c) =>
        readBlockLines literal indent fuel (text ++ joint ++ breaks ++ line) newFirst newBreaks
          nextBlank c

/-- Reads a block scalar behind its indicator, inside a block that is indented to the column
`parent`, if any. -/
def readBlock (literal : Bool) (parent : Option Nat) (c : Cursor) :
    Option (List Char × Cursor) := do
  let (chomping, given, n) ← blockHeader? c.rest
  let c := (c.skip n).skipBlanks.skipComment
  if !(c.atEnd || c.atBreak) then none
  else
    let (_, c) := c.readBreak
    let indent? := given.map fun g => (parent.getD 0) + g
    let (breaks, furthest, c) ← readIndentation indent? (c.rest.length + 1) [] 0 c
    let least := match parent with
      | some p => p + 1
      | none => 1
    let indent := indent?.getD (max furthest least)
    let (text, first, breaks, c) ←
      readBlockLines literal indent (c.rest.length + 1) [] [] breaks false c
    let text := match chomping with
      | .strip => text
      | .clip => text ++ first
      | .keep => text ++ first ++ breaks
    return (text, c)

end Scaffold.Yaml
