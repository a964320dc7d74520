/-!
# Punycode

A list of code points as a text of ASCII letters, digits and hyphens. The ASCII characters come
first; then numbers of variable length say where, and how much further in the order of code
points, each of the others is to be inserted.
-/

namespace Scaffold.Host.Punycode

/-- The digit threshold at the position `k`, which is a multiple of 36. -/
def threshold (bias k : Nat) : Nat := if k ≤ bias then 1 else if bias + 26 ≤ k then 26 else k - bias

/-- The bias that a sequence of differences suggests: how often they are divided by 35 before they
fit a short number. -/
def adaptFrom (delta k : Nat) : Nat :=
  if 455 < delta then adaptFrom (delta / 35) (k + 36) else k + 36 * delta / (delta + 38)
  termination_by delta
  decreasing_by omega

/-- The bias after the difference `delta` with `points` characters. -/
def adapt (delta points : Nat) (first : Bool) : Nat :=
  let delta := if first then delta / 700 else delta / 2
  adaptFrom (delta + delta / points) 0

/-- The character of a digit. -/
def digitChar (d : Nat) : Char :=
  if d < 26 then Char.ofNat (d + 0x61) else Char.ofNat (d - 26 + 0x30)

/-- The value of a digit. -/
def digitValue? (c : Char) : Option Nat :=
  let n := c.toNat
  if 0x61 ≤ n ∧ n ≤ 0x7A then some (n - 0x61)
  else if 0x41 ≤ n ∧ n ≤ 0x5A then some (n - 0x41)
  else if 0x30 ≤ n ∧ n ≤ 0x39 then some (n - 0x30 + 26)
  else none

theorem threshold_pos (bias k : Nat) : 1 ≤ threshold bias k := by
  unfold threshold
  split
  · exact Nat.le_refl 1
  · split <;> omega

/-- The digits of a number of variable length, from the position `k` on. -/
def writeNumber (bias k q : Nat) : List Char :=
  let t := threshold bias k
  if q < t then [digitChar q]
  else digitChar (t + (q - t) % (36 - t)) :: writeNumber bias (k + 36) ((q - t) / (36 - t))
  termination_by q
  decreasing_by
    have h := threshold_pos bias k
    have hle := Nat.div_le_self (q - threshold bias k) (36 - threshold bias k)
    omega

/-- How far the encoding has come. -/
structure EncodeState where
  /-- The code point that is encoded. -/
  code : Nat := 0x80
  delta : Nat := 0
  bias : Nat := 72
  /-- The number of characters that are encoded. -/
  handled : Nat
  text : List Char

/-- Goes past a character of the input while the code point of the state is encoded. -/
def EncodeState.pass (basic : Nat) (s : EncodeState) (c : Nat) : EncodeState :=
  if c < s.code then { s with delta := s.delta + 1 }
  else if c = s.code then
    { s with
      text := s.text ++ writeNumber s.bias 36 s.delta
      bias := adapt s.delta (s.handled + 1) (s.handled == basic)
      delta := 0
      handled := s.handled + 1 }
  else s

/-- Encodes every occurrence of the code point `m`, which is the next one in order. -/
def EncodeState.encode (basic : Nat) (input : List Nat) (s : EncodeState) (m : Nat) :
    EncodeState :=
  let s := { s with code := m, delta := s.delta + (m - s.code) * (s.handled + 1) }
  let s := input.foldl (pass basic) s
  { s with code := s.code + 1, delta := s.delta + 1 }

/-- Inserts a number into a list that is in order, unless it is there. -/
def insertOrdered (n : Nat) : List Nat → List Nat
  | [] => [n]
  | m :: rest =>
    if n = m then m :: rest else if n < m then n :: m :: rest else m :: insertOrdered n rest

/-- The encoding of a list of code points. -/
def encode (input : List Nat) : List Char :=
  let basic := (input.filter (· < 0x80)).map Char.ofNat
  let others := (input.filter (0x80 ≤ ·)).foldl (fun l n => insertOrdered n l) []
  let start : EncodeState :=
    { handled := basic.length, text := if basic.isEmpty then [] else basic ++ ['-'] }
  (others.foldl (EncodeState.encode basic.length input) start).text

/-- How far the decoding has come. -/
structure DecodeState where
  code : Nat := 0x80
  /-- The place of the last insertion, plus the differences since then. -/
  index : Nat := 0
  bias : Nat := 72
  output : List Nat
  /-- The place before the number that is being read. -/
  start : Nat := 0
  weight : Nat := 1
  k : Nat := 36

/-- Reads a digit; at the end of a number a character is inserted. -/
def DecodeState.read (s : DecodeState) (digit : Nat) : DecodeState :=
  let index := s.index + digit * s.weight
  let t := threshold s.bias s.k
  if digit < t then
    let length := s.output.length + 1
    let code := s.code + index / length
    let place := index % length
    { code
      index := place + 1
      bias := adapt (index - s.start) length (s.start == 0)
      output := s.output.take place ++ code :: s.output.drop place
      start := place + 1 }
  else { s with index, weight := s.weight * (36 - t), k := s.k + 36 }

/-- Decodes the digits of a text. -/
def decodeFrom (s : DecodeState) : List Char → Option (List Nat)
  | [] => if s.weight = 1 ∧ s.k = 36 then some s.output else none
  | c :: rest =>
    match digitValue? c with
    | none => none
    | some d =>
      let s := s.read d
      if s.code < 0x110000 then decodeFrom s rest else none

/-- The code points that a text encodes. -/
def decode (cs : List Char) : Option (List Nat) :=
  let behind := (cs.reverse.takeWhile (· != '-')).reverse
  let basic := cs.take (cs.length - behind.length - 1)
  decodeFrom { output := basic.map Char.toNat } behind

end Scaffold.Host.Punycode
