import Scaffold.Host.Name
import Scaffold.Text.Hex
import Scaffold.Url.Error

/-!
# Hosts

The host of a URL is a name or an address. A name whose last label is a number is an address of
four bytes, in which the last number may stand for several of them; an address in brackets has
eight numbers of sixteen bits, and in writing the longest run of zeros is left out.
-/

namespace Scaffold

/-- A host. -/
inductive Host where
  | name (text : List Char)
  /-- The number of an address of four bytes. -/
  | ipv4 (address : Nat)
  /-- The numbers of an address in brackets. -/
  | ipv6 (pieces : List Nat)
  deriving DecidableEq, Repr

namespace Host

/-- The value of a number of an address, which may be octal or hexadecimal; zero digits behind a
mark of the base are a zero. -/
def number? (cs : List Char) : Option Nat :=
  let value (base : Nat) (ds : List Char) : Option Nat :=
    ds.foldlM (fun n c =>
      match Text.hexValue? c with
      | some d => if d < base then some (base * n + d) else none
      | none => none) 0
  match cs with
  | [] => none
  | '0' :: 'x' :: ds | '0' :: 'X' :: ds => value 16 ds
  | ['0'] => some 0
  | '0' :: ds => value 8 ds
  | ds => value 10 ds

/-- The parts between the dots, without an empty one at the end. -/
def parts (cs : List Char) : List (List Char) :=
  let ps := Name.labels cs
  if ps.getLast? == some [] then ps.dropLast else ps

/-- Whether the last label of a name is a number. -/
def endsInNumber (cs : List Char) : Bool :=
  match (parts cs).getLast? with
  | none => false
  | some [] => false
  | some last => last.all Char.isDigit || (number? last).isSome

/-- Reads an address of four bytes. -/
def readIpv4? (cs : List Char) : Option Nat := do
  let numbers ← (parts cs).mapM number?
  if 4 < numbers.length then none
  else
    let bytes := numbers.dropLast
    let last ← numbers.getLast?
    let room := Nat.pow 256 (4 - bytes.length)
    if bytes.any (255 < ·) || room ≤ last then none
    else return bytes.foldl (fun n b => 256 * n + b) 0 * room + last

/-- Reads a byte of an address in brackets that ends in four bytes. -/
def readByte? (cs : List Char) : Option (Nat × List Char) :=
  let ds := cs.takeWhile Char.isDigit
  let n := ds.foldl (fun n c => 10 * n + (c.toNat - 0x30)) 0
  if ds.isEmpty || (1 < ds.length && ds.head? == some '0') || 255 < n then none
  else some (n, cs.drop ds.length)

/-- What follows a dot. -/
def afterDot? : List Char → Option (List Char)
  | '.' :: rest => some rest
  | _ => none

/-- Reads four bytes as two numbers. -/
def readBytes? (cs : List Char) : Option (List Nat) := do
  let (a, cs) ← readByte? cs
  let (b, cs) ← readByte? (← afterDot? cs)
  let (c, cs) ← readByte? (← afterDot? cs)
  let (d, cs) ← readByte? (← afterDot? cs)
  if cs.isEmpty then return [a * 256 + b, c * 256 + d] else none

/-- Reads the numbers of an address in brackets on from `pieces`; `gap` is the place of the run of
zeros that is left out. -/
def readPieces? : (fuel : Nat) → (pieces : List Nat) → (gap : Option Nat) → List Char →
    Option (List Nat × Option Nat)
  | 0, _, _, _ => none
  | _, pieces, gap, [] => some (pieces, gap)
  | fuel + 1, pieces, gap, c :: rest =>
    if 8 ≤ pieces.length + (if gap.isSome then 1 else 0) then none
    else if c == ':' then
      if gap.isSome then none else readPieces? fuel pieces (some pieces.length) rest
    else
      let digits := ((c :: rest).take 4).takeWhile Text.isHexDigit
      let behind := (c :: rest).drop digits.length
      let value := (Text.ofHex? digits).getD 0
      match behind with
      | [] => some (pieces ++ [value], gap)
      | '.' :: _ =>
        if digits.isEmpty || 6 < pieces.length + (if gap.isSome then 1 else 0) then none
        else (readBytes? (c :: rest)).map fun two => (pieces ++ two, gap)
      | [':'] => none
      | ':' :: rest =>
        if digits.isEmpty then none else readPieces? fuel (pieces ++ [value]) gap rest
      | _ => none

/-- Reads an address in brackets. -/
def readIpv6? (cs : List Char) : Option (List Nat) := do
  let (pieces, gap) ←
    match cs with
    | ':' :: ':' :: rest => readPieces? (cs.length + 1) [] (some 0) rest
    | ':' :: _ => none
    | _ => if cs.length < 2 then none else readPieces? (cs.length + 1) [] none cs
  match gap with
  | some n =>
    return pieces.take n ++ List.replicate (8 - pieces.length) 0 ++ pieces.drop n
  | none => if pieces.length = 8 then return pieces else none

/-- The text of an address of four bytes. -/
def writeIpv4 (address : Nat) : String :=
  ".".intercalate ([3, 2, 1, 0].map fun i => toString (address / Nat.pow 256 i % 256))

/-- The length of the run of zeros at the start of a list. -/
def zeros (l : List Nat) : Nat := (l.takeWhile (· == 0)).length

/-- The place and the length of the longest run of zeros, the first of several. -/
def longestZeros (pieces : List Nat) : Nat × Nat :=
  (List.range pieces.length).foldl
    (fun best i => if best.2 < zeros (pieces.drop i) then (i, zeros (pieces.drop i)) else best)
    (0, 0)

/-- The text of the numbers of an address in brackets. -/
def writeIpv6 (pieces : List Nat) : String :=
  let hex (l : List Nat) : String := ":".intercalate (l.map fun n => String.ofList (Text.toHex n))
  let (place, length) := longestZeros pieces
  if length < 2 then hex pieces
  else hex (pieces.take place) ++ "::" ++ hex (pieces.drop (place + length))

/-- The text of a host in a URL. -/
def text : Host → String
  | name cs => String.ofList cs
  | ipv4 n => writeIpv4 n
  | ipv6 pieces => "[" ++ writeIpv6 pieces ++ "]"

end Host

end Scaffold
