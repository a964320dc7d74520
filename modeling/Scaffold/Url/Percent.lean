import Scaffold.Text.Hex

/-!
# Percent encoding

The bytes of a character in UTF-8 as percent signs with two digits each. Every part of a URL has
its own set of characters that are encoded; those beyond ASCII and the control characters are
encoded everywhere.
-/

namespace Scaffold.Url

/-- A byte as a percent sign and two digits. -/
def encodeByte (b : UInt8) : List Char := '%' :: Text.upperHex 2 b.toNat

/-- A character as the encodings of its bytes. -/
def encodeChar (c : Char) : List Char := (String.singleton c).toUTF8.toList.flatMap encodeByte

/-- A text with the characters of a set encoded. -/
def encode (set : List Char) (cs : List Char) : List Char :=
  cs.flatMap fun c =>
    if c.toNat < 0x20 || 0x7F ≤ c.toNat || set.contains c then encodeChar c else [c]

/-- The characters that are encoded in a fragment. -/
def fragmentSet : List Char := " \"<>\x60".toList

/-- The characters that are encoded in a path. -/
def pathSet : List Char := fragmentSet ++ "#?\x7b\x7d".toList

/-- The characters that are encoded in front of a host. -/
def userinfoSet : List Char := pathSet ++ "/:;=@[\\]^|".toList

/-- The characters that are encoded in a query. -/
def querySet (special : Bool) : List Char :=
  " \"#<>".toList ++ if special then ['\''] else []

/-- The bytes of a text in which the encoded ones are decoded. -/
def decodeBytes : List Char → List UInt8
  | '%' :: a :: b :: rest =>
    match Text.ofHex? [a, b] with
    | some n => n.toUInt8 :: decodeBytes rest
    | none => '%'.toNat.toUInt8 :: decodeBytes (a :: b :: rest)
  | c :: rest => (String.singleton c).toUTF8.toList ++ decodeBytes rest
  | [] => []

/-- A text with the encoded bytes decoded; nothing if the bytes are no text. -/
def decode? (cs : List Char) : Option (List Char) :=
  (String.fromUTF8? (decodeBytes cs).toByteArray).map String.toList

end Scaffold.Url
