import Mathlib.Data.Bool.AllAny
import Scaffold.Proofs.Text.Hex
import Scaffold.Url.Percent

/-!
# Percent encoding

A text that has been encoded is not changed by encoding it again, as its characters stand for
themselves; and a text without a percent sign is not changed by decoding.
-/

namespace Scaffold.Url

/-! ## Encoding -/

/-- A character that is written as it is where those of a set are encoded. -/
structure Stands (set : List Char) (c : Char) : Prop where
  blank_le : 0x20 ≤ c.toNat
  ascii : c.toNat < 0x7F
  not_mem : c ∉ set

instance (set : List Char) (c : Char) : Decidable (Stands set c) :=
  decidable_of_iff (0x20 ≤ c.toNat ∧ c.toNat < 0x7F ∧ c ∉ set)
    ⟨fun ⟨hblank, hascii, hset⟩ => ⟨hblank, hascii, hset⟩,
      fun h => ⟨h.blank_le, h.ascii, h.not_mem⟩⟩

/-- Where blanks are encoded, what stands for itself shows. -/
theorem Stands.visible {set : List Char} {c : Char} (h : Stands set c) (hset : ' ' ∈ set) :
    0x20 < c.toNat := by
  refine Nat.lt_of_le_of_ne h.blank_le fun heq => h.not_mem ?_
  rw [← Char.ofNat_toNat c, ← heq]
  exact hset

/-- The characters by which others are encoded. -/
def encodingChars : List Char := "%0123456789ABCDEF".toList

section
variable {set cs : List Char} {c : Char}

/-- A byte is encoded by such characters. -/
theorem mem_of_mem_encodeByte {b : UInt8} (h : c ∈ encodeByte b) : c ∈ encodingChars := by
  rcases List.mem_cons.1 h with rfl | h
  · decide
  · obtain ⟨d, hd, rfl⟩ := Text.exists_of_mem_upperHex h
    have hall : ∀ d < 16, Text.upperHexDigit d ∈ encodingChars := by decide
    exact hall d hd

/-- An encoded text has its characters, and those of the encoding. -/
theorem mem_of_mem_encode (h : c ∈ encode set cs) : c ∈ cs ∨ c ∈ encodingChars := by
  obtain ⟨a, ha, h⟩ := List.mem_flatMap.1 h
  split at h
  · obtain ⟨b, -, hb⟩ := List.mem_flatMap.1 h
    exact .inr (mem_of_mem_encodeByte hb)
  · exact .inl (List.mem_singleton.1 h ▸ ha)

/-- What is encoded stands for itself, unless the set has a character of the encoding. -/
theorem stands_of_mem_encode (hset : ∀ c ∈ encodingChars, c ∉ set) (h : c ∈ encode set cs) :
    Stands set c := by
  obtain ⟨a, -, h⟩ := List.mem_flatMap.1 h
  split at h
  · obtain ⟨b, -, hb⟩ := List.mem_flatMap.1 h
    have hmem := mem_of_mem_encodeByte hb
    have hall : ∀ c ∈ encodingChars, 0x20 ≤ c.toNat ∧ c.toNat < 0x7F :=
      List.all_iff_forall_prop.1 (by decide)
    exact ⟨(hall c hmem).1, (hall c hmem).2, hset c hmem⟩
  · next hcond =>
    rw [List.mem_singleton.1 h]
    simp only [Bool.or_eq_true, decide_eq_true_eq, not_or, Nat.not_lt, Nat.not_le] at hcond
    exact ⟨hcond.1.1, hcond.1.2, fun hmem => hcond.2 (List.contains_iff_mem.2 hmem)⟩

/-- Characters that stand for themselves are not encoded. -/
theorem encode_of_stands (h : ∀ c ∈ cs, Stands set c) : encode set cs = cs := by
  have hchar : ∀ c ∈ cs,
      (if c.toNat < 0x20 || 0x7F ≤ c.toNat || set.contains c then encodeChar c else [c]) =
      [c] := fun c hc => by
    rw [if_neg]
    simp only [Bool.or_eq_true, decide_eq_true_eq, not_or, Nat.not_lt, Nat.not_le]
    exact ⟨⟨(h c hc).blank_le, (h c hc).ascii⟩,
      fun hmem => (h c hc).not_mem (List.contains_iff_mem.1 hmem)⟩
  rw [encode, List.flatMap_congr hchar, List.flatMap_singleton']

end

/-! ## Decoding -/

section
variable {cs : List Char}

/-- The bytes of an array in order, behind those that are listed in reverse. -/
theorem toList_loop (bytes : ByteArray) (i : Nat) (done : List UInt8) :
    ByteArray.toList.loop bytes i done = done.reverse ++ bytes.data.toList.drop i := by
  fun_induction ByteArray.toList.loop bytes i done with
  | case1 i done hlt ih =>
    have hlength : i < bytes.data.toList.length := by simpa using hlt
    have hget : bytes.get! i = bytes.data.toList[i] := getElem!_pos bytes.data i hlt
    rw [ih, List.drop_eq_getElem_cons hlength, hget, List.reverse_cons, List.append_assoc,
      List.singleton_append]
  | case2 i done hle =>
    rw [List.drop_eq_nil_of_le (by simpa using hle), List.append_nil]

/-- The bytes of a character. -/
theorem toList_singleton (c : Char) :
    (String.singleton c).toUTF8.toList = String.utf8EncodeChar c := by
  rw [String.toUTF8_eq_toByteArray, String.toByteArray_singleton, List.utf8Encode_singleton,
    ByteArray.toList, toList_loop, List.reverse_nil, List.nil_append, List.drop_zero,
    List.toList_data_toByteArray]

/-- Without a percent sign, the bytes are those of the characters. -/
theorem decodeBytes_eq (h : '%' ∉ cs) : decodeBytes cs = cs.flatMap String.utf8EncodeChar := by
  induction cs with
  | nil => rfl
  | cons c cs ih =>
    rw [List.mem_cons, not_or] at h
    rw [decodeBytes, toList_singleton, ih h.2, List.flatMap_cons]
    exact fun _ _ _ hpercent => absurd hpercent.symm h.1

/-- A text without a percent sign is decoded to itself. -/
theorem decode?_eq_self (h : '%' ∉ cs) : decode? cs = some cs := by
  have hbytes : (decodeBytes cs).toByteArray = (String.ofList cs).toByteArray := by
    rw [decodeBytes_eq h, String.toByteArray_ofList, List.utf8Encode]
  have hread : String.fromUTF8? (String.ofList cs).toByteArray = some (String.ofList cs) := by
    rw [String.fromUTF8?, dif_pos (String.ofList cs).isValidUTF8]
    rfl
  rw [decode?, hbytes, hread, Option.map_some, String.toList_ofList]

end

end Scaffold.Url
