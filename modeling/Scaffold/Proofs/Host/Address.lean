import Scaffold.Host.Basic
import Scaffold.Proofs.Host.Name
import Scaffold.Proofs.Text.Hex

/-!
# Addresses

The address that a host is read as is read again from its text: the number of an address of four
bytes from `writeIpv4`, and the numbers of one in brackets from `writeIpv6`.
-/

namespace Scaffold.Host

/-! ## Addresses of four bytes -/

/-- The bytes of a number, as decimal numbers. -/
def decimals (n : Nat) : List (List Char) :=
  [3, 2, 1, 0].map fun i => Nat.toDigits 10 (n / Nat.pow 256 i % 256)

section
variable {n : Nat} {cs l : List Char}

/-- A byte is read from its decimal number. -/
theorem number?_toDigits : ∀ b < 256, number? (Nat.toDigits 10 b) = some b := by decide +kernel

/-- A digit is a plain character, and no dot. -/
theorem Name.isPlain_of_isDigit {c : Char} (h : c.isDigit = true) : IsPlain c ∧ c ≠ '.' := by
  have hascii : c.toNat < 0x80 := by
    simp only [Char.isDigit, Bool.and_eq_true, decide_eq_true_eq] at h
    exact Nat.lt_of_le_of_lt (UInt32.le_iff_toNat_le.1 h.2) (by decide)
  have hall := forall_ascii (p := fun c => c.isDigit = true → isValid c = true ∧
    c ≠ '.') (by decide) hascii h
  exact ⟨⟨hascii, hall.1⟩, hall.2⟩

/-- A number is a label. -/
theorem Name.label?_digits (h : ∀ c ∈ l, c.isDigit = true) : label? l = some (l, l) := by
  have hplain : ∀ c ∈ l, IsPlain c := fun c hc => (isPlain_of_isDigit (h c hc)).1
  have hencoded : ['x', 'n', '-', '-'].isPrefixOf l = false := by
    rw [Bool.eq_false_iff, ne_eq, List.isPrefixOf_iff_prefix]
    exact fun hbegin => absurd (h 'x' (hbegin.subset (.head _))) (by decide)
  have hvalid : l.all isValid = true := List.all_eq_true.2 fun c hc => (hplain c hc).valid
  rw [label?, hencoded, isWide_plain hplain, hvalid]
  rfl

/-- The numbers are digits. -/
theorem isDigit_of_mem_decimals (hl : l ∈ decimals n) : ∀ c ∈ l, c.isDigit = true := by
  obtain ⟨i, -, rfl⟩ := List.mem_map.1 hl
  exact fun c hc => Nat.isDigit_of_mem_toDigits (by decide) (by decide) hc

/-- The text of an address has the numbers of its bytes. -/
theorem labels_writeIpv4 (n : Nat) :
    (writeIpv4 n).toList = ['.'].intercalate (decimals n) ∧
      Name.labels (writeIpv4 n).toList = decimals n := by
  have htext : (writeIpv4 n).toList = ['.'].intercalate (decimals n) := by
    rw [writeIpv4, String.toList_intercalate]
    simp [decimals]
  refine ⟨htext, ?_⟩
  rw [htext]
  refine List.splitOn_intercalate '.' (fun l hl hdot => ?_) (List.cons_ne_nil _ _)
  exact absurd (isDigit_of_mem_decimals hl _ hdot) (by decide)

/-- The text of an address is its own ASCII form. -/
theorem ofText?_writeIpv4 (n : Nat) :
    (∀ c ∈ (writeIpv4 n).toList, Name.IsPlain c) ∧
      Name.ofText? (writeIpv4 n).toList = some (writeIpv4 n).toList := by
  obtain ⟨htext, hlabels⟩ := labels_writeIpv4 n
  have hplain : ∀ c ∈ (writeIpv4 n).toList, Name.IsPlain c := fun c hc => by
    rw [htext] at hc
    rcases Text.mem_of_mem_intercalate hc with hc | ⟨l, hl, hc⟩
    · rw [List.mem_singleton.1 hc]
      exact ⟨by decide, by decide⟩
    · exact (Name.isPlain_of_isDigit (isDigit_of_mem_decimals hl c hc)).1
  refine ⟨hplain, Name.ofText?_plain hplain fun l hl => ?_⟩
  rw [hlabels] at hl
  exact Name.label?_digits (isDigit_of_mem_decimals hl)

/-- No part of the text of an address is left out. -/
theorem parts_writeIpv4 (n : Nat) : parts (writeIpv4 n).toList = decimals n := by
  rw [parts, (labels_writeIpv4 n).2]
  exact if_neg (by simp [decimals])

/-- The text of an address ends in a number. -/
theorem endsInNumber_writeIpv4 (n : Nat) : endsInNumber (writeIpv4 n).toList = true := by
  have hlast : (decimals n).getLast? = some (Nat.toDigits 10 (n / Nat.pow 256 0 % 256)) := rfl
  have hdigits := isDigit_of_mem_decimals (List.mem_of_getLast? hlast)
  rw [endsInNumber, parts_writeIpv4, hlast]
  cases hd : Nat.toDigits 10 (n / Nat.pow 256 0 % 256) with
  | nil => exact absurd hd Nat.toDigits_ne_nil
  | cons d ds =>
    rw [hd] at hdigits
    exact Bool.or_eq_true_iff.2 (.inl (List.all_eq_true.2 hdigits))

/-- The text of an address is not empty. -/
theorem writeIpv4_ne_nil (n : Nat) : (writeIpv4 n).toList ≠ [] := fun h => by
  have hend := endsInNumber_writeIpv4 n
  rw [h] at hend
  exact absurd hend (by decide)

/-- The bytes of an address are read from its text. -/
theorem mapM_decimals (n : Nat) :
    (decimals n).mapM number? = some ([3, 2, 1, 0].map fun i => n / Nat.pow 256 i % 256) := by
  rw [decimals, List.mapM_map]
  have hnumber : (number? ∘ fun i => Nat.toDigits 10 (n / Nat.pow 256 i % 256)) =
      fun i => pure (n / Nat.pow 256 i % 256) :=
    funext fun i => number?_toDigits _ (Nat.mod_lt _ (by decide))
  rw [hnumber, List.mapM_pure]
  rfl

/-- An address is read from its text. -/
theorem readIpv4?_writeIpv4 (h : n < 2 ^ 32) : readIpv4? (writeIpv4 n).toList = some n := by
  rw [readIpv4?, parts_writeIpv4, mapM_decimals]
  simp
  omega

/-- Bytes make a number that fits them. -/
theorem foldl_bytes_lt {bytes : List Nat} (h : ∀ b ∈ bytes, b ≤ 255) (a : Nat) :
    bytes.foldl (fun n b => 256 * n + b) a < (a + 1) * 256 ^ bytes.length := by
  induction bytes generalizing a with
  | nil => simp
  | cons b bytes ih =>
    obtain ⟨hb, hbytes⟩ := List.forall_mem_cons.1 h
    refine Nat.lt_of_lt_of_le (ih hbytes (256 * a + b)) ?_
    rw [List.length_cons, Nat.pow_succ', ← Nat.mul_assoc]
    exact Nat.mul_le_mul_right _ (by omega)

/-- An address that is read has four bytes. -/
theorem lt_of_readIpv4? (h : readIpv4? cs = some n) : n < 2 ^ 32 := by
  rw [readIpv4?] at h
  simp only [Option.bind_eq_bind, Option.bind_eq_some_iff, Option.pure_def] at h
  obtain ⟨numbers, -, h⟩ := h
  split at h
  · cases h
  · next hlength =>
    obtain ⟨last, -, h⟩ := Option.bind_eq_some_iff.1 h
    split at h
    · cases h
    · next hfits =>
      simp only [Bool.or_eq_true, List.any_eq_true, decide_eq_true_eq, not_or, not_exists, not_and,
        Nat.not_lt, Nat.not_le] at hfits
      obtain ⟨hbytes, hlast⟩ := hfits
      have hfold := foldl_bytes_lt hbytes 0
      rw [Nat.zero_add, Nat.one_mul] at hfold
      have hle : numbers.dropLast.length ≤ 4 := by
        rw [List.length_dropLast]
        omega
      rw [← Option.some.inj h]
      calc
        _ < (numbers.dropLast.foldl (fun n b => 256 * n + b) 0 + 1) * 256 ^
          (4 - numbers.dropLast.length) := by
          rw [Nat.add_mul, Nat.one_mul]
          exact Nat.add_lt_add_left hlast _
        _ ≤ 256 ^ numbers.dropLast.length * 256 ^ (4 - numbers.dropLast.length) :=
          Nat.mul_le_mul_right _ hfold
        _ = 256 ^ 4 := by rw [← Nat.pow_add, Nat.add_sub_cancel' hle]

end

/-! ## Addresses in brackets -/

/-- Numbers with colons between them. -/
def hexText (l : List Nat) : List Char := [':'].intercalate (l.map Text.toHex)

section
variable {n m fuel : Nat} {l pieces : List Nat} {gap : Option Nat} {cs rest : List Char}

/-- The numbers that are read so far leave room for more. -/
def room (pieces : List Nat) (gap : Option Nat) : Nat :=
  8 - (pieces.length + if gap.isSome then 1 else 0)

/-- The digits of a number of sixteen bits stand in front of what is no digit. -/
theorem takeWhile_toHex (h : n < 65536) (hrest : ∀ c ∈ rest.head?, Text.isHexDigit c = false) :
    ((Text.toHex n ++ rest).take 4).takeWhile Text.isHexDigit = Text.toHex n := by
  have hlength : (Text.toHex n).length ≤ 4 :=
    (Nat.length_toDigits_le_iff (by decide) (by decide)).2 h
  obtain ⟨hdigits, -⟩ := Text.toHex_spec n
  rw [List.take_append, List.take_of_length_le hlength, List.takeWhile_append_of_pos hdigits]
  cases rest with
  | nil => simp
  | cons c rest =>
    cases hroom : 4 - (Text.toHex n).length with
    | zero => simp
    | succ k => rw [List.take_succ_cons, List.takeWhile_cons_of_neg (by simp [hrest c rfl]),
      List.append_nil]

/-- A number begins with a digit, and is its value. -/
theorem exists_toHex (n : Nat) (rest : List Char) :
    ∃ c cs, Text.toHex n ++ rest = c :: cs ∧ (c == ':') = false ∧
      (c :: cs).drop (Text.toHex n).length = rest ∧
      (Text.toHex n).isEmpty = false ∧ (Text.ofHex? (Text.toHex n)).getD 0 = n := by
  obtain ⟨hdigits, hvalue⟩ := Text.toHex_spec n
  cases hn : Text.toHex n with
  | nil => exact absurd hn Nat.toDigits_ne_nil
  | cons c cs =>
    refine ⟨c, cs ++ rest, rfl, ?_, List.drop_left, rfl, by rw [← hn, hvalue]; rfl⟩
    rw [beq_eq_false_iff_ne]
    rintro rfl
    exact absurd (hdigits ':' (hn ▸ .head _)) (by decide)

/-- A number is read up to the end, -/
theorem readPieces?_last (h : n < 65536) (hroom : 0 < room pieces gap) :
    readPieces? (fuel + 1) pieces gap (Text.toHex n) = some (pieces ++ [n], gap) := by
  have hend : ∀ c ∈ ([] : List Char).head?, Text.isHexDigit c = false := nofun
  have hdigits := takeWhile_toHex h hend
  obtain ⟨c, cs, hn, hne, hdrop, -, hvalue⟩ := exists_toHex n []
  have hfull : ¬8 ≤ pieces.length + (if gap.isSome then 1 else 0) := by
    rw [room] at hroom
    omega
  rw [hn] at hdigits
  rw [← List.append_nil (Text.toHex n), hn, readPieces?, if_neg hfull, hne]
  simp only [hdigits, hdrop, hvalue]
  rfl

/-- or up to a colon that does not stand at the end. -/
theorem readPieces?_colon (h : n < 65536) (hroom : 0 < room pieces gap) (hrest : rest ≠ []) :
    readPieces? (fuel + 1) pieces gap (Text.toHex n ++ ':' :: rest) =
      readPieces? fuel (pieces ++ [n]) gap rest := by
  have hend : ∀ c ∈ (':' :: rest).head?, Text.isHexDigit c = false := by
    rintro c hc
    obtain rfl := Option.some.inj hc
    decide
  have hdigits := takeWhile_toHex h hend
  obtain ⟨c, cs, hn, hne, hdrop, hempty, hvalue⟩ := exists_toHex n (':' :: rest)
  have hfull : ¬8 ≤ pieces.length + (if gap.isSome then 1 else 0) := by
    rw [room] at hroom
    omega
  obtain ⟨d, ds, rfl⟩ := List.exists_cons_of_ne_nil hrest
  rw [hn] at hdigits ⊢
  rw [readPieces?, if_neg hfull, hne]
  simp only [hdigits, hdrop, hempty, hvalue]
  rfl

/-- A colon where a number is expected marks the gap. -/
theorem readPieces?_gap (hroom : 0 < room pieces none) :
    readPieces? (fuel + 1) pieces none (':' :: rest) =
      readPieces? fuel pieces (some pieces.length) rest := by
  have hfull : ¬8 ≤ pieces.length + (if (none : Option Nat).isSome then 1 else 0) := by
    rw [room] at hroom
    omega
  rw [readPieces?, if_neg hfull]
  rfl

/-- Behind the first of several numbers stands a colon. -/
theorem hexText_cons (n : Nat) (hl : l ≠ []) :
    hexText (n :: l) = Text.toHex n ++ ':' :: hexText l := by
  obtain ⟨m, l, rfl⟩ := List.exists_cons_of_ne_nil hl
  simp [hexText]

/-- A text of numbers is at least as long as there are numbers. -/
theorem length_le_hexText (l : List Nat) : l.length ≤ (hexText l).length := by
  have hpos (n : Nat) : 0 < (Text.toHex n).length := Nat.length_toDigits_pos
  induction l with
  | nil => exact Nat.zero_le _
  | cons n l ih =>
    by_cases hl : l = []
    · subst hl
      rw [hexText, List.map_singleton, List.intercalate_singleton]
      exact hpos n
    · rw [hexText_cons n hl]
      simp only [List.length_append, List.length_cons]
      have hn := hpos n
      omega

/-- A text of numbers is not empty. -/
theorem hexText_ne_nil (hl : l ≠ []) : hexText l ≠ [] := fun h => by
  have hle := length_le_hexText l
  rw [h] at hle
  exact hl (List.length_eq_zero_iff.1 (Nat.le_zero.1 hle))

/-- A number that is read takes its room. -/
theorem room_append (h : (n :: l).length ≤ room pieces gap) :
    l.length ≤ room (pieces ++ [n]) gap := by
  simp only [room, List.length_cons, List.length_append, List.length_nil] at h ⊢
  omega

/-- Numbers are read up to the end, -/
theorem readPieces?_hexText (hl : l ≠ []) (h : ∀ n ∈ l, n < 65536)
    (hroom : l.length ≤ room pieces gap) (hfuel : l.length ≤ fuel) :
    readPieces? fuel pieces gap (hexText l) = some (pieces ++ l, gap) := by
  induction l generalizing pieces fuel with
  | nil => exact absurd rfl hl
  | cons n l ih =>
    obtain ⟨hn, h⟩ := List.forall_mem_cons.1 h
    obtain ⟨fuel, rfl⟩ := Nat.exists_eq_add_one.2 (Nat.lt_of_lt_of_le (Nat.succ_pos _) hfuel)
    have hpos := Nat.lt_of_lt_of_le (Nat.succ_pos _) hroom
    by_cases hl : l = []
    · subst hl
      rw [hexText, List.map_singleton, List.intercalate_singleton, readPieces?_last hn hpos]
    · rw [hexText_cons n hl, readPieces?_colon hn hpos (hexText_ne_nil hl),
        ih hl h (room_append hroom) (Nat.le_of_succ_le_succ hfuel), List.append_assoc,
        List.singleton_append]

/-- or up to a gap. -/
theorem readPieces?_hexText_gap (hl : l ≠ []) (h : ∀ n ∈ l, n < 65536)
    (hroom : l.length < room pieces none) :
    readPieces? (fuel + 1 + l.length) pieces none (hexText l ++ ':' :: ':' :: rest) =
      readPieces? fuel (pieces ++ l) (some (pieces ++ l).length) rest := by
  induction l generalizing pieces with
  | nil => exact absurd rfl hl
  | cons n l ih =>
    obtain ⟨hn, h⟩ := List.forall_mem_cons.1 h
    have hpos := Nat.lt_of_le_of_lt (Nat.zero_le _) hroom
    have hroom' : l.length < room (pieces ++ [n]) none := by
      simp only [room, List.length_cons, List.length_append, List.length_nil] at hroom ⊢
      omega
    rw [List.length_cons, ← Nat.add_assoc]
    by_cases hl : l = []
    · subst hl
      rw [hexText, List.map_singleton, List.intercalate_singleton,
        readPieces?_colon hn hpos (List.cons_ne_nil _ _), List.length_nil, Nat.add_zero,
        readPieces?_gap hroom']
    · rw [hexText_cons n hl, List.append_assoc, List.cons_append, readPieces?_colon hn hpos
        (by simp), ih hl h hroom', List.append_assoc, List.singleton_append]

/-- Zeros stand as far as they are counted. -/
theorem take_zeros (h : n ≤ zeros l) : l.take n = List.replicate n 0 := by
  induction l generalizing n with
  | nil => rw [Nat.le_zero.1 h]; rfl
  | cons m l ih =>
    cases n with
    | zero => rfl
    | succ n =>
      rw [zeros, List.takeWhile_cons] at h
      split at h
      · next hm =>
        rw [List.take_succ_cons, List.replicate_succ, beq_iff_eq.1 hm,
          ih (Nat.le_of_succ_le_succ h)]
      · cases h

/-- The run that is left out is one of zeros. -/
theorem longestZeros_le (pieces : List Nat) :
    (longestZeros pieces).2 ≤ zeros (pieces.drop (longestZeros pieces).1) := by
  have hfold (places : List Nat) (best : Nat × Nat) (hbest : best.2 ≤ zeros (pieces.drop best.1)) :
      let longest := places.foldl
        (fun best i =>
          if best.2 < zeros (pieces.drop i) then (i, zeros (pieces.drop i)) else best) best
      longest.2 ≤ zeros (pieces.drop longest.1) := by
    induction places generalizing best with
    | nil => exact hbest
    | cons i places ih =>
      refine ih _ ?_
      dsimp only
      split
      · exact Nat.le_refl _
      · exact hbest
  exact hfold _ _ (Nat.zero_le _)

/-- The numbers of an address with a run of zeros left out. -/
theorem exists_gap (pieces : List Nat) :
    ∃ left right, pieces = left ++ List.replicate (longestZeros pieces).2 0 ++ right ∧
      left = pieces.take (longestZeros pieces).1 ∧
      right = pieces.drop ((longestZeros pieces).1 + (longestZeros pieces).2) := by
  refine ⟨_, _, ?_, rfl, rfl⟩
  rw [← take_zeros (longestZeros_le pieces), List.append_assoc, ← List.drop_drop,
    List.take_append_drop, List.take_append_drop]

/-- The text of an address in brackets. -/
theorem toList_writeIpv6 (pieces : List Nat) :
    (writeIpv6 pieces).toList =
      if (longestZeros pieces).2 < 2 then hexText pieces
      else hexText (pieces.take (longestZeros pieces).1) ++
        ':' :: ':' ::
          hexText (pieces.drop ((longestZeros pieces).1 + (longestZeros pieces).2)) := by
  have hhex (l : List Nat) :
      (":".intercalate (l.map fun n => String.ofList (Text.toHex n))).toList = hexText l := by
    have htext : String.toList ∘ (fun n => String.ofList (Text.toHex n)) = Text.toHex :=
      funext fun n => String.toList_ofList
    rw [String.toList_intercalate, List.map_map, htext]
    rfl
  rw [writeIpv6]
  dsimp only
  split
  · exact hhex pieces
  · rw [String.toList_append, String.toList_append, hhex, hhex, List.append_assoc]
    rfl

/-- The numbers of an address, with zeros in the gap. -/
def fill? (pieces : List Nat) : (gap : Option Nat) → Option (List Nat)
  | some n => some (pieces.take n ++ List.replicate (8 - pieces.length) 0 ++ pieces.drop n)
  | none => if pieces.length = 8 then some pieces else none

/-- A text that does not begin with a colon is read from its first number on, -/
theorem readIpv6?_of_head (hhead : cs.head? ≠ some ':') (hcs : 2 ≤ cs.length)
    (h : readPieces? (cs.length + 1) [] none cs = some (pieces, gap)) :
    readIpv6? cs = fill? pieces gap := by
  unfold readIpv6?
  split
  · exact absurd rfl hhead
  · exact absurd rfl hhead
  · rw [if_neg (Nat.not_lt.2 hcs), h]
    cases gap <;> rfl

/-- and one that begins with two of them from behind the gap. -/
theorem readIpv6?_colons (h : readPieces? (cs.length + 3) [] (some 0) cs = some (pieces, gap)) :
    readIpv6? (':' :: ':' :: cs) = fill? pieces gap := by
  rw [readIpv6?]
  simp only [List.length_cons, h]
  cases gap <;> rfl

/-- A text of numbers does not begin with a colon. -/
theorem head?_hexText (hl : l ≠ []) (rest : List Char) : (hexText l ++ rest).head? ≠ some ':' := by
  obtain ⟨n, l, rfl⟩ := List.exists_cons_of_ne_nil hl
  have hbegin : ∃ behind, hexText (n :: l) = Text.toHex n ++ behind := by
    by_cases hl : l = []
    · subst hl
      exact ⟨[], by simp [hexText]⟩
    · exact ⟨_, hexText_cons n hl⟩
  obtain ⟨behind, hbegin⟩ := hbegin
  obtain ⟨c, cs, hn, hne, -⟩ := exists_toHex n (behind ++ rest)
  rw [hbegin, List.append_assoc, hn]
  simpa using hne

/-- The numbers behind a gap are read, if there are any. -/
theorem readPieces?_behind (h : ∀ n ∈ l, n < 65536) (hroom : l.length ≤ room pieces gap)
    (hfuel : l.length < fuel) :
    readPieces? fuel pieces gap (hexText l) = some (pieces ++ l, gap) := by
  by_cases hl : l = []
  · obtain ⟨fuel, rfl⟩ := Nat.exists_eq_add_one.2 (Nat.lt_of_le_of_lt (Nat.zero_le _) hfuel)
    rw [hl, List.append_nil]
    rfl
  · exact readPieces?_hexText hl h hroom (Nat.le_of_lt hfuel)

/-- A gap is read as zeros. -/
theorem readIpv6?_gap {left right : List Nat} {zeros : Nat}
    (hlength : left.length + zeros + right.length = 8) (hzeros : 2 ≤ zeros)
    (hleft : ∀ n ∈ left, n < 65536) (hright : ∀ n ∈ right, n < 65536) :
    readIpv6? (hexText left ++ ':' :: ':' :: hexText right) =
      some (left ++ List.replicate zeros 0 ++ right) := by
  have hfill : fill? (left ++ right) (some left.length) =
      some (left ++ List.replicate zeros 0 ++ right) := by
    have hcount : 8 - (left ++ right).length = zeros := by
      rw [List.length_append]
      omega
    rw [fill?, List.take_left, List.drop_left, hcount]
  have hlefttext := length_le_hexText left
  have hrighttext := length_le_hexText right
  have hbehind (gap : Option Nat) (fuel : Nat) (hfuel : right.length < fuel) :
      readPieces? fuel left gap (hexText right) = some (left ++ right, gap) := by
    refine readPieces?_behind hright ?_ hfuel
    rw [room]
    split <;> omega
  by_cases hne : left = []
  · subst hne
    exact (readIpv6?_colons (hbehind (some 0) _ (by omega))).trans hfill
  · have hfuel : (hexText left ++ ':' :: ':' :: hexText right).length + 1 =
        ((hexText left).length - left.length + (hexText right).length + 2) + 1 + left.length := by
      simp only [List.length_append, List.length_cons]
      omega
    have hroom : left.length < room [] none := by
      simp only [room, List.length_nil, Option.isSome_none, Bool.false_eq_true, if_false]
      omega
    have hread : readPieces? ((hexText left ++ ':' :: ':' :: hexText right).length + 1) [] none
        (hexText left ++ ':' :: ':' :: hexText right) = some (left ++ right, some left.length) := by
      rw [hfuel, readPieces?_hexText_gap hne hleft hroom, List.nil_append, hbehind _ _ (by omega)]
    have htwo : 2 ≤ (hexText left ++ ':' :: ':' :: hexText right).length := by
      simp only [List.length_append, List.length_cons]
      omega
    rw [readIpv6?_of_head (head?_hexText hne _) htwo hread, hfill]

/-- An address in brackets is read from its text. -/
theorem readIpv6?_writeIpv6 (hlength : pieces.length = 8) (h : ∀ n ∈ pieces, n < 65536) :
    readIpv6? (writeIpv6 pieces).toList = some pieces := by
  rw [toList_writeIpv6]
  split
  · have hne : pieces ≠ [] := by rintro rfl; cases hlength
    have hle := length_le_hexText pieces
    have hroom : pieces.length ≤ room [] none := by simp [room, hlength]
    have hread : readPieces? ((hexText pieces).length + 1) [] none (hexText pieces) =
        some ([] ++ pieces, none) :=
      readPieces?_hexText hne h hroom (by omega)
    have hhead := head?_hexText hne []
    rw [List.append_nil] at hhead
    rw [readIpv6?_of_head hhead (by omega) hread]
    exact if_pos hlength
  · next hrun =>
    obtain ⟨left, right, hpieces, hleft, hright⟩ := exists_gap pieces
    have hbound : (∀ n ∈ left, n < 65536) ∧ ∀ n ∈ right, n < 65536 := by
      rw [hpieces] at h
      exact ⟨fun n hn => h n (by simp [hn]), fun n hn => h n (by simp [hn])⟩
    have hsum : left.length + (longestZeros pieces).2 + right.length = 8 := by
      rw [hpieces] at hlength
      simpa [Nat.add_assoc] using hlength
    rw [← hleft, ← hright, readIpv6?_gap hsum (Nat.not_lt.1 hrun) hbound.1 hbound.2, ← hpieces]

/-- What is read fits into eight numbers of sixteen bits. -/
structure Fits (pieces : List Nat) (gap : Option Nat) : Prop where
  bound : ∀ n ∈ pieces, n < 65536
  length : pieces.length + (if gap.isSome then 1 else 0) ≤ 8

/-- Four digits denote sixteen bits. -/
theorem value_lt (cs : List Char) :
    (Text.ofHex? ((cs.take 4).takeWhile Text.isHexDigit)).getD 0 < 65536 := by
  cases hvalue : Text.ofHex? ((cs.take 4).takeWhile Text.isHexDigit) with
  | none => decide
  | some n =>
    have hlength : ((cs.take 4).takeWhile Text.isHexDigit).length ≤ 4 :=
      Nat.le_trans (List.takeWhile_sublist _).length_le (List.length_take_le _ _)
    exact Nat.lt_of_lt_of_le (Text.ofHex?_lt hvalue) (Nat.pow_le_pow_right (by decide) hlength)

/-- A number that fits is added where there is room. -/
theorem Fits.append (h : Fits pieces gap) {l : List Nat} (hl : ∀ n ∈ l, n < 65536)
    (hroom : pieces.length + l.length + (if gap.isSome then 1 else 0) ≤ 8) :
    Fits (pieces ++ l) gap :=
  ⟨fun n hn => (List.mem_append.1 hn).elim (h.bound n) (hl n), by rwa [List.length_append]⟩

/-- A byte is below 256. -/
theorem readByte?_lt (h : readByte? cs = some (n, rest)) : n < 256 := by
  rw [readByte?] at h
  split at h
  · cases h
  · next hcond =>
    obtain ⟨rfl, -⟩ := Prod.mk.inj (Option.some.inj h)
    simp only [Bool.or_eq_true, decide_eq_true_eq, not_or] at hcond
    omega

/-- Four bytes are two numbers. -/
theorem readBytes?_fits (h : readBytes? cs = some l) : l.length = 2 ∧ ∀ n ∈ l, n < 65536 := by
  simp only [readBytes?, Option.bind_eq_bind, Option.bind_eq_some_iff, Option.pure_def] at h
  obtain ⟨⟨a, _⟩, ha, _, -, ⟨b, _⟩, hb, _, -, ⟨c, _⟩, hc, _, -, ⟨d, _⟩, hd, h⟩ := h
  split at h
  · obtain rfl := Option.some.inj h
    have ha := readByte?_lt ha
    have hb := readByte?_lt hb
    have hc := readByte?_lt hc
    have hd := readByte?_lt hd
    refine ⟨rfl, fun n hn => ?_⟩
    simp only [List.mem_cons, List.not_mem_nil, or_false] at hn
    rcases hn with rfl | rfl <;> omega
  · cases h

/-- What is read on fits, too. -/
theorem Fits.readPieces? {ps : List Nat} {g : Option Nat} (h : Fits pieces gap)
    (hread : readPieces? fuel pieces gap cs = some (ps, g)) : Fits ps g := by
  have hone {v : Nat} (hv : v < 65536) : ∀ n ∈ [v], n < 65536 := by simpa using hv
  fun_induction Host.readPieces? fuel pieces gap cs with
  | case1 | case3 | case4 | case7 | case9 | case10 | case12 => cases hread
  | case2 fuel pieces gap =>
    cases hread
    exact h
  | case5 fuel pieces gap c rest hfull hcolon hgap ih =>
    refine ih ⟨h.bound, ?_⟩ hread
    simp at hfull ⊢
    omega
  | case6 fuel pieces gap c rest hfull hcolon digits behind value =>
    cases hread
    exact h.append (hone (value_lt _)) (by rw [List.length_singleton]; omega)
  | case8 fuel pieces gap c rest hfull hcolon digits behind tail hbehind hcond =>
    obtain ⟨two, htwo, hread⟩ := Option.map_eq_some_iff.1 hread
    cases hread
    obtain ⟨hlength, hbound⟩ := readBytes?_fits htwo
    simp only [Bool.or_eq_true, decide_eq_true_eq, not_or] at hcond
    exact h.append hbound (by omega)
  | case11 fuel pieces gap c rest hfull hcolon digits behind value rest' hrest hbehind hempty ih =>
    exact ih (h.append (hone (value_lt _)) (by rw [List.length_singleton]; omega)) hread

/-- With zeros in the gap, there are eight numbers. -/
theorem Fits.fill (h : Fits pieces gap) (hfill : fill? pieces gap = some l) :
    l.length = 8 ∧ ∀ n ∈ l, n < 65536 := by
  obtain ⟨hbound, hlength⟩ := h
  cases gap with
  | none =>
    rw [fill?] at hfill
    split at hfill
    · next height =>
      obtain rfl := Option.some.inj hfill
      exact ⟨height, hbound⟩
    · cases hfill
  | some i =>
    obtain rfl := Option.some.inj hfill
    refine ⟨?_, fun n hn => ?_⟩
    · simp only [List.length_append, List.length_take, List.length_replicate, List.length_drop]
      simp only [Option.isSome_some, if_true] at hlength
      omega
    · rw [List.mem_append, List.mem_append, List.mem_replicate] at hn
      rcases hn with (hn | ⟨-, rfl⟩) | hn
      · exact hbound n (List.mem_of_mem_take hn)
      · decide
      · exact hbound n (List.mem_of_mem_drop hn)

/-- An address in brackets has eight numbers of sixteen bits. -/
theorem fits_of_readIpv6? (h : readIpv6? cs = some l) : l.length = 8 ∧ ∀ n ∈ l, n < 65536 := by
  have hfits {fuel : Nat} {gap : Option Nat} {rest : List Char}
      (h : (readPieces? fuel [] gap rest).bind (fun p => fill? p.1 p.2) = some l) :
      l.length = 8 ∧ ∀ n ∈ l, n < 65536 := by
    obtain ⟨⟨pieces, g⟩, hread, hfill⟩ := Option.bind_eq_some_iff.1 h
    refine (Fits.readPieces? ⟨by simp, ?_⟩ hread).fill hfill
    cases gap <;> simp
  have hfill : (fun p : List Nat × Option Nat => fill? p.1 p.2) = fun p => match p.2 with
      | some n => some (p.1.take n ++ List.replicate (8 - p.1.length) 0 ++ p.1.drop n)
      | none => if p.1.length = 8 then some p.1 else none := by
    funext ⟨pieces, gap⟩
    cases gap <;> rfl
  unfold readIpv6? at h
  split at h
  · exact hfits (hfill ▸ h)
  · cases h
  · split at h
    · cases h
    · exact hfits (hfill ▸ h)

/-- The text of an address in brackets has digits and colons. -/
theorem mem_writeIpv6 {c : Char} (h : c ∈ (writeIpv6 pieces).toList) :
    Text.isHexDigit c = true ∨ c = ':' := by
  have hhex {l : List Nat} (h : c ∈ hexText l) : Text.isHexDigit c = true ∨ c = ':' := by
    rcases Text.mem_of_mem_intercalate h with h | ⟨cs, hcs, h⟩
    · exact .inr (List.mem_singleton.1 h)
    · obtain ⟨n, -, rfl⟩ := List.mem_map.1 hcs
      exact .inl ((Text.toHex_spec n).1 c h)
  rw [toList_writeIpv6] at h
  split at h
  · exact hhex h
  · rw [List.mem_append, List.mem_cons, List.mem_cons] at h
    rcases h with h | rfl | rfl | h
    · exact hhex h
    · exact .inr rfl
    · exact .inr rfl
    · exact hhex h

end

end Scaffold.Host
