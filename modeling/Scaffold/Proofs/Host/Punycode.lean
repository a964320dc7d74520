import Mathlib.Data.List.Basic
import Scaffold.Host.Punycode

/-!
# Punycode

`decode_encode`: the code points of a text are read from their encoding. The encoding takes the code
points in order and goes through the whole text for each of them; what is inserted so far is then,
at every place of the text, what stands in front of it up to the code point, and what stands behind
it below the code point. `Follows` says so of a state of the decoding, and that the difference to
be written leads from the last insertion to the place.
-/

namespace Scaffold.Host.Punycode

/-! ## Digits -/

/-- A character that stands for a digit. -/
def IsDigit (c : Char) : Prop := ∃ d < 36, c = digitChar d

/-- A digit is read as its value. -/
theorem digitValue?_digitChar : ∀ d < 36, digitValue? (digitChar d) = some d := by decide

/-- A threshold is below the base. -/
theorem threshold_le (bias k : Nat) : threshold bias k ≤ 26 := by
  unfold threshold
  split
  · decide
  · split <;> omega

section
variable {bias k q : Nat} {c : Char}

/-- A digit that is no last one. -/
theorem digit_lt (bias k q : Nat) :
    threshold bias k + (q - threshold bias k) % (36 - threshold bias k) < 36 := by
  have hle := threshold_le bias k
  have hmod := Nat.mod_lt (q - threshold bias k) (y := 36 - threshold bias k) (by omega)
  omega

/-- A number is written in digits. -/
theorem isDigit_of_mem_writeNumber (h : c ∈ writeNumber bias k q) : IsDigit c := by
  fun_induction writeNumber bias k q with
  | case1 k q t hq =>
    have hle : t ≤ 26 := threshold_le bias k
    exact ⟨q, by omega, List.mem_singleton.1 h⟩
  | case2 k q t hq ih =>
    rcases List.mem_cons.1 h with rfl | h
    · exact ⟨_, digit_lt bias k q, rfl⟩
    · exact ih h

end

/-! ## Numbers -/

/-- The state behind a number that puts the next character at `index`. -/
def DecodeState.insert (s : DecodeState) (index : Nat) : DecodeState :=
  let length := s.output.length + 1
  let code := s.code + index / length
  { code
    index := index % length + 1
    bias := adapt (index - s.start) length (s.start == 0)
    output := s.output.take (index % length) ++ code :: s.output.drop (index % length)
    start := index % length + 1 }

section
variable {s : DecodeState} {digit : Nat}

/-- A digit below the threshold is the last one of its number. -/
theorem DecodeState.read_of_lt (h : digit < threshold s.bias s.k) :
    s.read digit = s.insert (s.index + digit * s.weight) := by
  rw [read, if_pos h]
  rfl

/-- Any other digit adds to the number. -/
theorem DecodeState.read_of_le (h : threshold s.bias s.k ≤ digit) :
    s.read digit =
      { s with
        index := s.index + digit * s.weight
        weight := s.weight * (36 - threshold s.bias s.k)
        k := s.k + 36 } := by
  rw [read, if_neg (Nat.not_lt.2 h)]

/-- A digit is read, as long as the code points are some. -/
theorem decodeFrom_digit (hdigit : digit < 36) (hcode : (s.read digit).code < 0x110000)
    (cs : List Char) : decodeFrom s (digitChar digit :: cs) = decodeFrom (s.read digit) cs := by
  rw [decodeFrom, digitValue?_digitChar digit hdigit]
  exact if_pos hcode

/-- A number of any length is read from its digits, whatever follows them. -/
theorem decodeFrom_writeNumber (bias k q : Nat) (cs : List Char) : ∀ s : DecodeState,
    s.bias = bias → s.k = k → s.code < 0x110000 →
    (s.insert (s.index + q * s.weight)).code < 0x110000 →
    decodeFrom s (writeNumber bias k q ++ cs) =
      decodeFrom (s.insert (s.index + q * s.weight)) cs := by
  fun_induction writeNumber bias k q with
  | case1 k q t hq =>
    rintro s rfl rfl hcode hend
    have hread := DecodeState.read_of_lt hq
    have hlt : q < 36 := Nat.lt_of_lt_of_le hq (Nat.le_trans (threshold_le s.bias s.k) (by decide))
    rw [List.singleton_append, decodeFrom_digit hlt (by rwa [hread]), hread]
  | case2 k q t hq ih =>
    rintro s rfl rfl hcode hend
    -- What is left of the number counts as many times as the base less the threshold.
    have hvalue : s.index + (t + (q - t) % (36 - t)) * s.weight +
        (q - t) / (36 - t) * (s.weight * (36 - t)) = s.index + q * s.weight := by
      have hq' : t + (q - t) % (36 - t) + (q - t) / (36 - t) * (36 - t) = q := by
        rw [Nat.add_assoc, Nat.mod_add_div', Nat.add_sub_cancel' (Nat.not_lt.1 hq)]
      rw [Nat.mul_comm s.weight, ← Nat.mul_assoc, Nat.add_assoc, ← Nat.add_mul, hq']
    have hle : threshold s.bias s.k ≤ t + (q - t) % (36 - t) := Nat.le_add_right _ _
    have hread := DecodeState.read_of_le hle
    rw [List.cons_append, decodeFrom_digit (digit_lt _ _ _) (by rwa [hread]), hread]
    have hrest := ih { s with
      index := s.index + (t + (q - t) % (36 - t)) * s.weight
      weight := s.weight * (36 - t)
      k := s.k + 36 } rfl rfl hcode
    simp only [DecodeState.insert, hvalue] at hrest hend ⊢
    exact hrest hend

end

/-! ## The code points in order -/

section
variable {n m : Nat} {l : List Nat}

/-- A number that is put into a list is in it. -/
theorem mem_insertOrdered : m ∈ insertOrdered n l ↔ m = n ∨ m ∈ l := by
  fun_induction insertOrdered n l with
  | case1 => simp
  | case2 => simp
  | case3 => simp
  | case4 k rest _ _ ih => rw [List.mem_cons, ih, List.mem_cons, or_left_comm]

/-- A list in order stays so. -/
theorem pairwise_insertOrdered (h : l.Pairwise (· < ·)) : (insertOrdered n l).Pairwise (· < ·) := by
  fun_induction insertOrdered n l with
  | case1 => exact List.pairwise_singleton _ _
  | case2 => exact h
  | case3 k rest hne hlt =>
    obtain ⟨hk, -⟩ := List.pairwise_cons.1 h
    exact List.pairwise_cons.2
      ⟨fun x hx => (List.mem_cons.1 hx).elim (· ▸ hlt) fun hx => Nat.lt_trans hlt (hk x hx), h⟩
  | case4 k rest hne hlt ih =>
    obtain ⟨hk, hrest⟩ := List.pairwise_cons.1 h
    refine List.pairwise_cons.2 ⟨fun x hx => ?_, ih hrest⟩
    rcases mem_insertOrdered.1 hx with rfl | hx
    · omega
    · exact hk x hx

/-- The numbers of a list are put in order. -/
theorem foldl_insertOrdered (l : List Nat) {done : List Nat} (h : done.Pairwise (· < ·)) :
    (l.foldl (fun l n => insertOrdered n l) done).Pairwise (· < ·) ∧
      ∀ n, n ∈ l.foldl (fun l n => insertOrdered n l) done ↔ n ∈ done ∨ n ∈ l := by
  induction l generalizing done with
  | nil => simpa using h
  | cons m l ih =>
    obtain ⟨hordered, hmem⟩ := ih (pairwise_insertOrdered (n := m) h)
    refine ⟨hordered, fun n => ?_⟩
    rw [List.foldl_cons, hmem, mem_insertOrdered, List.mem_cons, or_comm (a := n = m), or_assoc]

end

/-! ## Encoding and decoding in step -/

/-- The encoding goes from one state to the other by digits that take the decoding along. -/
def Writes (e e' : EncodeState) (d d' : DecodeState) : Prop :=
  ∃ cs, e'.text = e.text ++ cs ∧ (∀ c ∈ cs, IsDigit c) ∧
    ∀ rest, decodeFrom d (cs ++ rest) = decodeFrom d' rest

/-- The decoding has inserted what the encoding has written when it stands between `done` and
`rest`, with `basic` characters in ASCII. -/
structure Follows (basic : Nat) (done rest : List Nat) (e : EncodeState) (d : DecodeState) :
    Prop where
  output : d.output = done.filter (· ≤ e.code) ++ rest.filter (· < e.code)
  handled : e.handled = d.output.length
  code : d.code ≤ e.code
  /-- The places are counted through all texts up to the code point, as insertions are. -/
  place : d.code * (d.output.length + 1) + (d.index + e.delta) =
    e.code * (d.output.length + 1) + (done.filter (· ≤ e.code)).length
  bias : d.bias = e.bias
  start : d.start = d.index
  first : d.start = 0 ∧ e.handled = basic ∨ 0 < d.start ∧ basic < e.handled
  /-- No number is begun. -/
  fresh : d.weight = 1 ∧ d.k = 36

section
variable {basic c m : Nat} {done rest input : List Nat} {e e' e'' : EncodeState}
  {d d' d'' : DecodeState}

/-- Nothing is written where the text stays the same. -/
theorem Writes.of_eq (h : e'.text = e.text) : Writes e e' d d :=
  ⟨[], by rw [h, List.append_nil], by simp, fun _ => rfl⟩

/-- Digits follow one another. -/
theorem Writes.trans (h : Writes e e' d d') (h' : Writes e' e'' d' d'') : Writes e e'' d d'' := by
  obtain ⟨cs, htext, hdigits, hread⟩ := h
  obtain ⟨cs', htext', hdigits', hread'⟩ := h'
  refine ⟨cs ++ cs', by rw [htext', htext, List.append_assoc], fun c hc => ?_, fun rest => ?_⟩
  · exact (List.mem_append.1 hc).elim (hdigits c) (hdigits' c)
  · rw [List.append_assoc, hread, hread']

/-- The code point of a state stays through a text. -/
theorem code_pass : (e.pass basic c).code = e.code := by
  unfold EncodeState.pass
  split
  · rfl
  · split <;> rfl

/-- The difference leads to the place of the next insertion. -/
theorem Follows.div_mod (h : Follows basic done rest e d) :
    (d.index + e.delta) / (d.output.length + 1) = e.code - d.code ∧
      (d.index + e.delta) % (d.output.length + 1) = (done.filter (· ≤ e.code)).length := by
  have hle : (done.filter (· ≤ e.code)).length < d.output.length + 1 := by
    rw [h.output, List.length_append]
    omega
  have hsum : d.index + e.delta =
      (e.code - d.code) * (d.output.length + 1) + (done.filter (· ≤ e.code)).length := by
    have hplace := h.place
    have hcode := Nat.mul_le_mul_right (d.output.length + 1) h.code
    rw [Nat.sub_mul]
    omega
  rw [hsum, Nat.mul_comm]
  exact ⟨by rw [Nat.mul_add_div (Nat.succ_pos _), Nat.div_eq_of_lt hle, Nat.add_zero],
    by rw [Nat.mul_add_mod, Nat.mod_eq_of_lt hle]⟩

/-- Where the code point stands, it is inserted. -/
theorem Follows.insert (h : Follows basic done (e.code :: rest) e d) :
    d.insert (d.index + e.delta) =
      { code := e.code
        index := (done.filter (· ≤ e.code)).length + 1
        bias := adapt e.delta (e.handled + 1) (e.handled == basic)
        output := (done ++ [e.code]).filter (· ≤ e.code) ++ rest.filter (· < e.code)
        start := (done.filter (· ≤ e.code)).length + 1 } := by
  obtain ⟨hdiv, hmod⟩ := h.div_mod
  have hfirst : (d.index == 0) = (d.output.length == basic) := by
    rw [Bool.eq_iff_iff, beq_iff_eq, beq_iff_eq, ← h.start, ← h.handled]
    have hfirst := h.first
    omega
  have htake : d.output.take (done.filter (· ≤ e.code)).length = done.filter (· ≤ e.code) := by
    rw [h.output, List.take_left]
  have hdrop : d.output.drop (done.filter (· ≤ e.code)).length = rest.filter (· < e.code) := by
    rw [h.output, List.drop_left, List.filter_cons_of_neg (by simp)]
  rw [DecodeState.insert]
  simp only [hdiv, hmod, htake, hdrop, hfirst, Nat.add_sub_cancel' h.code, h.start, h.handled,
    Nat.add_sub_cancel_left, List.filter_append, List.filter_cons, List.filter_nil, Nat.le_refl,
    decide_true, if_true, List.append_assoc, List.singleton_append]

/-- The character that is looked for is written, and read again. -/
theorem Follows.write (h : Follows basic done (e.code :: rest) e d) (hcode : e.code < 0x110000) :
    ∃ d', Writes e (e.pass basic e.code) d d' ∧
      Follows basic (done ++ [e.code]) rest (e.pass basic e.code) d' := by
  have hpass : e.pass basic e.code =
      { e with
        text := e.text ++ writeNumber e.bias 36 e.delta
        bias := adapt e.delta (e.handled + 1) (e.handled == basic)
        delta := 0
        handled := e.handled + 1 } := by
    rw [EncodeState.pass, if_neg (Nat.lt_irrefl _), if_pos rfl]
  refine ⟨d.insert (d.index + e.delta), ?_, ?_⟩
  · refine ⟨_, by rw [hpass], fun c hc => isDigit_of_mem_writeNumber hc, fun rest => ?_⟩
    have hread := decodeFrom_writeNumber e.bias 36 e.delta rest d h.bias h.fresh.2
      (Nat.lt_of_le_of_lt h.code hcode)
    rw [h.fresh.1, Nat.mul_one, h.insert] at hread
    rw [h.insert]
    exact hread hcode
  · have hfirst : basic < e.handled + 1 := by
      have hfirst := h.first
      omega
    have hhandled : e.handled + 1 =
        ((done ++ [e.code]).filter (· ≤ e.code) ++ rest.filter (· < e.code)).length := by
      rw [h.handled, h.output, List.filter_append, List.filter_cons_of_neg (by simp)]
      simp only [List.filter_cons, Nat.le_refl, decide_true, if_true, List.filter_nil,
        List.length_append, List.length_singleton]
      omega
    rw [h.insert, hpass]
    exact
      { output := rfl
        handled := hhandled
        code := Nat.le_refl _
        place := by simp
        bias := rfl
        start := rfl
        first := .inr ⟨Nat.succ_pos _, hfirst⟩
        fresh := ⟨rfl, rfl⟩ }

/-- Going past a character keeps the decoding in step. -/
theorem Follows.pass (h : Follows basic done (c :: rest) e d) (hcode : e.code < 0x110000) :
    ∃ d', Writes e (e.pass basic c) d d' ∧
      Follows basic (done ++ [c]) rest (e.pass basic c) d' := by
  rcases Nat.lt_trichotomy c e.code with hc | rfl | hc
  · -- The character is in the output, and the next place is behind it.
    have hpass : e.pass basic c = { e with delta := e.delta + 1 } := if_pos hc
    rw [hpass]
    refine ⟨d, .of_eq rfl, { h with output := ?_, place := ?_ }⟩
    · simp [h.output, hc, Nat.le_of_lt hc]
    · have hplace := h.place
      simp only [List.filter_append, List.length_append, List.filter_cons, List.filter_nil,
        Nat.le_of_lt hc, decide_true, if_true, List.length_singleton]
      omega
  · exact h.write hcode
  · have hpass : e.pass basic c = e := by
      rw [EncodeState.pass, if_neg (Nat.lt_asymm hc), if_neg (Nat.ne_of_gt hc)]
    rw [hpass]
    refine ⟨d, .of_eq rfl, { h with output := ?_, place := ?_ }⟩
    · simp [h.output, Nat.not_le.2 hc, Nat.lt_asymm hc]
    · simpa [Nat.not_le.2 hc] using h.place

/-- So does going through the rest of the text. -/
theorem Follows.foldl (h : Follows basic done rest e d) (hcode : e.code < 0x110000) :
    ∃ d', Writes e (rest.foldl (EncodeState.pass basic) e) d d' ∧
      Follows basic (done ++ rest) [] (rest.foldl (EncodeState.pass basic) e) d' := by
  induction rest generalizing done e d with
  | nil => exact ⟨d, .of_eq rfl, by rwa [List.append_nil]⟩
  | cons c rest ih =>
    obtain ⟨d', hwrites, hfollows⟩ := h.pass hcode
    obtain ⟨d'', hwrites', hfollows'⟩ := ih hfollows (by rwa [code_pass])
    exact ⟨d'', hwrites.trans hwrites', by rwa [← List.append_cons] at hfollows'⟩

/-- The code point of a state stays through a text. -/
theorem code_foldl_pass (l : List Nat) : (l.foldl (EncodeState.pass basic) e).code = e.code := by
  induction l generalizing e with
  | nil => rfl
  | cons c l ih => rw [List.foldl_cons, ih, code_pass]

/-- Behind the text, the next code point begins in front of it. -/
theorem Follows.next (h : Follows basic input [] e d) :
    Follows basic [] input { e with code := e.code + 1, delta := e.delta + 1 } d := by
  have hall : d.output = input.filter (· ≤ e.code) := by
    rw [h.output, List.filter_nil, List.append_nil]
  exact
    { h with
      output := by
        rw [hall, List.filter_nil, List.nil_append]
        exact List.filter_congr fun n _ => decide_eq_decide.2 Nat.lt_succ_iff.symm
      code := Nat.le_succ_of_le h.code
      place := by
        have hplace := h.place
        rw [← hall] at hplace
        simp only [List.filter_nil, List.length_nil, Nat.add_mul]
        omega }

/-- A code point is encoded, where those that are left out do not occur in the text. -/
theorem Follows.encode (h : Follows basic [] input e d) (hm : e.code ≤ m) (hcode : m < 0x110000)
    (hskip : ∀ n ∈ input, n < m → n < e.code) :
    ∃ d', Writes e (e.encode basic input m) d d' ∧
      Follows basic [] input (e.encode basic input m) d' := by
  have hstart : Follows basic [] input
      { e with code := m, delta := e.delta + (m - e.code) * (e.handled + 1) } d :=
    { h with
      output := by
        rw [h.output, List.filter_nil, List.nil_append, List.filter_nil, List.nil_append]
        exact List.filter_congr fun n hn => by
          rw [decide_eq_decide]
          exact ⟨fun hlt => Nat.lt_of_lt_of_le hlt hm, hskip n hn⟩
      code := Nat.le_trans h.code hm
      place := by
        have hplace := h.place
        have hle := Nat.mul_le_mul_right (d.output.length + 1) hm
        simp only [List.filter_nil, List.length_nil] at hplace ⊢
        rw [h.handled, Nat.sub_mul]
        omega }
  obtain ⟨d', hwrites, hfollows⟩ := hstart.foldl hcode
  exact ⟨d', hwrites.trans (.of_eq rfl), hfollows.next⟩

/-- The code points of the text are encoded in order. -/
theorem Follows.encodeAll {l : List Nat} (h : Follows basic [] input e d)
    (hordered : l.Pairwise (· < ·)) (hl : ∀ m ∈ l, e.code ≤ m ∧ m < 0x110000)
    (hinput : ∀ n ∈ input, n < e.code ∨ n ∈ l) :
    ∃ d', Writes e (l.foldl (EncodeState.encode basic input) e) d d' ∧ d'.output = input ∧
      d'.weight = 1 ∧ d'.k = 36 := by
  induction l generalizing e d with
  | nil =>
    have hall : ∀ n ∈ input, n < e.code :=
      fun n hn => (hinput n hn).resolve_right (List.not_mem_nil)
    refine ⟨d, .of_eq rfl, ?_, h.fresh⟩
    rw [h.output, List.filter_nil, List.nil_append, List.filter_eq_self]
    exact fun n hn => decide_eq_true (hall n hn)
  | cons m l ih =>
    obtain ⟨hm, hordered⟩ := List.pairwise_cons.1 hordered
    obtain ⟨⟨hle, hcode⟩, hl⟩ := List.forall_mem_cons.1 hl
    have hskip : ∀ n ∈ input, n < m → n < e.code := fun n hn hlt =>
      (hinput n hn).resolve_right fun hmem => by
        rcases List.mem_cons.1 hmem with rfl | hmem
        · exact Nat.lt_irrefl _ hlt
        · exact Nat.lt_asymm hlt (hm n hmem)
    obtain ⟨d', hwrites, hfollows⟩ := h.encode hle hcode hskip
    have hnext : (e.encode basic input m).code = m + 1 := congrArg (· + 1) (code_foldl_pass input)
    obtain ⟨d'', hwrites', hend⟩ := ih hfollows hordered
      (fun n hn => ⟨by rw [hnext]; exact hm n hn, (hl n hn).2⟩)
      (fun n hn => by
        rw [hnext]
        rcases hinput n hn with hlt | hmem
        · exact .inl (Nat.lt_of_lt_of_le hlt (Nat.le_succ_of_le hle))
        · exact (List.mem_cons.1 hmem).imp (fun heq => by omega) id)
    exact ⟨d'', hwrites.trans hwrites', hend⟩

end

/-! ## The whole -/

section
variable {input : List Nat} {c : Char} {cs digits : List Char}

/-- No digit is the hyphen that stands in front of them. -/
theorem IsDigit.ne_hyphen (h : IsDigit c) : c ≠ '-' := by
  obtain ⟨d, hd, rfl⟩ := h
  have hall : ∀ d < 36, digitChar d ≠ '-' := by decide
  exact hall d hd

/-- A character in ASCII has its number. -/
theorem toNat_ofNat : ∀ n < 0x80, (Char.ofNat n).toNat = n := by decide

/-- The digits of a text are what stands behind its last hyphen. -/
theorem decode_append (hfront : cs = [] ∨ ∃ basic, cs = basic ++ ['-'])
    (hdigits : ∀ c ∈ digits, IsDigit c) :
    decode (cs ++ digits) = decodeFrom { output := cs.dropLast.map Char.toNat } digits := by
  have hbehind : ((cs ++ digits).reverse.takeWhile (· != '-')).reverse = digits := by
    have hpos : ∀ c ∈ digits.reverse, (c != '-') = true := fun c hc =>
      bne_iff_ne.2 (hdigits c (List.mem_reverse.1 hc)).ne_hyphen
    rw [List.reverse_append, List.takeWhile_append_of_pos hpos]
    rcases hfront with rfl | ⟨basic, rfl⟩
    · simp
    · simp
  have hbasic : (cs ++ digits).take ((cs ++ digits).length - digits.length - 1) = cs.dropLast := by
    rw [List.length_append, Nat.add_sub_cancel, List.take_append_of_le_length (Nat.sub_le _ _),
      List.dropLast_eq_take]
  simp only [decode, hbehind, hbasic]

/-- The characters of a text that are in ASCII. -/
def basicChars (input : List Nat) : List Char := (input.filter (· < 0x80)).map Char.ofNat

/-- What stands in front of the digits of an encoding. -/
def frontChars (input : List Nat) : List Char :=
  if (basicChars input).isEmpty then [] else basicChars input ++ ['-']

/-- A hyphen ends what stands in front of the digits. -/
theorem frontChars_spec (input : List Nat) :
    (frontChars input = [] ∨ ∃ cs, frontChars input = cs ++ ['-']) ∧
      (frontChars input).dropLast = basicChars input := by
  rw [frontChars]
  split
  · next hempty => exact ⟨.inl rfl, (List.isEmpty_iff.1 hempty).symm⟩
  · exact ⟨.inr ⟨_, rfl⟩, List.dropLast_concat⟩

/-- It is of the text. -/
theorem mem_frontChars (hc : c ∈ frontChars input) :
    c = '-' ∨ ∃ n ∈ input, n < 0x80 ∧ c = Char.ofNat n := by
  have hmem : c ∈ basicChars input ++ ['-'] := by
    rw [frontChars] at hc
    split at hc
    · cases hc
    · exact hc
  rcases List.mem_append.1 hmem with hmem | hmem
  · obtain ⟨n, hn, rfl⟩ := List.mem_map.1 hmem
    obtain ⟨hn, hlt⟩ := List.mem_filter.1 hn
    exact .inr ⟨n, hn, of_decide_eq_true hlt, rfl⟩
  · exact .inl (List.mem_singleton.1 hmem)

/-- Decoding starts from these characters. -/
theorem follows_start (input : List Nat) :
    Follows (basicChars input).length [] input
      { handled := (basicChars input).length, text := frontChars input }
      { output := (basicChars input).map Char.toNat } := by
  have hbasic : (basicChars input).map Char.toNat = input.filter (· < 0x80) := by
    rw [basicChars, List.map_map, List.map_congr_left (g := id), List.map_id]
    exact fun n hn => toNat_ofNat n (of_decide_eq_true (List.mem_filter.1 hn).2)
  exact
    { output := hbasic
      handled := (List.length_map ..).symm
      code := Nat.le_refl _
      place := rfl
      bias := rfl
      start := rfl
      first := .inl ⟨rfl, rfl⟩
      fresh := ⟨rfl, rfl⟩ }

/-- An encoding has digits behind the characters in ASCII, by which it is read. -/
theorem exists_encode (h : ∀ n ∈ input, n < 0x110000) :
    ∃ digits, encode input = frontChars input ++ digits ∧ (∀ c ∈ digits, IsDigit c) ∧
      decode (frontChars input ++ digits) = some input := by
  obtain ⟨hordered, hmem⟩ :=
    foldl_insertOrdered (input.filter (0x80 ≤ ·)) (List.Pairwise.nil (α := Nat))
  have hothers : ∀ n, n ∈ (input.filter (0x80 ≤ ·)).foldl (fun l n => insertOrdered n l) [] ↔
      n ∈ input ∧ 0x80 ≤ n := by simpa using hmem
  obtain ⟨d, ⟨digits, htext, hdigits, hread⟩, houtput, hweight, hk⟩ :=
    (follows_start input).encodeAll hordered
    (fun m hm => ⟨((hothers m).1 hm).2, h m ((hothers m).1 hm).1⟩)
    (fun n hn => (Nat.lt_or_ge n 0x80).imp id fun hle => (hothers n).2 ⟨hn, hle⟩)
  obtain ⟨hfront, hbasic⟩ := frontChars_spec input
  refine ⟨digits, htext, hdigits, ?_⟩
  have hend := hread []
  rw [List.append_nil] at hend
  rw [decode_append hfront hdigits, hbasic, hend, decodeFrom, if_pos ⟨hweight, hk⟩, houtput]

/-- A text is read from its encoding. -/
theorem decode_encode (h : ∀ n ∈ input, n < 0x110000) : decode (encode input) = some input := by
  obtain ⟨digits, hencode, -, hread⟩ := exists_encode h
  rw [hencode, hread]

end

end Scaffold.Host.Punycode
