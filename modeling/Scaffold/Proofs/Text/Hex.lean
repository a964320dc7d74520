import Mathlib.Algebra.Group.Nat.Defs
import Mathlib.Data.List.Basic
import Scaffold.Text.Hex

/-!
# Hexadecimal digits

The digits of a number are read back as the number, if there are enough of them.
-/

namespace Scaffold.Text

variable {n width : Nat}

/-- A digit has its value. -/
theorem hexValue?_upperHexDigit : ∀ n < 16, hexValue? (upperHexDigit n) = some n := by decide

/-- There are as many digits as asked for. -/
theorem length_upperHex (width n : Nat) : (upperHex width n).length = width := by
  induction width generalizing n with
  | zero => rfl
  | succ width ih => rw [upperHex, List.length_append, ih, List.length_singleton]

/-- Every digit is that of a number below sixteen. -/
theorem exists_of_mem_upperHex {c : Char} (h : c ∈ upperHex width n) :
    ∃ d < 16, c = upperHexDigit d := by
  induction width generalizing n with
  | zero => cases h
  | succ width ih =>
    rw [upperHex, List.mem_append, List.mem_singleton] at h
    rcases h with h | rfl
    · exact ih h
    · exact ⟨n % 16, Nat.mod_lt n (by decide), rfl⟩

/-- The digits of a number are read as the number. -/
theorem ofHex?_upperHex (h : n < 16 ^ width) : ofHex? (upperHex width n) = some n := by
  induction width generalizing n with
  | zero =>
    have hzero : n = 0 := by simpa using h
    rw [hzero]
    rfl
  | succ width ih =>
    have hfront := ih (n := n / 16) (Nat.div_lt_of_lt_mul (by rwa [Nat.pow_succ'] at h))
    rw [ofHex?] at hfront ⊢
    rw [upperHex, List.foldlM_append, hfront]
    simp only [List.foldlM_cons, List.foldlM_nil,
      hexValue?_upperHexDigit _ (Nat.mod_lt n (by decide)), Option.map_some, Option.bind_eq_bind,
      Option.bind_some, Option.pure_def]
    rw [Nat.div_add_mod]

/-- A number is written in digits, by which it is read. -/
theorem toHex_spec (n : Nat) :
    (∀ c ∈ toHex n, isHexDigit c = true) ∧ ofHex? (toHex n) = some n := by
  have hvalue : ∀ d < 16, hexValue? (Nat.digitChar d) = some d := by decide
  induction n using Nat.base_induction 16 (by decide) with
  | single d hd =>
    rw [toHex, Nat.toDigits_of_lt_base hd, List.forall_mem_singleton, isHexDigit, ofHex?,
      List.foldlM_cons, hvalue d hd]
    exact ⟨rfl, congrArg some (Nat.zero_add d)⟩
  | digit n d hd hn ih =>
    obtain ⟨hdigits, hread⟩ := ih
    have happend : toHex (16 * n + d) = toHex n ++ [Nat.digitChar d] := by
      rw [toHex, ← Nat.toDigits_append_toDigits (by decide) hn hd,
        Nat.toDigits_of_lt_base hd, toHex]
    rw [ofHex?] at hread
    rw [happend, List.forall_mem_append, List.forall_mem_singleton, isHexDigit, hvalue d hd, ofHex?,
      List.foldlM_append, hread]
    refine ⟨⟨hdigits, rfl⟩, ?_⟩
    rw [Option.bind_eq_bind, Option.bind_some, List.foldlM_cons, hvalue d hd]
    rfl

/-- A digit is below sixteen. -/
theorem hexValue?_lt {c : Char} (h : hexValue? c = some n) : n < 16 := by
  simp only [hexValue?] at h
  split at h
  · cases h; omega
  · split at h
    · cases h; omega
    · split at h
      · cases h; omega
      · cases h

/-- Digits denote a number that fits them. -/
theorem ofHex?_lt {cs : List Char} (h : ofHex? cs = some n) : n < 16 ^ cs.length := by
  have hfold (cs : List Char) (a : Nat)
      (h : cs.foldlM (fun n c => (hexValue? c).map fun v => 16 * n + v) a = some n) :
      n < (a + 1) * 16 ^ cs.length := by
    induction cs generalizing a with
    | nil =>
      obtain rfl : a = n := Option.some.inj h
      simp
    | cons c cs ih =>
      obtain ⟨b, hb, h⟩ := Option.bind_eq_some_iff.1 h
      obtain ⟨d, hd, rfl⟩ := Option.map_eq_some_iff.1 hb
      have hlt := hexValue?_lt hd
      refine Nat.lt_of_lt_of_le (ih _ h) ?_
      rw [List.length_cons, Nat.pow_succ', ← Nat.mul_assoc]
      exact Nat.mul_le_mul_right _ (by omega)
  simpa using hfold cs 0 h

end Scaffold.Text
