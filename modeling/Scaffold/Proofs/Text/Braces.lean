import Mathlib.Data.List.Basic

/-!
# Matching braces

`Matched` says that the braces of a text are nested and match each other, whatever stands between
them. It is decided by counting (`matched_iff`): no brace closes more than was opened, and in the
end nothing is open. A text can stand anywhere without disturbing the braces around it exactly if
its own ones match (`neutral_iff_matched`).
-/

namespace Scaffold.Text

/-- The characters that count. -/
def isBrace (c : Char) : Bool := c == '\x7b' || c == '\x7d'

/-- The braces of a text, in order. -/
def braces (cs : List Char) : List Char := cs.filter isBrace

/-- The braces of a text are nested and match each other. -/
inductive Matched : List Char → Prop
  | nil : Matched []
  | other {c : Char} {cs : List Char} : isBrace c = false → Matched cs → Matched (c :: cs)
  | pair {inner rest : List Char} : Matched inner → Matched rest →
      Matched ('\x7b' :: (inner ++ '\x7d' :: rest))

/-- A text leaves the braces around it as they are. -/
def Neutral (cs : List Char) : Prop :=
  ∀ front back, Matched (front ++ cs ++ back) ↔ Matched (front ++ back)

/-- How many braces are open behind a character; none if it closes one that is not open. -/
def openBehind? (n : Nat) (c : Char) : Option Nat :=
  if c = '\x7b' then some (n + 1)
  else if c = '\x7d' then
    match n with
    | 0 => none
    | m + 1 => some m
  else some n

section
variable {c : Char} {cs ds : List Char} {n : Nat}

theorem openBehind?_of_not_isBrace (h : isBrace c = false) (n : Nat) :
    openBehind? n c = some n := by
  rw [isBrace, Bool.or_eq_false_iff, beq_eq_false_iff_ne, beq_eq_false_iff_ne] at h
  simp only [openBehind?, if_neg h.1, if_neg h.2]

/-- A character that is no brace does not count. -/
theorem foldlM_other (h : isBrace c = false) :
    (c :: cs).foldlM openBehind? n = cs.foldlM openBehind? n := by
  rw [List.foldlM_cons, openBehind?_of_not_isBrace h]
  rfl

theorem foldlM_opening : ('\x7b' :: cs).foldlM openBehind? n = cs.foldlM openBehind? (n + 1) := rfl

/-- Nothing but the braces counts. -/
theorem foldlM_braces (n : Nat) (cs : List Char) :
    (braces cs).foldlM openBehind? n = cs.foldlM openBehind? n := by
  rw [braces]
  induction cs generalizing n with
  | nil => rfl
  | cons c cs ih =>
    cases h : isBrace c with
    | false => rw [List.filter_cons_of_neg (by simp [h]), foldlM_other h, ih]
    | true =>
      rw [List.filter_cons_of_pos h, List.foldlM_cons, List.foldlM_cons]
      exact congrArg _ (funext ih)

/-- Matching braces leave as many open as before. -/
theorem Matched.foldlM_eq (h : Matched cs) (n : Nat) : cs.foldlM openBehind? n = some n := by
  induction h generalizing n with
  | nil => rfl
  | other hc _ ih => rw [foldlM_other hc, ih]
  | pair _ _ ihinner ihrest =>
    rw [foldlM_opening, List.foldlM_append, ihinner]
    exact ihrest n

/-- Behind some open braces, each of them is closed in turn, and the braces in between match. -/
def Closes : Nat → List Char → Prop
  | 0, cs => Matched cs
  | n + 1, cs => ∃ inner rest, cs = inner ++ '\x7d' :: rest ∧ Matched inner ∧ Closes n rest

/-- Another character may stand in front, -/
theorem Closes.other (hc : isBrace c = false) (h : Closes n cs) : Closes n (c :: cs) := by
  cases n with
  | zero => exact Matched.other hc h
  | succ n =>
    obtain ⟨inner, rest, rfl, hinner, hrest⟩ := h
    exact ⟨c :: inner, rest, rfl, hinner.other hc, hrest⟩

/-- and so may a pair of braces. -/
theorem Closes.opening (h : Closes (n + 1) cs) : Closes n ('\x7b' :: cs) := by
  obtain ⟨inner, rest, rfl, hinner, hrest⟩ := h
  cases n with
  | zero => exact Matched.pair hinner hrest
  | succ n =>
    obtain ⟨more, rest, rfl, hmore, hrest⟩ := hrest
    exact ⟨'\x7b' :: (inner ++ '\x7d' :: more), rest, by simp, hinner.pair hmore, hrest⟩

/-- If in the end nothing is open, all open braces are closed. -/
theorem closes_of_foldlM (h : cs.foldlM openBehind? n = some 0) : Closes n cs := by
  induction cs generalizing n with
  | nil =>
    cases h
    exact Matched.nil
  | cons c cs ih =>
    cases hbrace : isBrace c with
    | false =>
      rw [foldlM_other hbrace] at h
      exact (ih h).other hbrace
    | true =>
      rw [isBrace, Bool.or_eq_true, beq_iff_eq, beq_iff_eq] at hbrace
      obtain rfl | rfl := hbrace
      · exact (ih h).opening
      · cases n with
        | zero => cases h
        | succ n => exact ⟨[], cs, rfl, .nil, ih h⟩

/-- Braces match exactly if none closes more than was opened and in the end nothing is open. -/
theorem matched_iff : Matched cs ↔ cs.foldlM openBehind? 0 = some 0 :=
  ⟨fun h => h.foldlM_eq 0, closes_of_foldlM⟩

instance (cs : List Char) : Decidable (Matched cs) := decidable_of_iff _ matched_iff.symm

/-- Texts with the same braces match or do not match together. -/
theorem matched_congr (h : braces cs = braces ds) : Matched cs ↔ Matched ds := by
  rw [matched_iff, matched_iff, ← foldlM_braces, h, foldlM_braces]

theorem braces_append : braces (cs ++ ds) = braces cs ++ braces ds := List.filter_append ..

/-- A text without braces. -/
theorem braces_eq_nil (h : ∀ c ∈ cs, isBrace c = false) : braces cs = [] := by
  rw [braces, List.filter_eq_nil_iff]
  exact fun c hc => by simp [h c hc]

/-- A text can stand anywhere without disturbing the braces around it exactly if its own
ones match. -/
theorem neutral_iff_matched : Neutral cs ↔ Matched cs := by
  constructor
  · intro h
    have hcs := (h [] []).2 .nil
    rwa [List.nil_append, List.append_nil] at hcs
  · intro h front back
    rw [matched_iff, matched_iff, List.append_assoc, List.foldlM_append, List.foldlM_append]
    have hskip (n : Nat) : (cs ++ back).foldlM openBehind? n = back.foldlM openBehind? n := by
      rw [List.foldlM_append, h.foldlM_eq]
      rfl
    rw [funext hskip]

end

end Scaffold.Text
