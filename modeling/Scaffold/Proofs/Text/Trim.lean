import Mathlib.Data.List.TakeWhile
import Scaffold.Text.Blank

/-!
# What trimming leaves

`trimChars` takes the blanks off both ends: a text is what is left of it between blanks
(`exists_blanks_trimChars`), what is left has no blank at its ends (`trimmed_trimChars`), and blanks
around a text make no difference (`trimChars_append`). So a text is left as it is exactly if it is
`Trimmed`.
-/

namespace Scaffold.Text

/-- Nothing but blanks. -/
def Blanks (cs : List Char) : Prop := ∀ c ∈ cs, isBlank c = true

/-- No blank at either end. -/
structure Trimmed (cs : List Char) : Prop where
  head : ∀ c, cs.head? = some c → isBlank c = false
  last : ∀ c, cs.getLast? = some c → isBlank c = false

variable {cs ds pre post : List Char}

/-- No text is blank. -/
theorem blanks_nil : Blanks [] := nofun

/-- Blanks are blanks from either side. -/
theorem Blanks.reverse (h : Blanks cs) : Blanks cs.reverse :=
  fun c hc => h c (List.mem_reverse.1 hc)

/-- Where no blank is in front, none is dropped. -/
theorem dropWhile_isBlank_eq_self (h : ∀ c, cs.head? = some c → isBlank c = false) :
    cs.dropWhile isBlank = cs := by
  cases cs with
  | nil => rfl
  | cons c cs => exact List.dropWhile_cons_of_neg (by simp [h c rfl])

/-- What blanks are dropped from does not begin with one. -/
theorem isBlank_head?_dropWhile {c : Char} (h : (cs.dropWhile isBlank).head? = some c) :
    isBlank c = false := by
  have := List.head?_dropWhile_not isBlank cs
  rwa [h] at this

/-- Blanks in front are dropped. -/
theorem dropWhile_isBlank_append (h : Blanks pre) :
    (pre ++ cs).dropWhile isBlank = cs.dropWhile isBlank := List.dropWhile_append_of_pos h

/-- A trimmed text stays as it is. -/
theorem Trimmed.trimChars_eq (h : Trimmed cs) : trimChars cs = cs := by
  rw [trimChars, dropWhile_isBlank_eq_self h.head, dropWhile_isBlank_eq_self, List.reverse_reverse]
  intro c hc
  rw [List.head?_reverse] at hc
  exact h.last c hc

/-- What is left of a text is trimmed. -/
theorem trimmed_trimChars (cs : List Char) : Trimmed (trimChars cs) := by
  constructor
  · intro c hc
    have hpre : trimChars cs <+: cs.dropWhile isBlank := by
      rw [← List.reverse_suffix, trimChars, List.reverse_reverse]
      exact List.dropWhile_suffix _
    obtain ⟨rest, hrest⟩ := hpre
    have hhead : (cs.dropWhile isBlank).head? = some c := by
      rw [← hrest, List.head?_append, hc]
      rfl
    exact isBlank_head?_dropWhile hhead
  · intro c hc
    rw [trimChars, List.getLast?_reverse] at hc
    exact isBlank_head?_dropWhile hc

/-- The trimmed texts are those that stay as they are. -/
theorem trimmed_iff : Trimmed cs ↔ trimChars cs = cs :=
  ⟨Trimmed.trimChars_eq, fun h => h ▸ trimmed_trimChars cs⟩

/-- A text is what is left of it, between blanks. -/
theorem exists_blanks_trimChars (cs : List Char) :
    ∃ pre post, Blanks pre ∧ Blanks post ∧ cs = pre ++ trimChars cs ++ post := by
  have split (l : List Char) : Blanks (l.takeWhile isBlank) := fun c hc => List.mem_takeWhile_imp hc
  refine ⟨cs.takeWhile isBlank, ((cs.dropWhile isBlank).reverse.takeWhile isBlank).reverse,
    split _, (split _).reverse, ?_⟩
  rw [trimChars, List.append_assoc, ← List.reverse_append, List.takeWhile_append_dropWhile,
    List.reverse_reverse, List.takeWhile_append_dropWhile]

/-- Blanks around a text make no difference. -/
theorem trimChars_append (hpre : Blanks pre) (hpost : Blanks post) :
    trimChars (pre ++ cs ++ post) = trimChars cs := by
  rw [trimChars, List.append_assoc, dropWhile_isBlank_append hpre, List.dropWhile_append]
  split
  · rename_i h
    have hcs : cs.dropWhile isBlank = [] := List.isEmpty_iff.1 h
    have hdrop : post.dropWhile isBlank = [] := by
      simpa [Blanks] using hpost
    rw [trimChars, hcs, hdrop]
  · rw [List.reverse_append, dropWhile_isBlank_append hpost.reverse, trimChars]

/-- Blanks in front make no difference. -/
theorem trimChars_dropWhile (cs : List Char) : trimChars (cs.dropWhile isBlank) = trimChars cs := by
  rw [trimChars, dropWhile_isBlank_eq_self fun _ => isBlank_head?_dropWhile, trimChars]

/-- In front of a trimmed text that is not empty, only blanks at the beginning are lost. -/
theorem trimChars_append_trimmed (h : Trimmed ds) (hne : ds ≠ []) :
    trimChars (cs ++ ds) = cs.dropWhile isBlank ++ ds := by
  have hdrop : (cs ++ ds).dropWhile isBlank = cs.dropWhile isBlank ++ ds := by
    rw [List.dropWhile_append]
    split
    · rename_i hcs
      rw [List.isEmpty_iff.1 hcs, dropWhile_isBlank_eq_self h.head, List.nil_append]
    · rfl
  rw [trimChars, hdrop, dropWhile_isBlank_eq_self, List.reverse_reverse]
  intro c hc
  rw [List.head?_reverse, List.getLast?_append, List.getLast?_eq_some_getLast hne] at hc
  exact h.last c (by rw [List.getLast?_eq_some_getLast hne]; exact hc)

end Scaffold.Text
