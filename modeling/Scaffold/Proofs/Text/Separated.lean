import Mathlib.Data.List.Basic

/-!
# Texts with a separator between them

Texts that are joined with a separator can be told apart again if none of them has the first
character of the separator in it (`splitOn_intercalate`). So the joined text determines the texts,
and all that can be seen in each of them: `intercalate_map_inj`.
-/

namespace Scaffold.Text

/-! ## Lists of characters -/

/-- A separator of more than one character is its first one, with the others in front of the
next text. -/
theorem intercalate_cons_sep {α : Type} (c : α) (cs w : List α) (ws : List (List α)) :
    (c :: cs).intercalate (w :: ws) = [c].intercalate (w :: ws.map (cs ++ ·)) := by
  induction ws generalizing w with
  | nil => rfl
  | cons v ws ih =>
    have hfront (tail : List (List α)) :
        [c].intercalate ((cs ++ v) :: tail) = cs ++ [c].intercalate (v :: tail) := by
      cases tail <;> simp
    rw [List.intercalate_cons_cons, ih, List.map_cons, List.intercalate_cons_cons, hfront]
    simp

section
variable {c : Char} {cs w : List Char} {ws : List (List Char)}

/-- Joined texts are split where the separator begins. -/
theorem splitOn_intercalate (hcs : c ∉ cs) (hws : ∀ v ∈ w :: ws, c ∉ v) :
    ((c :: cs).intercalate (w :: ws)).splitOn c = w :: ws.map (cs ++ ·) := by
  rw [intercalate_cons_sep]
  refine List.splitOn_intercalate c (fun u hu => ?_) (List.cons_ne_nil _ _)
  obtain rfl | hu := List.mem_cons.1 hu
  · exact hws u (.head _)
  · obtain ⟨v, hv, rfl⟩ := List.mem_map.1 hu
    exact fun hc => (List.mem_append.1 hc).elim hcs (hws v (.tail _ hv))

end

/-! ## Texts -/

/-- A text that is not empty and that a separator with this first character does not begin in. -/
structure Piece (c : Char) (s : String) : Prop where
  nonempty : s ≠ ""
  apart : c ∉ s.toList

section
variable {c : Char} {cs : List Char} {sep : String} {l m : List String}

/-- The joined text is empty exactly if there is nothing to join. -/
theorem intercalate_eq_empty_iff (hl : ∀ s ∈ l, Piece c s) : sep.intercalate l = "" ↔ l = [] := by
  cases l with
  | nil => simp
  | cons s l =>
    have hs := (hl s (.head _)).nonempty
    cases l with
    | nil => simpa using hs
    | cons t l =>
      rw [String.intercalate_cons_cons]
      simp [hs]

/-- A joined text is split into its texts, where the rest of the separator stays in front. -/
theorem splitOn_toList_intercalate {s : String} (hsep : sep.toList = c :: cs) (hcs : c ∉ cs)
    (h : ∀ t ∈ s :: l, Piece c t) : (sep.intercalate (s :: l)).toList.splitOn c =
      s.toList :: (l.map String.toList).map (cs ++ ·) := by
  rw [String.toList_intercalate, hsep, List.map_cons]
  refine splitOn_intercalate hcs fun v hv => ?_
  rw [← List.map_cons (f := String.toList)] at hv
  obtain ⟨t, ht, rfl⟩ := List.mem_map.1 hv
  exact (h t ht).apart

/-- So it determines them. -/
theorem intercalate_inj (hsep : sep.toList = c :: cs) (hcs : c ∉ cs) (hl : ∀ s ∈ l, Piece c s)
    (hm : ∀ s ∈ m, Piece c s) : sep.intercalate l = sep.intercalate m ↔ l = m := by
  refine ⟨fun h => ?_, congrArg _⟩
  cases l with
  | nil => exact ((intercalate_eq_empty_iff hm).1 h.symm).symm
  | cons s l =>
    cases m with
    | nil => exact (intercalate_eq_empty_iff hl).1 h
    | cons t m =>
      have hsplit := congrArg (fun s : String => s.toList.splitOn c) h
      simp only [splitOn_toList_intercalate hsep hcs hl, splitOn_toList_intercalate hsep hcs hm,
        List.cons.injEq, String.toList_inj] at hsplit
      obtain ⟨hfirst, hrest⟩ := hsplit
      have hlists := List.map_injective_iff.2 (List.append_right_injective cs) hrest
      rw [hfirst, List.map_injective_iff.2 (fun _ _ => String.toList_inj.1) hlists]

/-- The text that is joined from texts for the elements of a list determines what these texts do. -/
theorem intercalate_map_inj {α β : Type} {f : α → String} {g : α → β} {l m : List α}
    (hsep : sep.toList = c :: cs) (hcs : c ∉ cs) (hl : ∀ a ∈ l, Piece c (f a))
    (hm : ∀ a ∈ m, Piece c (f a)) (hg : ∀ a ∈ l, ∀ b ∈ m, f a = f b ↔ g a = g b) :
    sep.intercalate (l.map f) = sep.intercalate (m.map f) ↔ l.map g = m.map g := by
  rw [intercalate_inj hsep hcs (List.forall_mem_map.2 hl) (List.forall_mem_map.2 hm)]
  clear hl hm
  induction l generalizing m with
  | nil => cases m <;> simp
  | cons a l ih =>
    cases m with
    | nil => simp
    | cons b m =>
      have hfirst := hg a (.head _) b (.head _)
      have hrest := ih fun a ha b hb => hg a (.tail _ ha) b (.tail _ hb)
      simp only [List.map_cons, List.cons.injEq, hfirst, hrest]

end

end Scaffold.Text
