import Mathlib.Data.List.Basic

/-!
# Reading at places of a text

`Finds read places cs` says that a text has certain places, one behind the other, and that `read`
answers there as told. A text is put together from parts, and `Adds` is what a part does to the
places of whatever stands behind it: parts that are put together add their places in order
(`Adds.append`, `Adds.join`).
-/

namespace Scaffold.Text

variable {α β : Type} {read : List Char → Option (α × List Char)} {places more : List (String × α)}
  {s t : String}

/-- One behind the other, a text has the fronts of the places in it, and behind each of them `read`
gives the value of the place. The next place is in what reading leaves. -/
def Finds (read : List Char → Option (α × List Char)) : List (String × α) → List Char → Prop
  | [], _ => True
  | (front, a) :: places, cs => ∃ before behind rest,
      cs = before ++ front.toList ++ behind ∧ read behind = some (a, rest) ∧ Finds read places rest

/-- Places have values that can be read. -/
theorem Finds.forall_of_reads {P : α → Prop} {cs : List Char} (h : Finds read places cs)
    (hread : ∀ cs a rest, read cs = some (a, rest) → P a) : ∀ p ∈ places, P p.2 := by
  induction places generalizing cs with
  | nil => exact List.forall_mem_nil _
  | cons place places ih =>
    obtain ⟨-, behind, rest, -, hplace, hmore⟩ := h
    exact List.forall_mem_cons.2 ⟨hread behind _ rest hplace, ih hmore⟩

/-- A text adds places to those of what stands behind it. -/
structure Adds (read : List Char → Option (α × List Char)) (places : List (String × α))
    (s : String) : Prop where
  step : ∀ more rest, Finds read more rest → Finds read (places ++ more) (s.toList ++ rest)

/-- What adds places has them. -/
theorem Adds.finds (h : Adds read places s) : Finds read places s.toList := by
  have := h.step [] [] trivial
  rwa [List.append_nil, List.append_nil] at this

/-- A text in front of places takes none away. -/
theorem adds_nil (s : String) : Adds read [] s where
  step more rest h := by
    cases more with
    | nil => trivial
    | cons place more =>
      obtain ⟨before, behind, left, rfl, hread, hmore⟩ := h
      exact ⟨s.toList ++ before, behind, left, by simp only [List.append_assoc], hread, hmore⟩

/-- A text with something behind it that is read, whatever follows, has a place there. -/
theorem adds_of_reads {a : α} (h : ∀ rest, read (s.toList ++ rest) = some (a, rest))
    (front : String) : Adds read [(front, a)] (front ++ s) where
  step _ rest hmore :=
    ⟨[], s.toList ++ rest, rest,
      by simp only [String.toList_append, List.append_assoc, List.nil_append], h rest, hmore⟩

/-- Two texts have the places of the first in front of those of the second. -/
theorem Adds.append (hs : Adds read places s) (ht : Adds read more t) :
    Adds read (places ++ more) (s ++ t) where
  step others rest h := by
    rw [String.toList_append, List.append_assoc, List.append_assoc]
    exact hs.step _ _ (ht.step _ _ h)

/-- A text without places may stand in front, -/
theorem Adds.behind (h : Adds read places t) (s : String) : Adds read places (s ++ t) :=
  (adds_nil s).append h

/-- and behind. -/
theorem Adds.before (h : Adds read places s) (t : String) : Adds read places (s ++ t) := by
  have := h.append (adds_nil t)
  rwa [List.append_nil] at this

/-- Texts that are joined have all their places, in order. -/
theorem Adds.join {places : β → List (String × α)} {f : β → String} {l : List β}
    (h : ∀ b ∈ l, Adds read (places b) (f b)) :
    Adds read (l.flatMap places) (String.join (l.map f)) := by
  induction l with
  | nil => exact adds_nil _
  | cons b l ih =>
    rw [List.flatMap_cons, List.map_cons, String.join_cons]
    exact (h b (.head l)).append (ih fun c hc => h c (.tail b hc))

/-- So have texts with a separator between them. -/
theorem Adds.intercalate {places : β → List (String × α)} {f : β → String} {l : List β}
    (h : ∀ b ∈ l, Adds read (places b) (f b)) (sep : String) :
    Adds read (l.flatMap places) (sep.intercalate (l.map f)) := by
  induction l with
  | nil => exact adds_nil _
  | cons b l ih =>
    have hb := h b (.head l)
    have hl := ih fun c hc => h c (.tail b hc)
    cases l with
    | nil =>
      rw [List.flatMap_singleton, List.map_singleton, String.intercalate_singleton]
      exact hb
    | cons c l =>
      rw [List.flatMap_cons, List.map_cons, List.map_cons, String.intercalate_cons_cons]
      exact (hb.before sep).append hl

end Scaffold.Text
