import Mathlib.Data.List.Forall2
import Scaffold.Table

/-!
# Traversals that succeed

A sequence of steps that may fail answers with the first failure in order. So a traversal succeeds
exactly if its function succeeds on every entry, and then the results stand in the places of the
entries: `mapM_eq_ok_iff` says so of lists, `Table.traverse_eq_ok_iff` of tables.
-/

namespace Scaffold

variable {α β ε : Type}

/-- Two steps in a row succeed if the first does and the second does with its result. -/
theorem bind_eq_ok_iff {x : Except ε α} {f : α → Except ε β} {b : β} :
    x >>= f = .ok b ↔ ∃ a, x = .ok a ∧ f a = .ok b := by
  cases x with
  | error e => exact ⟨nofun, nofun⟩
  | ok a => exact ⟨fun h => ⟨a, rfl, h⟩, fun ⟨_, ha, h⟩ => by cases ha; exact h⟩

/-- Two steps in a row fail if one of them does. -/
theorem bind_eq_error_iff {x : Except ε α} {f : α → Except ε β} {e : ε} :
    x >>= f = .error e ↔ x = .error e ∨ ∃ a, x = .ok a ∧ f a = .error e := by
  cases x with
  | error e' =>
    constructor
    · intro h
      cases h
      exact .inl rfl
    · rintro (h | ⟨a, h, -⟩)
      · cases h
        rfl
      · cases h
  | ok a =>
    refine ⟨fun h => .inr ⟨a, rfl, h⟩, ?_⟩
    rintro (h | ⟨b, h, hb⟩)
    · cases h
    · cases h
      exact hb

/-- A step whose errors are named otherwise succeeds where it succeeded before. -/
theorem ok_of_mapError {ε' : Type} {x : Except ε α} {f : ε → ε'} {a : α}
    (h : x.mapError f = .ok a) : x = .ok a := by
  cases x with
  | error => cases h
  | ok => cases h; rfl

/-- It fails where it failed before. -/
theorem mapError_eq_error_iff {ε' : Type} {x : Except ε α} {f : ε → ε'} {e : ε'} :
    x.mapError f = .error e ↔ ∃ e', x = .error e' ∧ e = f e' := by
  cases x with
  | error e' => simp [Except.mapError, eq_comm]
  | ok a => simp [Except.mapError]

/-- A step whose result is changed fails as it did before. -/
theorem map_eq_error_iff {x : Except ε α} {f : α → β} {e : ε} :
    x.map f = .error e ↔ x = .error e := by
  cases x with
  | error e' => simp [Except.map]
  | ok a => simp [Except.map]

/-- A step succeeds unless it fails. -/
theorem exists_eq_ok_iff {x : Except ε α} : (∃ a, x = .ok a) ↔ ∀ e, x ≠ .error e := by
  cases x with
  | error e => simp
  | ok a => simp

/-- A check in front of a step that may fail is passed if its condition does not hold. -/
theorem ite_error_eq_ok_iff {p : Prop} [Decidable p] {e : ε} {x : Except ε α} {a : α} :
    (if p then .error e else x) = .ok a ↔ ¬p ∧ x = .ok a := by
  split
  · exact ⟨nofun, fun h => absurd ‹p› h.1⟩
  · exact ⟨fun h => ⟨‹_›, h⟩, fun h => h.2⟩

/-- Where every item of a list has a partner, the list has a list of partners. -/
theorem exists_forall₂ {R : α → β → Prop} {l : List α} (h : ∀ a ∈ l, ∃ b, R a b) :
    ∃ r, List.Forall₂ R l r := by
  induction l with
  | nil => exact ⟨[], .nil⟩
  | cons a l ih =>
    obtain ⟨b, hb⟩ := h a (.head _)
    obtain ⟨r, hr⟩ := ih fun x hx => h x (.tail _ hx)
    exact ⟨b :: r, .cons hb hr⟩

/-- Every item of the second list is the partner of an item of the first. -/
theorem exists_mem_of_forall₂ {R : α → β → Prop} {l : List α} {r : List β}
    (h : List.Forall₂ R l r) {b : β} (hb : b ∈ r) : ∃ a ∈ l, R a b := by
  induction h with
  | nil => cases hb
  | cons hab _ ih =>
    rcases List.mem_cons.1 hb with rfl | hb
    · exact ⟨_, .head _, hab⟩
    · obtain ⟨a, ha, hR⟩ := ih hb
      exact ⟨a, .tail _ ha, hR⟩

/-- What holds of all items of a list holds of all their partners. -/
theorem forall_mem_congr_of_forall₂ {P : α → Prop} {Q : β → Prop} {l : List α} {r : List β}
    (h : List.Forall₂ (fun a b => P a ↔ Q b) l r) : (∀ a ∈ l, P a) ↔ ∀ b ∈ r, Q b := by
  induction h with
  | nil => simp
  | cons hab _ ih => rw [List.forall_mem_cons, List.forall_mem_cons, hab, ih]

/-- Partners with equal images make lists with equal images. -/
theorem map_eq_of_forall₂ {γ : Type} {f : α → γ} {g : β → γ} {l : List α} {r : List β}
    (h : List.Forall₂ (fun a b => f a = g b) l r) : l.map f = r.map g := by
  rwa [← List.forall₂_eq_eq_eq, List.forall₂_map_left_iff, List.forall₂_map_right_iff]

/-- A list is mapped successfully if its items are, one by one. -/
theorem mapM_eq_ok_iff {f : α → Except ε β} {l : List α} {r : List β} :
    l.mapM f = .ok r ↔ List.Forall₂ (fun a b => f a = .ok b) l r := by
  induction l generalizing r with
  | nil =>
    rw [List.forall₂_nil_left_iff, List.mapM_nil]
    exact ⟨fun h => by cases h; rfl, fun h => by rw [h]; rfl⟩
  | cons a l ih =>
    rw [List.forall₂_cons_left_iff, List.mapM_cons, bind_eq_ok_iff]
    refine exists_congr fun b => ?_
    rw [bind_eq_ok_iff]
    constructor
    · rintro ⟨hb, s, hs, h⟩
      cases h
      exact ⟨s, hb, ih.1 hs, rfl⟩
    · rintro ⟨s, hb, hs, rfl⟩
      exact ⟨hb, s, ih.2 hs, rfl⟩

namespace Table

/-- What a traversal of entries answers: the entry of every name is computed from that of the same
name, in the same place. -/
def Traversed (f : String → α → Except ε β) (p : String × α) (q : String × β) : Prop :=
  q.1 = p.1 ∧ f p.1 p.2 = .ok q.2

/-- The entries of a list are traversed successfully if they are, one by one. -/
theorem traverseEntries_eq_ok_iff {f : String → α → Except ε β} {l : List (String × α)}
    {m : { m : List (String × β) // m.map Prod.fst = l.map Prod.fst }} :
    traverseEntries f l = .ok m ↔ List.Forall₂ (Traversed f) l m.1 := by
  induction l with
  | nil =>
    obtain ⟨m, hm⟩ := m
    cases List.map_eq_nil_iff.1 hm
    simp [traverseEntries]
  | cons p l ih =>
    obtain ⟨k, a⟩ := p
    obtain ⟨m, hm⟩ := m
    rw [List.forall₂_cons_left_iff]
    constructor
    · intro h
      rw [traverseEntries] at h
      cases hb : f k a with
      | error e => rw [hb] at h; cases h
      | ok b =>
        rw [hb] at h
        cases hr : traverseEntries f l with
        | error e => rw [hr] at h; cases h
        | ok s => rw [hr] at h; cases h; exact ⟨(k, b), s.1, ⟨rfl, hb⟩, ih.1 hr, rfl⟩
    · rintro ⟨⟨k', b⟩, s, ⟨rfl, hb⟩, hs, rfl⟩
      have hs' := ih (m := ⟨s, (List.cons.inj hm).2⟩).2 hs
      rw [traverseEntries, hb, hs']

/-- A traversal keeps the names and their order. -/
theorem names_of_traversed {f : String → α → Except ε β} {l : List (String × α)}
    {m : List (String × β)} (h : List.Forall₂ (Traversed f) l m) :
    m.map Prod.fst = l.map Prod.fst :=
  (map_eq_of_forall₂ (h.imp fun _ _ hpq => hpq.1.symm)).symm

/-- A table is traversed successfully if its entries are, one by one. -/
theorem traverse_eq_ok_iff {f : String → α → Except ε β} {t : Table α} {u : Table β} :
    t.traverse f = .ok u ↔ List.Forall₂ (Traversed f) t.entries u.entries := by
  rw [traverse]
  constructor
  · intro h
    cases hm : traverseEntries f t.entries with
    | error e => rw [hm] at h; cases h
    | ok m => rw [hm] at h; cases h; exact traverseEntries_eq_ok_iff.1 hm
  · intro h
    rw [traverseEntries_eq_ok_iff (m := ⟨u.entries, names_of_traversed h⟩) |>.2 h]

/-- A function that succeeds on every entry traverses the table. -/
theorem exists_traverse {f : String → α → Except ε β} {t : Table α}
    (h : ∀ p ∈ t.entries, ∃ b, f p.1 p.2 = .ok b) : ∃ u, t.traverse f = .ok u := by
  obtain ⟨m, hm⟩ := exists_forall₂ (R := Traversed f) fun p hp =>
    have ⟨b, hb⟩ := h p hp
    ⟨(p.1, b), rfl, hb⟩
  have hn : m.map Prod.fst = t.entries.map Prod.fst := names_of_traversed hm
  exact ⟨⟨m, hn ▸ t.distinct⟩, traverse_eq_ok_iff.2 hm⟩

end Table

end Scaffold
