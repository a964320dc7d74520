/-!
# Tables

A table lists entries under distinct names, in the order in which the names first came in.
`insert` replaces the entry of a known name in its place and appends the entry of a new one;
`ofList` inserts one entry after the other.
-/

namespace Scaffold

/-- Entries under distinct names, in order. -/
structure Table (α : Type) where
  /-- The entries with their names, in order. -/
  entries : List (String × α)
  /-- No name occurs twice. -/
  distinct : (entries.map Prod.fst).Nodup

namespace Table

variable {α β : Type}

/-- The table without entries. -/
def empty : Table α := ⟨[], by simp⟩

instance : Inhabited (Table α) := ⟨empty⟩

/-- Two tables are equal if they have the same entries in the same order. -/
theorem eq_of_entries {t u : Table α} (h : t.entries = u.entries) : t = u := by
  cases t; cases u; cases h; rfl

instance [DecidableEq α] : DecidableEq (Table α) := fun t u =>
  if h : t.entries = u.entries then isTrue (eq_of_entries h)
  else isFalse fun e => h (e ▸ rfl)

/-- The names, in order. -/
def names (t : Table α) : List String := t.entries.map Prod.fst

/-- The entries without their names, in order. -/
def values (t : Table α) : List α := t.entries.map Prod.snd

/-- The number of entries. -/
def size (t : Table α) : Nat := t.entries.length

/-- Whether there is no entry. -/
def isEmpty (t : Table α) : Bool := t.entries.isEmpty

/-- The entry under a name. -/
def get? (t : Table α) (name : String) : Option α := t.entries.lookup name

/-- The entries with that of `name` replaced, or with a new one at the end. -/
def insertEntry (name : String) (a : α) : List (String × α) → List (String × α)
  | [] => [(name, a)]
  | (k, b) :: rest => if k = name then (k, a) :: rest else (k, b) :: insertEntry name a rest

theorem names_insertEntry (name : String) (a : α) (l : List (String × α)) :
    (insertEntry name a l).map Prod.fst =
      if name ∈ l.map Prod.fst then l.map Prod.fst else l.map Prod.fst ++ [name] := by
  induction l with
  | nil => simp [insertEntry]
  | cons e rest ih =>
    obtain ⟨k, b⟩ := e
    by_cases h : k = name
    · simp [insertEntry, h]
    · have h' : ¬ name = k := fun e => h e.symm
      by_cases m : name ∈ rest.map Prod.fst
      · simp only [if_pos m] at ih
        simp only [insertEntry, if_neg h, List.map_cons, ih, List.mem_cons, h', m, or_true, if_true]
      · simp only [if_neg m] at ih
        simp only [insertEntry, if_neg h, List.map_cons, ih, List.mem_cons, h', m, or_false,
          if_false, List.cons_append]

/-- The table with `a` as the entry of `name`. -/
def insert (t : Table α) (name : String) (a : α) : Table α where
  entries := insertEntry name a t.entries
  distinct := by
    rw [names_insertEntry]
    split
    · exact t.distinct
    · rename_i h
      refine List.nodup_append.2 ⟨t.distinct, by simp, ?_⟩
      intro x hx y hy e
      simp only [List.mem_singleton] at hy
      exact h (hy ▸ e ▸ hx)

/-- The table that arises from inserting the pairs of a list in order. -/
def ofList (l : List (String × α)) : Table α :=
  l.foldl (fun t e => t.insert e.1 e.2) empty

/-- The entries changed by a function that sees their names and may fail; the first failure in
order is the result. -/
def traverseEntries {ε : Type} (f : String → α → Except ε β) : (l : List (String × α)) →
    Except ε { m : List (String × β) // m.map Prod.fst = l.map Prod.fst }
  | [] => .ok ⟨[], rfl⟩
  | (k, a) :: rest =>
    match f k a with
    | .error e => .error e
    | .ok b =>
      match traverseEntries f rest with
      | .error e => .error e
      | .ok m => .ok ⟨(k, b) :: m.1, by simp [m.2]⟩

/-- The table with the same names whose entries `f` computes; the first failure in order is
the result. -/
def traverse {ε : Type} (f : String → α → Except ε β) (t : Table α) : Except ε (Table β) :=
  match traverseEntries f t.entries with
  | .error e => .error e
  | .ok m => .ok ⟨m.1, by rw [m.2]; exact t.distinct⟩

@[simp] theorem entries_empty : (empty : Table α).entries = [] := rfl

@[simp] theorem entries_insert (t : Table α) (name : String) (a : α) :
    (t.insert name a).entries = insertEntry name a t.entries := rfl

end Table

end Scaffold
