import Mathlib.Data.List.Basic
import Scaffold.Table

/-!
# What tables hold

The names of a table are distinct, so an entry is found under its name exactly if it is listed
(`Table.get?_eq_some_iff`). Inserting adds a name and no other (`Table.mem_names_insert`), and pairs
under distinct names are listed as they are inserted (`Table.entries_ofList`).
-/

namespace Scaffold.Table

variable {α β : Type} {t : Table α} {name other : String} {a : α} {l : List (String × α)}

/-! ## Looking up -/

/-- In a list of pairs with distinct names, a pair is found under its name exactly if it is
there. -/
theorem lookup_eq_some_iff (h : (l.map Prod.fst).Nodup) :
    l.lookup name = some a ↔ (name, a) ∈ l := by
  induction l with
  | nil => simp
  | cons p l ih =>
    obtain ⟨k, b⟩ := p
    rw [List.map_cons, List.nodup_cons] at h
    rw [List.lookup_cons, List.mem_cons]
    by_cases hk : name = k
    · subst hk
      have hnew : (name, a) ∉ l := fun hmem => h.1 (List.mem_map.2 ⟨_, hmem, rfl⟩)
      simp [hnew, eq_comm]
    · rw [beq_false_of_ne hk, ih h.2]
      simp [hk]

/-- What is found among mapped values is mapped. -/
theorem lookup_map_snd (f : α → β) :
    (l.map fun p => (p.1, f p.2)).lookup name = (l.lookup name).map f := by
  induction l with
  | nil => rfl
  | cons p l ih =>
    obtain ⟨k, a⟩ := p
    rw [List.map_cons, List.lookup_cons, List.lookup_cons, ih]
    cases name == k <;> rfl

/-- An entry is found under its name exactly if it is listed. -/
theorem get?_eq_some_iff : t.get? name = some a ↔ (name, a) ∈ t.entries :=
  lookup_eq_some_iff t.distinct

/-- There is one entry under a name. -/
theorem eq_of_mem_entries {b : α} (ha : (name, a) ∈ t.entries) (hb : (name, b) ∈ t.entries) :
    a = b :=
  Option.some.inj ((get?_eq_some_iff.2 ha).symm.trans (get?_eq_some_iff.2 hb))

/-- Nothing is found under a name exactly if it is not listed. -/
theorem get?_eq_none_iff : t.get? name = none ↔ name ∉ t.names := by
  rw [Option.eq_none_iff_forall_ne_some, names, List.mem_map]
  simp only [ne_eq, get?_eq_some_iff, not_exists, not_and]
  exact ⟨fun h p hp hn => h p.2 (hn ▸ hp), fun h a hmem => h (name, a) hmem rfl⟩

/-- One entry of a list of pairs with distinct names has a given name. -/
theorem filter_name (h : (l.map Prod.fst).Nodup) (ha : (name, a) ∈ l) :
    l.filter (fun p => p.1 == name) = [(name, a)] := by
  induction l with
  | nil => cases ha
  | cons p l ih =>
    rw [List.map_cons, List.nodup_cons] at h
    obtain rfl | ha := List.mem_cons.1 ha
    · have hrest : ∀ q ∈ l, ¬(q.1 == name) = true := fun q hq heq =>
        h.1 (List.mem_map.2 ⟨q, hq, eq_of_beq heq⟩)
      rw [List.filter_cons, if_pos (beq_self_eq_true name), List.filter_eq_nil_iff.2 hrest]
    · have hne : ¬(p.1 == name) = true := fun heq =>
        h.1 (List.mem_map.2 ⟨(name, a), ha, (eq_of_beq heq).symm⟩)
      rw [List.filter_cons, if_neg hne, ih h.2 ha]

/-- Something is found under a name exactly if it is listed. -/
theorem isSome_get?_iff : (t.get? name).isSome ↔ name ∈ t.names := by
  rw [Option.isSome_iff_ne_none, ne_eq, get?_eq_none_iff, not_not]

/-- A listed entry has its name among the names. -/
theorem mem_names_of_mem (h : (name, a) ∈ t.entries) : name ∈ t.names := List.mem_map_of_mem h

/-! ## Inserting -/

/-- Inserting adds a name and no other. -/
theorem mem_names_insert : other ∈ (t.insert name a).names ↔ other ∈ t.names ∨ other = name := by
  rw [names, entries_insert, names_insertEntry]
  split
  · rename_i h
    exact ⟨.inl, fun hor => hor.elim id fun heq => heq ▸ h⟩
  · rw [List.mem_append, List.mem_singleton, names]

/-- Behind an insertion, the entry of the name is the new one. -/
theorem get?_insert :
    (t.insert name a).get? other = if other = name then some a else t.get? other := by
  have hentries : ∀ l : List (String × α),
      (insertEntry name a l).lookup other = if other = name then some a else l.lookup other := by
    intro l
    induction l with
    | nil =>
      rw [insertEntry, List.lookup_cons]
      cases h : other == name <;> simp_all
    | cons p l ih =>
      obtain ⟨k, b⟩ := p
      rw [insertEntry]
      by_cases hk : k = name
      · subst hk
        rw [if_pos rfl, List.lookup_cons, List.lookup_cons]
        cases h : other == k <;> simp_all
      · rw [if_neg hk, List.lookup_cons, List.lookup_cons, ih]
        cases h : other == k <;> simp_all
  exact hentries t.entries

/-- A new name comes last. -/
theorem insertEntry_of_not_mem (h : name ∉ l.map Prod.fst) :
    insertEntry name a l = l ++ [(name, a)] := by
  induction l with
  | nil => rfl
  | cons p l ih =>
    obtain ⟨k, b⟩ := p
    rw [List.map_cons, List.mem_cons, not_or] at h
    rw [insertEntry, if_neg (Ne.symm h.1), ih h.2, List.cons_append]

/-- Pairs that are inserted into a table. -/
theorem names_foldl_insert : other ∈ (l.foldl (fun t p => t.insert p.1 p.2) t).names ↔
    other ∈ t.names ∨ other ∈ l.map Prod.fst := by
  induction l generalizing t with
  | nil => simp
  | cons p l ih =>
    rw [List.foldl_cons, ih, mem_names_insert, List.map_cons, List.mem_cons, or_assoc]

/-- The names of a table that is made of pairs are those of the pairs. -/
theorem mem_names_ofList : name ∈ (ofList l).names ↔ name ∈ l.map Prod.fst := by
  rw [ofList, names_foldl_insert]
  simp [names]

/-- Pairs under new and distinct names are listed behind the others. -/
theorem entries_foldl_insert (h : (t.names ++ l.map Prod.fst).Nodup) :
    (l.foldl (fun t p => t.insert p.1 p.2) t).entries = t.entries ++ l := by
  induction l generalizing t with
  | nil => simp
  | cons p l ih =>
    obtain ⟨k, b⟩ := p
    have hnew : k ∉ t.entries.map Prod.fst := fun hk =>
      List.nodup_append.1 h |>.2.2 k hk k (by simp) rfl
    have hentries : (t.insert k b).entries = t.entries ++ [(k, b)] := insertEntry_of_not_mem hnew
    rw [List.foldl_cons, ih, hentries, List.append_assoc, List.singleton_append]
    rw [names, hentries]
    simpa [names] using h

/-- Pairs under distinct names are listed as they are inserted. -/
theorem entries_ofList (h : (l.map Prod.fst).Nodup) : (ofList l).entries = l := by
  rw [ofList, entries_foldl_insert (by simpa [names] using h), entries_empty, List.nil_append]

/-- Pairs under distinct names are found as they are inserted. -/
theorem get?_ofList (h : (l.map Prod.fst).Nodup) : (ofList l).get? name = l.lookup name := by
  rw [get?, entries_ofList h]

end Scaffold.Table
