import Mathlib.Data.List.Nodup
import Mathlib.Data.List.Perm.Basic
import Scaffold.Proofs.Route.FileNames
import Scaffold.Proofs.Route.Layout

/-!
# Groups of bindings

For Next.js, the bindings of a catalog are grouped by their relative paths, and there is a file for
every group. A group holds the bindings of its path in order (`eq_filter_of_mem_groups`), and
together the groups hold each binding once (`flatMap_groups_perm`).
-/

namespace Scaffold.Route

/-! ## One binding after the other -/

section
variable {b : Binding} {bs : List Binding} {table : Table (List Binding)} {path : String}

/-- The bindings under a path. -/
def groupAt (table : Table (List Binding)) (path : String) : List Binding :=
  (table.get? path).getD []

/-- A binding comes behind those of its path, and the other paths keep theirs. -/
theorem groupAt_addToGroup : groupAt (addToGroup table b) path =
    groupAt table path ++ if b.relativePath = path then [b] else [] := by
  rw [groupAt, addToGroup, Table.get?_insert]
  by_cases h : b.relativePath = path
  · rw [if_pos h.symm, if_pos h, h]
    rfl
  · rw [if_neg (Ne.symm h), if_neg h, List.append_nil]
    rfl

/-- So all bindings come behind those of their paths, in order. -/
theorem groupAt_foldl : groupAt (bs.foldl addToGroup table) path =
    groupAt table path ++ bs.filter fun b => b.relativePath = path := by
  induction bs generalizing table with
  | nil => simp
  | cons b bs ih =>
    rw [List.foldl_cons, ih, groupAt_addToGroup, List.append_assoc]
    by_cases h : b.relativePath = path <;> simp [h]

/-- Adding a binding adds it to all the bindings and changes nothing else but the order. -/
theorem flatMap_addToGroup_perm (table : Table (List Binding)) (b : Binding) :
    ((addToGroup table b).entries.flatMap Prod.snd).Perm
    (table.entries.flatMap Prod.snd ++ [b]) := by
  have hentries : ∀ l : List (String × List Binding),
      ((Table.insertEntry b.relativePath ((l.lookup b.relativePath).getD [] ++ [b]) l).flatMap
        Prod.snd).Perm (l.flatMap Prod.snd ++ [b]) := by
    intro l
    induction l with
    | nil => simp [Table.insertEntry]
    | cons p l ih =>
      obtain ⟨path, group⟩ := p
      rw [Table.insertEntry, List.lookup_cons]
      by_cases h : path = b.relativePath
      · rw [if_pos h, h, beq_self_eq_true]
        simp only [List.flatMap_cons, Option.getD_some, List.append_assoc]
        exact List.perm_append_comm.append_left group
      · rw [if_neg h, beq_false_of_ne (Ne.symm h)]
        simp only [List.flatMap_cons, List.append_assoc]
        exact ih.append_left group
  exact hentries table.entries

theorem flatMap_foldl_perm (table : Table (List Binding)) (bs : List Binding) :
    ((bs.foldl addToGroup table).entries.flatMap Prod.snd).Perm
    (table.entries.flatMap Prod.snd ++ bs) := by
  induction bs generalizing table with
  | nil => simp
  | cons b bs ih =>
    rw [List.foldl_cons, List.append_cons]
    exact (ih _).trans ((flatMap_addToGroup_perm table b).append_right bs)

end

/-! ## All groups -/

section
variable {bs group : List Binding} {path : String}

/-- A group holds the bindings of its path, in order. -/
theorem eq_filter_of_mem_groups (h : (path, group) ∈ (groups bs).entries) :
    group = bs.filter fun b => b.relativePath = path := by
  have hgroup : groupAt (groups bs) path = group := by rw [groupAt, Table.get?_eq_some_iff.2 h]; rfl
  rw [← hgroup, groups, groupAt_foldl]
  rfl

/-- Together the groups hold each binding once. -/
theorem flatMap_groups_perm (bs : List Binding) : ((groups bs).entries.flatMap Prod.snd).Perm bs :=
  flatMap_foldl_perm .empty bs

/-- Files of distinct paths have distinct names. -/
theorem nextjsFile_injective : Function.Injective nextjsFile := fun p q h => by
  simpa [nextjsFile] using h

/-- The files for the groups have distinct names. -/
theorem nodup_nextjsFiles (bs : List Binding) :
    ((groups bs).entries.map fun p => nextjsFile p.1).Nodup := by
  have hnames : ((groups bs).entries.map Prod.fst).map nextjsFile =
      (groups bs).entries.map fun p => nextjsFile p.1 := by
    rw [List.map_map]
    rfl
  exact hnames ▸ List.Nodup.map nextjsFile_injective (groups bs).distinct

/-- For Next.js there is a file for every group, and no other. -/
theorem exists_handlers_nextjs (c : Catalog) (clientPath : String) : ∃ a,
    handlers c .nextjs clientPath = .ok a ∧ a.entries =
      (groups (bindings c)).entries.map fun p =>
      (nextjsFile p.1, Layout.nextjs.text clientPath p.2) := by
  refine ⟨_, handlers_nextjs c clientPath, Table.entries_ofList ?_⟩
  rw [List.map_map]
  exact nodup_nextjsFiles (bindings c)

/-- They are named for the paths of the groups. -/
theorem names_of_entries {a : Artifact} {clientPath : String} (h : a.entries =
    (groups bs).entries.map fun p => (nextjsFile p.1, Layout.nextjs.text clientPath p.2)) :
    a.names = (groups bs).entries.map fun p => nextjsFile p.1 := by
  rw [Artifact.names, h, List.map_map]
  rfl

/-- For NestJS there are three files. -/
theorem exists_handlers_nestjs (c : Catalog) (clientPath : String) : ∃ a,
    handlers c .nestjs clientPath = .ok a ∧ a.entries = [
      ("scheduling.controller.ts", Layout.controller.text clientPath (bindings c)),
      ("scheduling.service.ts", Layout.service.text clientPath (bindings c)),
      ("scheduling.module.ts", "\n".intercalate moduleLines)] :=
  ⟨_, handlers_nestjs c clientPath, Table.entries_ofList (by simp)⟩

end

end Scaffold.Route
