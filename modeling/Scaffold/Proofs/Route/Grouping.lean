import Mathlib.Data.List.Induction
import Scaffold.Proofs.Route.Serving

/-!
# The route modules and the router

For Next.js, the handlers of a catalog are split up: there is a file for each relative path. The
paths come in the order in which they come first among the operations (`names_groups`), and the
group of a path is what was filtered for it (`entries_groups`). The main statement is
`route_modules_partition_handlers`: no file replaces another one, and together they have the
handlers of the router for Express.
-/

namespace Scaffold.Route

open TypeScript (relativePath)

/-! ## In the order of the first ones -/

section
variable {l : List String} {name : String}

/-- A name behind a list is erased if it is in the list. -/
theorem eraseDups_concat : (l ++ [name]).eraseDups =
    if name ∈ l then l.eraseDups else l.eraseDups ++ [name] := by
  rw [List.eraseDups_append, List.removeAll]
  by_cases h : name ∈ l
  · rw [if_pos h, List.filter_cons_of_neg (by simpa using h), List.filter_nil]
    exact List.append_nil _
  · rw [if_neg h, List.filter_cons_of_pos (by simpa using h), List.filter_nil]
    rfl

/-- What is left are the names in the order in which they come first. -/
theorem pairwise_eraseDups (l : List String) :
    l.eraseDups.Pairwise fun name other => l.idxOf name < l.idxOf other := by
  induction l using List.reverseRecOn with
  | nil => exact .nil
  | append_singleton l last ih =>
    -- a name behind the list leaves the first places as they are
    have hplace {name : String} (h : name ∈ l.eraseDups) :
        (l ++ [last]).idxOf name = l.idxOf name :=
      List.idxOf_append_of_mem (List.mem_eraseDups.1 h)
    have hkept : l.eraseDups.Pairwise fun name other =>
        (l ++ [last]).idxOf name < (l ++ [last]).idxOf other :=
      ih.imp_of_mem fun hname hother h => by rwa [hplace hname, hplace hother]
    rw [eraseDups_concat]
    by_cases hlast : last ∈ l
    · rwa [if_pos hlast]
    · rw [if_neg hlast]
      refine List.pairwise_append.2 ⟨hkept, List.pairwise_singleton _ _,
        fun name hname other hother => ?_⟩
      rw [List.mem_singleton.1 hother, hplace hname, List.idxOf_append_of_notMem hlast]
      exact Nat.lt_of_lt_of_le (List.idxOf_lt_length_of_mem (List.mem_eraseDups.1 hname))
        (Nat.le_add_right _ _)

end

/-! ## Groups -/

/-- A binding adds its path behind the others, unless it is there. -/
theorem names_addToGroup (table : Table (List Binding)) (b : Binding) : (addToGroup table b).names =
    if b.relativePath ∈ table.names then table.names else table.names ++ [b.relativePath] :=
  Table.names_insertEntry _ _ _

/-- The paths of the groups come in the order in which they come first among the bindings. -/
theorem names_groups (bs : List Binding) :
    (groups bs).names = (bs.map Binding.relativePath).eraseDups := by
  induction bs using List.reverseRecOn with
  | nil => rfl
  | append_singleton bs b ih =>
    have hstep : groups (bs ++ [b]) = addToGroup (groups bs) b := List.foldl_concat _ _ _ _
    rw [hstep, names_addToGroup, ih, List.map_append, List.map_singleton, eraseDups_concat]
    simp only [List.mem_eraseDups]

/-- A group is what is filtered for its path. -/
theorem entries_groups (bs : List Binding) : (groups bs).entries =
    (bs.map Binding.relativePath).eraseDups.map fun path =>
    (path, bs.filter fun b => b.relativePath = path) := by
  rw [← names_groups, Table.names, List.map_map]
  refine (List.map_id _).symm.trans (List.map_congr_left fun p hp => ?_)
  exact Prod.ext rfl (eq_filter_of_mem_groups hp)

/-! ## Files -/

/-- The relative paths of the operations, in order. -/
def relativePaths (c : Catalog) : List String :=
  c.endpoints.entries.map fun p => relativePath p.2.path

/-- The bindings of the operations that have a relative path. -/
def bindingsAt (c : Catalog) (path : String) : List Binding :=
  (bindings c).filter fun b => b.relativePath = path

/-- There is a file for each relative path of a catalog, in the order of the first operations of the
paths. It has the handlers of that path, each once. -/
structure SplitsByPath (c : Catalog) (clientPath : String) (a : Artifact) : Prop where
  names : a.names = (relativePaths c).eraseDups.map nextjsFile
  distinct : a.names.Nodup
  order : (relativePaths c).eraseDups.Pairwise fun path other =>
    (relativePaths c).idxOf path < (relativePaths c).idxOf other
  content : ∀ path ∈ relativePaths c, ∃ text, (nextjsFile path, text) ∈ a.entries ∧
    Template.Name.nextjsRoute.render (context clientPath (bindingsAt c path)) = .ok text ∧
    Dialect.nextjs.readText? text = some (handlersAt c path)
  once : ∀ path, (handlersAt c path).Nodup
  /-- All files that are rendered are kept. -/
  kept : nextjsFiles clientPath (groups (bindings c)).entries = .ok a.entries

section
variable {c : Catalog} {a : Artifact} {clientPath : String}

theorem relativePaths_bindings (c : Catalog) :
    (bindings c).map Binding.relativePath = relativePaths c := by
  rw [bindings, List.map_map, relativePaths]
  rfl

/-- The bindings of a relative path take the steps of its handlers. -/
theorem map_steps_bindingsAt (c : Catalog) (path : String) :
    (bindingsAt c path).map Binding.steps = handlersAt c path := map_steps_filter c path

/-- The handlers of a catalog are distinct, -/
theorem nodup_handlers (c : Catalog) :
    (c.endpoints.entries.map fun p => handlerSteps p.1 p.2).Nodup :=
  List.Nodup.map_on
    (fun _ hp _ hq h => Prod.ext (eq_of_handlerSteps h)
      (Table.eq_of_mem_entries hp (eq_of_handlerSteps h ▸ hq)))
    (List.Nodup.of_map _ c.endpoints.distinct)

/-- and those of a path are some of them. -/
theorem nodup_handlersAt (c : Catalog) (path : String) : (handlersAt c path).Nodup :=
  (nodup_handlers c).sublist (List.filter_sublist.map _)

/-- The route modules of an accepted catalog split its handlers by path. -/
theorem splitsByPath_nextjs (hc : c.Accepted) (hentries : a.entries =
    (groups (bindings c)).entries.map fun p =>
    (nextjsFile p.1, Layout.nextjs.text clientPath p.2)) : SplitsByPath c clientPath a := by
  have hnames := names_of_entries hentries
  refine ⟨?_, hnames ▸ nodup_nextjsFiles (bindings c), pairwise_eraseDups _, fun path hpath => ?_,
    nodup_handlersAt c, ?_⟩
  · rw [hnames, entries_groups, relativePaths_bindings, List.map_map]
    rfl
  · have hgroup : (path, bindingsAt c path) ∈ (groups (bindings c)).entries := by
      rw [entries_groups, relativePaths_bindings]
      exact List.mem_map.2 ⟨path, List.mem_eraseDups.2 hpath, rfl⟩
    refine ⟨Layout.nextjs.text clientPath (bindingsAt c path), ?_,
      renders_nextjs.render_eq clientPath _, ?_⟩
    · rw [hentries]
      exact List.mem_map.2 ⟨_, hgroup, rfl⟩
    · have hread := readText?_group hc clientPath hgroup
      rwa [map_steps_bindingsAt] at hread
  · rw [nextjsFiles_eq, hentries]

/-- The groups have the bindings of the router in another order. -/
theorem flatMap_bindingsAt_perm (c : Catalog) :
    ((relativePaths c).eraseDups.flatMap (bindingsAt c)).Perm (bindings c) := by
  have hgroups := flatMap_groups_perm (bindings c)
  rwa [entries_groups, relativePaths_bindings, List.flatMap_map] at hgroups

end

/-! ## All route modules -/

/-- The route modules of an accepted catalog split its handlers by path. Together they are rendered
from the bindings of the router for Express, and read as its handlers, in another order. -/
theorem route_modules_partition_handlers {c : Catalog} (hc : c.Accepted) (clientPath : String) :
    ∃ a router split handled, handlers c .nextjs clientPath = .ok a ∧ SplitsByPath c clientPath a ∧
      handlers c .express clientPath = .ok router ∧
      ((relativePaths c).eraseDups.flatMap (bindingsAt c)).Perm (bindings c) ∧
      Dialect.nextjs.readFiles? a = some split ∧ Dialect.express.readFiles? router = some handled ∧
      handled.Nodup ∧ split.Perm handled := by
  obtain ⟨a, ha, hentries⟩ := exists_handlers_nextjs c clientPath
  obtain ⟨a', split, ha', hsplit, hperm⟩ := exists_readFiles? hc clientPath .nextjs
  cases ha.symm.trans ha'
  obtain ⟨router, handled, hrouter, hhandled, hperm'⟩ := exists_readFiles? hc clientPath .express
  have hnodup : handled.Nodup := by
    rw [map_steps_bindings] at hperm'
    exact hperm'.nodup_iff.2 (nodup_handlers c)
  exact ⟨a, router, split, handled, ha, splitsByPath_nextjs hc hentries, hrouter,
    flatMap_bindingsAt_perm c, hsplit, hhandled, hnodup, hperm.trans hperm'.symm⟩

/-- The draft of a catalog where an operation stands between two that share a relative path. -/
def interleavedDraft : CatalogDraft :=
  { Client.probeCatalogDraft "/slots" with
    endpoints := ⟨[("listSlots", listingDraft "/slots"), ("listUsers", listingDraft "/users"),
      ("listAll", listingDraft "//slots")], by simp⟩ }

/-- The catalog with these operations. -/
def interleaved : Catalog :=
  ⟨⟨[("listSlots", listing "/slots"), ("listUsers", listing "/users"),
    ("listAll", listing "//slots")], by simp⟩, Catalog.Builtin.types⟩

/-- The file for the shared path stands where the first of its operations does. -/
theorem interleaved_handlers_are_split : interleaved.Accepted ∧ ∃ a text split handled,
    handlers interleaved .nextjs "@/lib/scheduling-client" = .ok a ∧
    a.names = ["app/api/scheduling/slots/route.ts", "app/api/scheduling/users/route.ts"] ∧
    ("app/api/scheduling/slots/route.ts", text) ∈ a.entries ∧
    Dialect.nextjs.readText? text =
      some [handlerSteps "listSlots" (listing "/slots"),
        handlerSteps "listAll" (listing "//slots")] ∧
    Dialect.nextjs.readFiles? a = some split ∧ split.Perm handled ∧ handled.Nodup := by
  have haccepted : interleaved.Accepted := ⟨interleavedDraft, rfl⟩
  obtain ⟨a, router, split, handled, ha, hsplits, -, -, hsplit, -, hnodup, hperm⟩ :=
    route_modules_partition_handlers haccepted "@/lib/scheduling-client"
  obtain ⟨text, hfile, -, hread⟩ := hsplits.content "slots" (.head _)
  exact ⟨haccepted, a, text, split, handled, ha, hsplits.names, hfile, hread, hsplit, hperm, hnodup⟩

end Scaffold.Route
