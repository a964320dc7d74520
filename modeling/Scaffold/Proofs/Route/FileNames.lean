import Scaffold.Generator
import Scaffold.Proofs.Files.Resolution
import Scaffold.Proofs.Table
import Scaffold.Proofs.Traversal

/-!
# Names of generated files

Only the route handlers for Next.js have names that depend on the catalog: there is one file for
every path, below the directory of the route prefix. The main statement is `staysBelow_names_iff`:
the names of an artifact stay below a directory exactly if it is not for Next.js, or if no path of
the catalog climbs from that directory above the one in which `app` stands.
-/

namespace Scaffold

open Scaffold.Path (StaysBelow descend? split)
open Route

/-! ## Names -/

/-- The names of the files that do not depend on the catalog. -/
def fixedNames : List String := [
  "scheduling-client.ts", "scheduling-proxy.ts", "types.ts", "scheduling.routes.ts",
  "scheduling.plugin.ts", "scheduling.controller.ts", "scheduling.service.ts",
  "scheduling.module.ts"]

/-- A command generates route handlers for Next.js. -/
def ForNextjs (c : Command) (o : Options) : Prop := c = .routes ∧ o.readFramework = .ok .nextjs

/-- Followed from the directory of the route prefix, a path never climbs above the one in which
`app` stands. -/
def StaysInApp (path : String) : Prop :=
  (descend? ["app", "api", "scheduling"] (split path.toList)).isSome

instance (path : String) : Decidable (StaysInApp path) := inferInstanceAs (Decidable (_ = true))

section
variable {clientPath path name : String} {bs : List Binding} {table : Table (List Binding)}

/-- The groups have the paths of the bindings, and no others. -/
theorem mem_names_foldl_addToGroup : path ∈ (bs.foldl addToGroup table).names ↔
    path ∈ table.names ∨ ∃ b ∈ bs, b.relativePath = path := by
  induction bs generalizing table with
  | nil => simp
  | cons b bs ih =>
    rw [List.foldl_cons, ih, addToGroup, Table.mem_names_insert]
    simp [or_assoc, eq_comm]

/-- There is a group for every path of a catalog. -/
theorem mem_names_groups {c : Catalog} : path ∈ (groups (bindings c)).names ↔
    ∃ p ∈ c.endpoints.entries, TypeScript.relativePath p.2.path = path := by
  rw [groups, mem_names_foldl_addToGroup, bindings]
  simp [Table.names, Binding.relativePath, Binding.of]

/-- There is a file for every group. -/
theorem map_fst_nextjsFiles {l : List (String × List Binding)} {files : List (String × String)}
    (h : nextjsFiles clientPath l = .ok files) :
    files.map Prod.fst = l.map fun p => nextjsFile p.1 := by
  induction l generalizing files with
  | nil =>
    cases h
    rfl
  | cons p l ih =>
    obtain ⟨content, -, h⟩ := bind_eq_ok_iff.1 h
    obtain ⟨rest, hrest, h⟩ := bind_eq_ok_iff.1 h
    cases h
    rw [List.map_cons, ih hrest, List.map_cons]

/-- The route handlers for Next.js are the files for the paths of the catalog. -/
theorem mem_names_nextjs {c : Catalog} {a : Artifact} (h : handlers c .nextjs clientPath = .ok a) :
    name ∈ a.names ↔
      ∃ p ∈ c.endpoints.entries, name = nextjsFile (TypeScript.relativePath p.2.path) := by
  obtain ⟨files, hfiles, h⟩ := bind_eq_ok_iff.1 h
  cases h
  have hnames : (Artifact.files (.ofList files)).names = (Table.ofList files).names := rfl
  have hgroups : (groups (bindings c)).entries.map (fun p => nextjsFile p.1) =
      (groups (bindings c)).names.map nextjsFile := by
    rw [Table.names, List.map_map]
    rfl
  rw [hnames, Table.mem_names_ofList, map_fst_nextjsFiles hfiles, hgroups, List.mem_map]
  simp only [mem_names_groups]
  constructor
  · rintro ⟨_, ⟨p, hp, rfl⟩, rfl⟩
    exact ⟨p, hp, rfl⟩
  · rintro ⟨p, hp, rfl⟩
    exact ⟨_, ⟨p, hp, rfl⟩, rfl⟩

end

/-! ## Commands -/

section
variable {g : Generator} {c : Command} {o : Options} {a : Artifact}

/-- A single file has one of the names. -/
theorem mem_fixedNames_of_single {single content name : String} (h : single ∈ fixedNames)
    (hname : name ∈ (Artifact.single single content).names) : name ∈ fixedNames := by
  rw [List.mem_singleton.1 hname]
  exact h

theorem ok_of_map_artifact {x : Except Error Artifact}
    (h : x.map Output.artifact = .ok (.artifact a)) : x = .ok a := by
  cases x with
  | error => cases h
  | ok => cases h; rfl

/-- Route handlers are those of the framework of the options. -/
theorem handlers_of_routes (h : g.routes o = .ok a) : ∃ framework clientPath,
    o.readFramework = .ok framework ∧ handlers g.catalog framework clientPath = .ok a := by
  obtain ⟨framework, hframework, h⟩ := bind_eq_ok_iff.1 h
  exact ⟨framework, _, ok_of_mapError hframework, ok_of_mapError h⟩

/-- The route handlers of the other frameworks have names that do not depend on the catalog. -/
theorem mem_fixedNames_of_handlers {framework : Framework} {clientPath name : String} {c : Catalog}
    (h : handlers c framework clientPath = .ok a) (hother : framework ≠ .nextjs)
    (hname : name ∈ a.names) : name ∈ fixedNames := by
  cases framework with
  | nextjs => exact absurd rfl hother
  | express | fastify =>
    obtain ⟨content, -, h⟩ := bind_eq_ok_iff.1 h
    cases h
    exact mem_fixedNames_of_single (by decide) hname
  | nestjs =>
    obtain ⟨controller, -, h⟩ := bind_eq_ok_iff.1 h
    obtain ⟨service, -, h⟩ := bind_eq_ok_iff.1 h
    obtain ⟨module, -, h⟩ := bind_eq_ok_iff.1 h
    cases h
    have hnames := Table.mem_names_ofList.1 hname
    simp only [List.map_cons, List.map_nil] at hnames
    exact List.mem_of_mem_drop (i := 5) hnames

/-- What is not for Next.js has names that do not depend on the catalog. -/
theorem mem_fixedNames {name : String} (h : g.run c o = .ok (.artifact a)) (hother : ¬ForNextjs c o)
    (hname : name ∈ a.names) : name ∈ fixedNames := by
  cases c with
  | client =>
    have hclient : g.client o = .ok a := ok_of_map_artifact h
    obtain ⟨environment, -, hclient⟩ := bind_eq_ok_iff.1 hclient
    obtain ⟨url, -, hclient⟩ := bind_eq_ok_iff.1 hclient
    obtain ⟨content, -, hclient⟩ := bind_eq_ok_iff.1 hclient
    cases hclient
    exact mem_fixedNames_of_single (by decide) hname
  | proxyClient =>
    have hproxy : g.proxyClient o = .ok a := ok_of_map_artifact h
    obtain ⟨content, -, hproxy⟩ := bind_eq_ok_iff.1 hproxy
    cases hproxy
    exact mem_fixedNames_of_single (by decide) hname
  | types =>
    have htypes : g.types = .ok a := ok_of_map_artifact h
    obtain ⟨content, -, htypes⟩ := bind_eq_ok_iff.1 htypes
    cases htypes
    exact mem_fixedNames_of_single (by decide) hname
  | routes =>
    obtain ⟨framework, clientPath, hframework, h⟩ := handlers_of_routes (ok_of_map_artifact h)
    refine mem_fixedNames_of_handlers h (fun hnextjs => hother ⟨rfl, ?_⟩) hname
    rw [hframework, hnextjs]
  | listEndpoints => cases h

/-- For Next.js there is a file for every path. -/
theorem mem_names_of_forNextjs {name : String} (h : g.run c o = .ok (.artifact a))
    (hnextjs : ForNextjs c o) : name ∈ a.names ↔
      ∃ p ∈ g.catalog.endpoints.entries, name = nextjsFile (TypeScript.relativePath p.2.path) := by
  obtain ⟨rfl, hread⟩ := hnextjs
  obtain ⟨framework, clientPath, hframework, h⟩ := handlers_of_routes (ok_of_map_artifact h)
  rw [hread] at hframework
  cases hframework
  exact mem_names_nextjs h

end

/-! ## Where the files stand -/

section
variable {names : List String} {path : String}

/-- Slashes in front lead nowhere. -/
theorem descend?_dropWhile (cs : List Char) :
    descend? names (split (cs.dropWhile (· == '/'))) = descend? names (split cs) := by
  induction cs with
  | nil => rfl
  | cons c cs ih =>
    by_cases hslash : c = '/'
    · subst hslash
      rw [List.dropWhile_cons_of_pos rfl, ih]
      rfl
    · rw [List.dropWhile_cons_of_neg (by simpa using hslash)]

/-- The pieces of the file for a path. -/
theorem split_nextjsFile (relativePath : String) : split (nextjsFile relativePath).toList =
    ["app", "api", "scheduling"] ++ (split relativePath.toList ++ ["route.ts"]) := by
  have htext : (nextjsFile relativePath).toList =
      "app/api/scheduling".toList ++ '/' :: (relativePath.toList ++ '/' :: "route.ts".toList) := by
    simp only [nextjsFile, Client.routePrefix, String.toList_append, List.append_assoc]
    rfl
  rw [htext, Path.split_append, Path.split_append]
  rfl

/-- The file for a path is where the path leads from the directory of the route prefix. -/
theorem descend?_nextjsFile (path : String) :
    descend? [] (split (nextjsFile (TypeScript.relativePath path)).toList) =
      (descend? ["app", "api", "scheduling"] (split path.toList)).map (· ++ ["route.ts"]) := by
  have hrelative : split (TypeScript.relativePath path).toList =
      split (path.toList.dropWhile (· == '/')) := by
    rw [TypeScript.relativePath, String.toList_ofList]
  have happ : descend? [] ["app", "api", "scheduling"] = some ["app", "api", "scheduling"] := rfl
  rw [split_nextjsFile, Path.descend?_append, happ, Option.bind_some, Path.descend?_append,
    hrelative, descend?_dropWhile]
  cases descend? ["app", "api", "scheduling"] (split path.toList) <;> rfl

/-- The file for a path stays below a directory exactly if the path stays in the one in which `app`
stands. -/
theorem staysBelow_nextjsFile_iff :
    StaysBelow (nextjsFile (TypeScript.relativePath path)) ↔ StaysInApp path := by
  constructor
  · rintro ⟨-, names, -, hnames⟩
    rw [descend?_nextjsFile] at hnames
    obtain ⟨_, hsome, -⟩ := Option.map_eq_some_iff.1 hnames
    exact Option.isSome_of_eq_some hsome
  · intro h
    obtain ⟨names, hnames⟩ := Option.isSome_iff_exists.1 h
    refine ⟨by simp [nextjsFile], names ++ ["route.ts"], by simp, ?_⟩
    rw [descend?_nextjsFile, hnames, Option.map_some]

/-- A name that does not depend on the catalog is one piece, which leads neither nowhere nor up. -/
theorem split_of_mem_fixedNames {name : String} (h : name ∈ fixedNames) :
    split name.toList = [name] ∧ Path.isIdle name = false ∧ (name == "..") = false := by
  have hplain : ∀ name ∈ fixedNames,
      '/' ∉ name.toList ∧ Path.isIdle name = false ∧ (name == "..") = false := by
    decide +kernel
  obtain ⟨hslash, hidle, hup⟩ := hplain name h
  exact ⟨by rw [Path.split_of_not_mem hslash, String.ofList_toList], hidle, hup⟩

theorem descend?_of_mem_fixedNames {name : String} (h : name ∈ fixedNames) :
    descend? [] (split name.toList) = some [name] := by
  obtain ⟨hsplit, hidle, hup⟩ := split_of_mem_fixedNames h
  rw [hsplit, descend?, hidle, hup]
  rfl

/-- So it stays below a directory. -/
theorem staysBelow_of_mem_fixedNames {name : String} (h : name ∈ fixedNames) : StaysBelow name := by
  have hrelative : ∀ name ∈ fixedNames, name.toList.head? ≠ some '/' := by decide +kernel
  exact ⟨hrelative name h, [name], List.cons_ne_nil name [], descend?_of_mem_fixedNames h⟩

/-- The names of an artifact stay below a directory exactly if it is not for Next.js, or if no path
of the catalog climbs above the directory in which `app` stands. -/
theorem staysBelow_names_iff {g : Generator} {c : Command} {o : Options} {a : Artifact}
    (h : g.run c o = .ok (.artifact a)) : (∀ name ∈ a.names, StaysBelow name) ↔
      (ForNextjs c o → ∀ p ∈ g.catalog.endpoints.entries, StaysInApp p.2.path) := by
  constructor
  · intro hstay hnextjs p hp
    exact staysBelow_nextjsFile_iff.1 (hstay _ ((mem_names_of_forNextjs h hnextjs).2 ⟨p, hp, rfl⟩))
  · intro hpaths name hname
    by_cases hnextjs : ForNextjs c o
    · obtain ⟨p, hp, rfl⟩ := (mem_names_of_forNextjs h hnextjs).1 hname
      exact staysBelow_nextjsFile_iff.2 (hpaths hnextjs p hp)
    · exact staysBelow_of_mem_fixedNames (mem_fixedNames h hnextjs hname)

/-! ## Pieces that lead up -/

/-- The file for a path has a piece that leads up exactly if the path has one. -/
theorem up_mem_nextjsFile_iff :
    ".." ∈ split (nextjsFile (TypeScript.relativePath path)).toList ↔ ".." ∈ split path.toList := by
  have hslashes (cs : List Char) : ".." ∈ split (cs.dropWhile (· == '/')) ↔ ".." ∈ split cs := by
    induction cs with
    | nil => rfl
    | cons c cs ih =>
      by_cases hslash : c = '/'
      · subst hslash
        rw [List.dropWhile_cons_of_pos rfl, ih, split]
        simp
      · rw [List.dropWhile_cons_of_neg (by simpa using hslash)]
  rw [split_nextjsFile, TypeScript.relativePath, String.toList_ofList, ← hslashes path.toList]
  simp

/-- No name of an artifact has a piece that leads up exactly if it is not for Next.js, or if no path
of the catalog has one. -/
theorem up_not_mem_names_iff {g : Generator} {c : Command} {o : Options} {a : Artifact}
    (h : g.run c o = .ok (.artifact a)) : (∀ name ∈ a.names, ".." ∉ split name.toList) ↔
      (ForNextjs c o → ∀ p ∈ g.catalog.endpoints.entries, ".." ∉ split p.2.path.toList) := by
  have hfixed : ∀ name ∈ fixedNames, ".." ∉ split name.toList := fun name hname => by
    obtain ⟨hsplit, -, hup⟩ := split_of_mem_fixedNames hname
    rw [hsplit, List.mem_singleton]
    exact Ne.symm (ne_of_beq_false hup)
  constructor
  · intro hnames hnextjs p hp hup
    exact hnames _ ((mem_names_of_forNextjs h hnextjs).2 ⟨p, hp, rfl⟩) (up_mem_nextjsFile_iff.2 hup)
  · intro hpaths name hname
    by_cases hnextjs : ForNextjs c o
    · obtain ⟨p, hp, rfl⟩ := (mem_names_of_forNextjs h hnextjs).1 hname
      exact fun hup => hpaths hnextjs p hp (up_mem_nextjsFile_iff.1 hup)
    · exact hfixed name (mem_fixedNames h hnextjs hname)

end

end Scaffold
