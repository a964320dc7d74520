import Scaffold.Proofs.CommandLine.Overwriting
import Scaffold.Proofs.Route.Serving

/-!
# What is on disk after a run

A run with `--force` that succeeds has written every file of its artifact, but a file can take the
place of one that was written before it: names of route modules are distinct as texts, and paths
lead to the same place from distinct texts. The main statement is `forced_run_reads_back_iff`: every
file reads as it was generated exactly if the files go to distinct places (`Apart`), which is a
matter of where the paths of the catalog lead. No file stands on the way to another one then, for
the run would have failed. If nothing was there, the run without `--force` does the same. See
`slash_takes_place_of_module` for a run that loses a file.
-/

namespace Scaffold

open FileTree (SameFiles)
open Scaffold.Path (StaysBelow descend? split)
open Route (ServesRelativePaths nextjsFile nextjsFile_injective)
open TypeScript (relativePath)

/-! ## Places of files -/

/-- The files of an artifact go to distinct places. -/
def Apart (t : FileTree) (dir : String) (a : Artifact) : Prop :=
  ∀ file ∈ a.entries, ∀ other ∈ a.entries, t.goalIn dir file = t.goalIn dir other → file = other

/-- A file stands on the way to another one. -/
def Blocks (t : FileTree) (dir : String) (file other : String × String) : Prop :=
  let path := Path.join dir other.1
  ∃ front rest, rest ≠ [] ∧ path.pieces = front ++ rest ∧
    t.goalIn dir file = Path.resolve (if path.start = .root then [] else t.working) front

/-- Where a path of the catalog leads from the directory of the route prefix, unless it climbs above
the one in which `app` stands. -/
def leadsTo? (path : String) : Option (List String) :=
  descend? ["app", "api", "scheduling"] (split path.toList)

section
variable {a : Artifact} {dir : String} {t : FileTree} {file other : String × String}
  {names : List String}

theorem Artifact.nodup_names (a : Artifact) : a.names.Nodup := by
  cases a with
  | single => exact List.nodup_singleton _
  | files table => exact table.distinct

/-- An artifact has one file of a name. -/
theorem Artifact.eq_of_name (hfile : file ∈ a.entries) (hother : other ∈ a.entries)
    (h : file.1 = other.1) : file = other :=
  List.inj_on_of_nodup_map a.nodup_names hfile hother h

/-- The place of a file whose name stays below the directory. -/
theorem goalIn_eq (h : StaysBelow file.1)
    (hnames : descend? [] (split file.1.toList) = some names) :
    t.goalIn dir file = t.placeOf dir ++ names := by
  rw [FileTree.goalIn, FileTree.goal, FileTree.origin_join h Iff.rfl,
    Path.resolve_join_eq _ _ h.relative hnames, FileTree.placeOf]

/-- Files whose names do not depend on the catalog go to distinct places. -/
theorem apart_of_fixedNames (h : ∀ name ∈ a.names, name ∈ fixedNames) : Apart t dir a := by
  have hplace : ∀ file ∈ a.entries, t.goalIn dir file = t.placeOf dir ++ [file.1] :=
    fun file hfile =>
    have hfixed := h file.1 (List.mem_map_of_mem hfile)
    goalIn_eq (staysBelow_of_mem_fixedNames hfixed) (descend?_of_mem_fixedNames hfixed)
  intro file hfile other hother heq
  rw [hplace file hfile, hplace other hother] at heq
  exact Artifact.eq_of_name hfile hother (by simpa using heq)

end

section
variable {g : Generator} {c : Command} {o : Options} {a : Artifact}

/-- Where the names of an artifact stay below the directory, its files go to distinct places exactly
if it is not for Next.js, or if paths of the catalog that lead to the same place differ in slashes
in front alone. -/
theorem apart_iff (h : g.run c o = .ok (.artifact a)) (hstay : ∀ name ∈ a.names, StaysBelow name)
    (t : FileTree) (dir : String) : Apart t dir a ↔
      (ForNextjs c o → ∀ p ∈ g.catalog.endpoints.entries, ∀ q ∈ g.catalog.endpoints.entries,
        leadsTo? p.2.path = leadsTo? q.2.path → relativePath p.2.path = relativePath q.2.path) := by
  by_cases hnextjs : ForNextjs c o
  · have hmem (name : String) : name ∈ a.names ↔ _ := mem_names_of_forNextjs h hnextjs
    -- the place of the file for a path is where the path leads, below the directory
    have hplace : ∀ file ∈ a.entries, ∀ p : String × Endpoint,
        file.1 = nextjsFile (relativePath p.2.path) → ∃ names, leadsTo? p.2.path = some names ∧
          t.goalIn dir file = t.placeOf dir ++ (names ++ ["route.ts"]) := by
      intro file hfile p hname
      have hbelow := hstay file.1 (List.mem_map_of_mem hfile)
      obtain ⟨names, hnames⟩ :=
        Option.isSome_iff_exists.1 (staysBelow_nextjsFile_iff.1 (hname ▸ hbelow))
      refine ⟨names, hnames, goalIn_eq hbelow ?_⟩
      rw [hname, descend?_nextjsFile, hnames, Option.map_some]
    constructor
    · intro hapart _ p hp q hq hleads
      obtain ⟨file, hfile, hname⟩ := List.mem_map.1 ((hmem _).2 ⟨p, hp, rfl⟩)
      obtain ⟨other, hother, hname'⟩ := List.mem_map.1 ((hmem _).2 ⟨q, hq, rfl⟩)
      obtain ⟨names, hnames, hgoal⟩ := hplace file hfile p hname
      obtain ⟨names', hnames', hgoal'⟩ := hplace other hother q hname'
      obtain rfl : names = names' := Option.some.inj (hnames.symm.trans (hleads.trans hnames'))
      have heq := hapart file hfile other hother (hgoal.trans hgoal'.symm)
      exact nextjsFile_injective (hname.symm.trans ((congrArg Prod.fst heq).trans hname'))
    · intro hpaths file hfile other hother hgoals
      obtain ⟨p, hp, hname⟩ := (hmem _).1 (List.mem_map_of_mem hfile)
      obtain ⟨q, hq, hname'⟩ := (hmem _).1 (List.mem_map_of_mem hother)
      obtain ⟨names, hnames, hgoal⟩ := hplace file hfile p hname
      obtain ⟨names', hnames', hgoal'⟩ := hplace other hother q hname'
      obtain rfl : names = names' := by
        rw [hgoal, hgoal'] at hgoals
        exact List.append_cancel_right (List.append_cancel_left hgoals)
      have hrelative := hpaths hnextjs p hp q hq (hnames.trans hnames'.symm)
      exact Artifact.eq_of_name hfile hother (by rw [hname, hname', hrelative])
  · exact ⟨fun _ hfor => absurd hfor hnextjs, fun _ => apart_of_fixedNames fun name =>
      mem_fixedNames h hnextjs⟩

/-- Files of an artifact with one content that go to one place are one file. -/
theorem eq_of_goalIn_of_content (hc : g.catalog.Accepted) (h : g.run c o = .ok (.artifact a))
    {t : FileTree} {dir : String} {file other : String × String} (hfile : file ∈ a.entries)
    (hother : other ∈ a.entries) (hgoal : t.goalIn dir file = t.goalIn dir other)
    (hcontent : file.2 = other.2) : file = other := by
  by_cases hnextjs : ForNextjs c o
  · obtain ⟨name, content⟩ := file
    obtain ⟨name', content'⟩ := other
    cases hcontent
    rw [(Route.servesRelativePaths_of_run hc h hnextjs).eq_of_text hfile hother]
  · exact apart_of_fixedNames (fun name => mem_fixedNames h hnextjs) file hfile other hother hgoal

end

/-! ## Writing with and without force -/

section
variable {dir : String} {force : Bool} {w : Workspace}

/-- Where nothing is there, a file is written alike with and without force. -/
theorem runOn_writeFile_of_not_isThere {name content : String}
    (h : w.tree.isThere (Path.join dir name) = false) :
    runOn (writeFile dir false name content) w = runOn (writeFile dir true name content) w := by
  simp only [writeFile, runOn_bind, runOn_isThere, h, Bool.false_and]

/-- A file that could be written was not there unless a file was at its place. -/
theorem not_isThere_of_landed {file : String × String} {t t' : FileTree}
    (h : Landed dir force file t t') (hwf : t.WellFormed)
    (hfree : t.fileAt (t.goalIn dir file) = none) : t.isThere (Path.join dir file.1) = false := by
  rw [FileTree.isThere]
  split
  · rename_i place content hfind
    have hplace : place = t.goalIn dir file := FileTree.find_eq_resolve hfind
    rw [FileTree.fileAt, ← hplace, (FileTree.walk_eq_file (FileTree.walk_of_find hfind)).1] at hfree
    cases hfree
  -- a directory would have stayed one
  · rename_i place hfind
    have hplace : place = t.goalIn dir file := FileTree.find_eq_resolve hfind
    have hdir := hwf.walk_eq_directory (hwf.directory_start _) (FileTree.walk_of_find hfind)
    have hstays := h.grows.directory _ (hplace ▸ hdir)
    rw [FileTree.goalIn, (FileTree.walk_eq_file (FileTree.walk_of_find h.wrote.found)).1] at hstays
    cases hstays
  · rfl

/-- Where no file is at the places of files that go to distinct ones, they are written alike with
and without force. -/
theorem runOn_forM_writeFile_unforced {files : List (String × String)} (hwf : w.tree.WellFormed)
    (hfree : ∀ file ∈ files, w.tree.fileAt (w.tree.goalIn dir file) = none)
    (hdistinct : (files.map (w.tree.goalIn dir)).Nodup)
    (hok : (runOn (files.forM fun (name, content) => writeFile dir true name content) w).1 =
      .ok ()) :
    runOn (files.forM fun (name, content) => writeFile dir false name content) w =
      runOn (files.forM fun (name, content) => writeFile dir true name content) w := by
  induction files generalizing w with
  | nil =>
    have hnil (force : Bool) :
        runOn ([].forM fun (name, content) => writeFile dir force name content) w =
        (.ok (), w) := rfl
    rw [hnil, hnil]
  | cons file files ih =>
    have hcons {force : Bool} {w₁ : Workspace}
        (hrun : runOn (writeFile dir force file.1 file.2) w = (.ok (), w₁)) :
        runOn ((file :: files).forM fun (name, content) => writeFile dir force name content) w =
          runOn (files.forM fun (name, content) => writeFile dir force name content) w₁ :=
      runOn_forM_cons_of_ok hrun
    rcases runOn_writeFile_landed dir true file w with ⟨e, w₁, hrun, -⟩ | ⟨w₁, hrun, hlanded⟩
    · have hfails :
          runOn ((file :: files).forM fun (name, content) => writeFile dir true name content) w =
            (.error e, w₁) := runOn_forM_cons_of_error hrun
      rw [hfails] at hok
      cases hok
    · have hthere := not_isThere_of_landed hlanded hwf (hfree file (.head _))
      rw [hcons hrun] at hok ⊢
      rw [hcons ((runOn_writeFile_of_not_isThere hthere).trans hrun)]
      rw [List.map_cons, List.nodup_cons] at hdistinct
      have hgoal (other : String × String) : w₁.tree.goalIn dir other = w.tree.goalIn dir other :=
        hlanded.grows.goal_eq _
      refine ih (hlanded.grows.wellFormed hwf) (fun other hother => ?_) ?_ hok
      · have hne : w.tree.goalIn dir other ≠ w.tree.goalIn dir file := fun heq =>
          hdistinct.1 (heq ▸ List.mem_map_of_mem hother)
        rw [hgoal, hlanded.wrote.fileAt]
        exact (if_neg hne).trans (hfree other (.tail _ hother))
      · rw [List.map_congr_left fun other _ => hgoal other]
        exact hdistinct.2

end

/-! ## Requests without force -/

/-- The subcommand without force. -/
def Subcommand.unforced : Subcommand → Subcommand
  | .client environment typesImportPath target =>
    .client environment typesImportPath { target with force := false }
  | .proxyClient typesImportPath target =>
    .proxyClient typesImportPath { target with force := false }
  | .routes framework clientImportPath target =>
    .routes framework clientImportPath { target with force := false }
  | .types target => .types { target with force := false }
  | .list json => .list json
  | .exec command options target => .exec command options { target with force := false }

/-- The request without force. -/
def Request.unforced : Request → Request
  | .invoke i => .invoke { i with subcommand := i.subcommand.unforced }
  | .refused => .refused
  | .version => .version
  | .help => .help

section
variable {g : Generator} {c : Command} {o : Options} {output : Output} {dir : Option String}
  {force : Bool} {developmentUrl : Option String} {t : FileTree}

theorem Generator.job_unforced {target : Destination}
    (h : g.job c o target = .ok (.output output dir force)) :
    g.job c o { target with force := false } = .ok (.output output dir false) := by
  obtain ⟨hrun, hdir, -⟩ := job_eq_output_iff.1 h
  exact job_eq_output_iff.2 ⟨hrun, hdir, rfl⟩

/-- A subcommand has the same ready without force. -/
theorem Subcommand.job_unforced {s : Subcommand} (h : s.job g o = .ok (.output output dir force)) :
    s.unforced.job g o = .ok (.output output dir false) := by
  cases s with
  | client | proxyClient | routes | types => exact Generator.job_unforced h
  | list => cases h
  | exec command options target =>
    obtain ⟨c, hc, h⟩ := bind_eq_ok_iff.1 h
    obtain ⟨o', ho, h⟩ := bind_eq_ok_iff.1 h
    exact bind_eq_ok_iff.2 ⟨c, hc, bind_eq_ok_iff.2 ⟨o', ho, Generator.job_unforced h⟩⟩

/-- A request writes the same without force. -/
theorem Request.Writes.unforced {r : Request} {a : Artifact} {dir : String}
    (h : r.Writes developmentUrl t a dir force) :
    r.unforced.Writes developmentUrl t a dir false := by
  obtain ⟨i, rfl, hjob⟩ := h
  obtain ⟨config, hconfig, hjob⟩ := bind_eq_ok_iff.1 hjob
  obtain ⟨catalog, hcatalog, hjob⟩ := bind_eq_ok_iff.1 hjob
  exact ⟨_, rfl, bind_eq_ok_iff.2 ⟨config, hconfig, bind_eq_ok_iff.2 ⟨catalog, hcatalog,
    Subcommand.job_unforced hjob⟩⟩⟩

end

/-! ## Runs -/

/-- What is on disk after a run that has written an artifact below a directory. -/
structure OnDisk (developmentUrl : Option String) (r : Request) (w : Workspace) (dir : String)
    (a : Artifact) : Prop where
  /-- Every file reads as what was last written to its place. -/
  read_eq : ∀ file ∈ a.entries, ∃ content,
    lastWritten a.entries (a.entries.map (w.tree.goalIn dir)) (w.tree.goalIn dir file) =
      some content ∧
    (r.runIn developmentUrl w).2.tree.read (Path.join dir file.1) = .ok content
  /-- All of them read as they were generated exactly if they go to distinct places. -/
  reads_back_iff :
    (∀ file ∈ a.entries,
      (r.runIn developmentUrl w).2.tree.read (Path.join dir file.1) = .ok file.2) ↔
    Apart w.tree dir a
  /-- None of them stands on the way to another one. -/
  not_blocks : w.tree.WellFormed → ∀ file ∈ a.entries, ∀ other ∈ a.entries,
    ¬Blocks w.tree dir file other
  /-- Below a directory that was not there, the run without force does the same if the files go to
  distinct places. -/
  unforced : w.tree.WellFormed → w.tree.get? (w.tree.placeOf dir) = none →
    (∀ name ∈ a.names, StaysBelow name) → Apart w.tree dir a →
    r.unforced.runIn developmentUrl w = r.runIn developmentUrl w

section
variable {g : Generator} {c : Command} {o : Options} {a : Artifact} {developmentUrl : Option String}
  {r : Request} {w : Workspace} {dir : String}

/-- A run that succeeds has written all files in turn. -/
theorem Request.Writes.turns {force : Bool} (h : r.Writes developmentUrl w.tree a dir force)
    (hok : (r.runIn developmentUrl w).1.code = 0) :
    (runOn (a.write dir force) w).1 = .ok () ∧
      Turns dir force a.entries w.tree (r.runIn developmentUrl w).2.tree := by
  rw [h.runIn_eq] at hok ⊢
  rcases a.runOn_write dir force w with ⟨e, w', _, _, _, hrun, -⟩ | ⟨w', hrun, -, hturns⟩
  · simp [hrun] at hok
  · simp only [hrun]
    exact ⟨trivial, hturns⟩

/-- Of files that are read, none stands on the way to another one. -/
theorem Turns.not_blocks {force : Bool} {files : List (String × String)} {t t' : FileTree}
    {file other : String × String} (h : Turns dir force files t t') (hwf : t.WellFormed)
    (hfile : file ∈ files) (hother : other ∈ files) : ¬Blocks t dir file other := by
  rintro ⟨front, rest, hrest, hpieces, hgoal⟩
  obtain ⟨_, hfind⟩ := h.find_eq hfile
  obtain ⟨_, hfind'⟩ := h.find_eq hother
  have hwalk := FileTree.walk_of_find hfind'
  rw [hpieces] at hwalk
  have hdir := (h.grows.wellFormed hwf).directory_of_front
    ((h.grows.wellFormed hwf).directory_start _) hwalk hrest
  rw [h.grows.working, ← hgoal, (FileTree.walk_eq_file (FileTree.walk_of_find hfind)).1] at hdir
  cases hdir

/-- After a run that wrote all files in turn, what is on disk. -/
theorem onDisk_of_writes (hc : g.catalog.Accepted) (h : g.run c o = .ok (.artifact a))
    (hwrites : r.Writes developmentUrl w.tree a dir true)
    (hok : (r.runIn developmentUrl w).1.code = 0) : OnDisk developmentUrl r w dir a := by
  obtain ⟨hwrite, hturns⟩ := hwrites.turns hok
  refine ⟨fun file hfile => hturns.read_eq hfile, ⟨fun hread => ?_, fun hapart file hfile => ?_⟩,
    fun hwf file hfile other hother => hturns.not_blocks hwf hfile hother, ?_⟩
  · intro file hfile other hother hgoal
    obtain ⟨content, hlast, hcontent⟩ := hturns.read_eq hfile
    obtain ⟨content', hlast', hcontent'⟩ := hturns.read_eq hother
    rw [hread file hfile] at hcontent
    rw [hread other hother] at hcontent'
    cases hcontent
    cases hcontent'
    rw [hgoal, hlast'] at hlast
    exact eq_of_goalIn_of_content hc h hfile hother hgoal (Option.some.inj hlast).symm
  · obtain ⟨content, hlast, hcontent⟩ := hturns.read_eq hfile
    obtain ⟨other, hother, hgoal, rfl⟩ := exists_of_lastWritten hlast
    rwa [hapart other hother file hfile hgoal] at hcontent
  · intro hwf hnone hstay hapart
    have hdistinct : (a.entries.map (w.tree.goalIn dir)).Nodup :=
      List.Nodup.map_on hapart (List.Nodup.of_map _ a.nodup_names)
    have hfree : ∀ file ∈ a.entries, w.tree.fileAt (w.tree.goalIn dir file) = none := by
      intro file hfile
      have hbelow := hstay file.1 (List.mem_map_of_mem hfile)
      obtain ⟨names, hne, hnames⟩ := hbelow.inside
      rw [goalIn_eq hbelow hnames, FileTree.fileAt]
      by_contra hthere
      -- what stands below a place stands below a directory
      have hdir : w.tree.get? (w.tree.placeOf dir) = some .directory :=
        hwf.directory_of_append hne fun hget => by
          rw [hget] at hthere
          exact hthere rfl
      rw [hnone] at hdir
      cases hdir
    rw [hwrites.unforced.runIn_eq, hwrites.runIn_eq, Artifact.write, Artifact.write,
      runOn_forM_writeFile_unforced hwf hfree hdistinct hwrite]

end

/-- After a run with `--force` that succeeds, all files read as they were generated exactly if they
go to distinct places, and then the run without `--force` does the same below a directory that was
not there. They go to distinct places exactly if the artifact is not for Next.js, or if no two paths
of the catalog lead to the same place that differ in more than slashes in front. -/
theorem forced_run_reads_back_iff {g : Generator} {c : Command} {o : Options} {a : Artifact}
    (hc : g.catalog.Accepted) (h : g.run c o = .ok (.artifact a)) :
    (∀ developmentUrl r w dir, Request.Writes developmentUrl w.tree r a dir true →
      (r.runIn developmentUrl w).1.code = 0 → OnDisk developmentUrl r w dir a) ∧
    ∀ t dir, (∀ name ∈ a.names, StaysBelow name) → (Apart t dir a ↔
      (ForNextjs c o → ∀ p ∈ g.catalog.endpoints.entries, ∀ q ∈ g.catalog.endpoints.entries,
        leadsTo? p.2.path = leadsTo? q.2.path → relativePath p.2.path = relativePath q.2.path)) :=
  ⟨fun _ _ _ _ => onDisk_of_writes hc h, fun t dir hstay => apart_iff h hstay t dir⟩

/-! ## Modules that are on disk -/

/-- A request for route handlers below a directory. -/
def nestjsRequest : Request := .invoke {
  config := none
  catalog := none
  subcommand := .routes (some "nestjs") none { outputDir := some "out", force := true } }

/-- It writes the three modules for NestJS. -/
theorem exists_writes_nestjs (t : FileTree) : ∃ a,
    Generator.builtin.run .routes { framework := some "nestjs" } = .ok (.artifact a) ∧
    a.names = ["scheduling.controller.ts", "scheduling.service.ts", "scheduling.module.ts"] ∧
    nestjsRequest.Writes none t a "out" true := by
  obtain ⟨a, ha, hentries⟩ :=
    Route.exists_handlers_nestjs .builtin Framework.nestjs.clientImportPath
  have hroutes : Generator.builtin.routes { framework := some "nestjs" } = .ok a :=
    bind_eq_ok_iff.2 ⟨.nestjs, rfl, congrArg (Except.mapError .template) ha⟩
  have hrun : Generator.builtin.run .routes { framework := some "nestjs" } = .ok (.artifact a) := by
    rw [Generator.run, hroutes]
    rfl
  exact ⟨a, hrun, by rw [Artifact.names, hentries]; rfl, _, rfl, bind_eq_ok_iff.2 ⟨{}, rfl,
    bind_eq_ok_iff.2 ⟨.builtin, rfl, Generator.job_eq_output_iff.2 ⟨hrun, rfl, rfl⟩⟩⟩⟩

/-- A workspace in which nothing is there. -/
def emptyWorkspace : Workspace where
  tree := .empty

/-- Three modules that are written below a directory that was not there are on disk afterwards, and
without force the same is done. -/
theorem forced_handlers_are_on_disk : Catalog.builtin.Accepted ∧ ∃ a,
    Generator.builtin.run .routes { framework := some "nestjs" } = .ok (.artifact a) ∧
    a.names = ["scheduling.controller.ts", "scheduling.service.ts", "scheduling.module.ts"] ∧
    (∀ file ∈ a.entries, (nestjsRequest.runIn none emptyWorkspace).2.tree.read
      (Path.join "out" file.1) = .ok file.2) ∧
    nestjsRequest.unforced.runIn none emptyWorkspace = nestjsRequest.runIn none emptyWorkspace := by
  obtain ⟨a, hrun, hnames, hwrites⟩ := exists_writes_nestjs emptyWorkspace.tree
  have hok : (nestjsRequest.runIn none emptyWorkspace).1.code = 0 := by decide +kernel
  have hwf : emptyWorkspace.tree.WellFormed :=
    FileTree.wellFormed_of_entries (by decide +kernel) (by decide +kernel)
  have hnone : emptyWorkspace.tree.get? (emptyWorkspace.tree.placeOf "out") = none := by
    decide +kernel
  obtain ⟨hdisk, happart⟩ := forced_run_reads_back_iff Catalog.builtin_accepted hrun
  have hother : ¬ForNextjs .routes { framework := some "nestjs" } :=
    fun hnextjs => nomatch hnextjs.2
  have hstay : ∀ name ∈ a.names, StaysBelow name :=
    (staysBelow_names_iff hrun).2 fun hnextjs => absurd hnextjs hother
  have hapart : Apart emptyWorkspace.tree "out" a :=
    (happart _ _ hstay).2 fun hnextjs => absurd hnextjs hother
  have honDisk := hdisk _ _ _ _ hwrites hok
  exact ⟨Catalog.builtin_accepted, a, hrun, hnames, honDisk.reads_back_iff.2 hapart,
    honDisk.unforced hwf hnone hstay hapart⟩

/-! ## A module that is lost -/

/-- The generator for a catalog with two paths that differ in a slash at the end. -/
def slashGenerator : Generator := { catalog := Route.listings "/slots/" }

/-- Its route handlers for Next.js. -/
def slashArtifact : Artifact :=
  match slashGenerator.routes nextjsOptions with
  | .ok a => a
  | .error _ => .files .empty

/-- What writing them below `out` answers in an empty workspace, and the workspace that it
leaves. -/
def slashRun (force : Bool) : Except Failure Unit × Workspace :=
  runOn (slashArtifact.emit (some "out") force) { tree := .empty }

/-- The module of one path takes the place of that of the other one, so the first one does not read
as it was generated. Without `--force` its own file is in the way. -/
theorem slash_takes_place_of_module : slashGenerator.catalog.Accepted ∧
    slashGenerator.run .routes nextjsOptions = .ok (.artifact slashArtifact) ∧
    slashArtifact.names =
      ["app/api/scheduling/slots/route.ts", "app/api/scheduling/slots//route.ts"] ∧
    (slashRun true).1.isOk = true ∧
    ¬(∀ file ∈ slashArtifact.entries,
      (slashRun true).2.tree.read (Path.join "out" file.1) = .ok file.2) ∧
    (slashRun false).1.isOk = false := by
  have hok : (slashGenerator.routes nextjsOptions).isOk = true := by decide +kernel
  have hrun : slashGenerator.run .routes nextjsOptions = .ok (.artifact slashArtifact) := by
    rw [Generator.run, slashArtifact]
    cases hroutes : slashGenerator.routes nextjsOptions with
    | error e =>
      rw [hroutes] at hok
      cases hok
    | ok a => rfl
  exact ⟨⟨Route.listingsDraft "/slots/", rfl⟩, hrun, by decide +kernel⟩

end Scaffold
