import Scaffold.Proofs.CommandLine.InTurn
import Scaffold.Proofs.Refusal

/-!
# Runs without force

Without `--force`, a file is written only if its path leads to nothing, which is looked up before
the directories on the way are made. A path that is not found because a directory is missing can
lead to a file once that directory is made, behind two dots. The main statement is
`unforced_run_spares_files_iff`: a run without `--force` keeps all files exactly if no such path is
written to, or if what is written there was there before. In particular it does if neither the
output directory nor a path of the catalog leads up. See `unforced_run_overwrites_file` for a run
that does not.
-/

namespace Scaffold

open FileTree (SameFiles)

/-- Every file that was there is there, with the same content. -/
def FileTree.KeepsFiles (t t' : FileTree) : Prop :=
  ∀ place content, t.fileAt place = some content → t'.fileAt place = some content

/-! ## What is forced -/

/-- Whether a subcommand overwrites files. -/
def Subcommand.forces : Subcommand → Bool
  | .client _ _ target => target.force
  | .proxyClient _ target => target.force
  | .routes _ _ target => target.force
  | .types target => target.force
  | .list _ => false
  | .exec _ _ target => target.force

/-- Whether a request overwrites files. -/
def Request.forces : Request → Bool
  | .invoke i => i.subcommand.forces
  | .refused | .version | .help => false

section
variable {g : Generator} {c : Command} {o : Options} {output : Output} {dir : Option String}
  {force : Bool} {developmentUrl : Option String} {t : FileTree}

/-- What a subcommand has ready overwrites files if the subcommand does. -/
theorem Subcommand.force_of_job {s : Subcommand}
    (h : s.job g o = .ok (.output output dir force)) : force = s.forces := by
  cases s with
  | client | proxyClient | routes | types => exact (Generator.job_eq_output_iff.1 h).2.2
  | list => cases h
  | exec command options target =>
    obtain ⟨c, -, h⟩ := bind_eq_ok_iff.1 h
    obtain ⟨o', -, h⟩ := bind_eq_ok_iff.1 h
    exact (Generator.job_eq_output_iff.1 h).2.2

/-- What is written overwrites files if the request does. -/
theorem Request.Writes.force_eq {r : Request} {a : Artifact} {dir : String}
    (h : r.Writes developmentUrl t a dir force) : force = r.forces := by
  obtain ⟨i, rfl, hjob⟩ := h
  obtain ⟨config, -, hjob⟩ := bind_eq_ok_iff.1 hjob
  obtain ⟨catalog, -, hjob⟩ := bind_eq_ok_iff.1 hjob
  exact Subcommand.force_of_job hjob

end

/-! ## Files that are written in turn -/

/-- Where the path of a file was not found and yet leads to a file, what is last written there is
what it held. -/
def RestoresFiles (t : FileTree) (dir : String) (files : List (String × String)) : Prop :=
  ∀ file ∈ files, t.find (Path.join dir file.1) = .error .notFound →
    ∀ content, t.fileAt (t.goalIn dir file) = some content →
      (lastWritten files (files.map (t.goalIn dir)) (t.goalIn dir file)).map .text = some content

section
variable {dir : String} {files : List (String × String)} {t t₁ t' : FileTree}

/-- Files that are written in turn without `force` keep all files exactly if no path that was not
found leads to one, or if what was last written there is what it held. -/
theorem Turns.keepsFiles_iff (h : Turns dir false files t t₁) (hsame : SameFiles t₁ t') :
    t.KeepsFiles t' ↔ RestoresFiles t dir files := by
  have hfiles := (h.wroteAll hsame).fileAt_eq
  constructor
  · intro hkeeps file hfile _ content hold
    obtain ⟨written, hwritten⟩ := exists_lastWritten (t.goalIn dir) hfile
    have hnew := hkeeps _ _ hold
    rw [hfiles, hwritten] at hnew
    rw [hwritten]
    exact hnew
  · intro hrestores place content hold
    rw [hfiles]
    cases hwritten : lastWritten files (files.map (t.goalIn dir)) place with
    | none => exact hold
    | some written =>
      obtain ⟨file, hfile, rfl, -⟩ := exists_of_lastWritten hwritten
      rcases h.free_or_notFound hfile with hfree | hnotFound
      · rw [FileTree.fileAt, hfree] at hold
        cases hold
      · rw [← hwritten, hrestores file hfile hnotFound content hold]
        rfl

/-- Where nothing leads up, all files are kept. -/
theorem Turns.keepsFiles (h : Turns dir false files t t₁) (hsame : SameFiles t₁ t')
    (hwf : t.WellFormed) (hdir : ".." ∉ Path.split dir.toList)
    (hfiles : ∀ file ∈ files, ".." ∉ Path.split file.1.toList) : t.KeepsFiles t' := by
  refine (h.keepsFiles_iff hsame).2 fun file hfile hnotFound content hold => ?_
  have hnone : t.fileAt (t.goalIn dir file) = none :=
    FileTree.fileAt_goal_of_notFound hwf (Path.up_not_mem_join hdir (hfiles file hfile)) hnotFound
  rw [hnone] at hold
  cases hold

end

/-! ## Runs -/

/-- What a run does to files that were there. -/
structure Spares (developmentUrl : Option String) (r : Request) (w : Workspace) : Prop where
  /-- A run that writes no artifact changes nothing. -/
  unchanged : (∀ a dir, ¬r.Writes developmentUrl w.tree a dir false) →
    (r.runIn developmentUrl w).2.tree = w.tree
  /-- A run that writes one writes its files in order from the first one, each to its place, and
  changes no other file. -/
  written : ∀ a dir, r.Writes developmentUrl w.tree a dir false →
    a.written dir false w <+: a.entries ∧
    WroteAll dir false (a.written dir false w) ((a.written dir false w).map (w.tree.goalIn dir))
      w.tree (r.runIn developmentUrl w).2.tree
  /-- It writes all of them exactly if it succeeds. -/
  written_eq_iff : ∀ a dir, r.Writes developmentUrl w.tree a dir false →
    (a.written dir false w = a.entries ↔ (r.runIn developmentUrl w).1.code = 0)
  /-- All files that were there are kept exactly if the files that it writes restore what they take
  the place of unseen. -/
  keepsFiles_iff : ∀ a dir, r.Writes developmentUrl w.tree a dir false →
    (w.tree.KeepsFiles (r.runIn developmentUrl w).2.tree ↔
      RestoresFiles w.tree dir (a.written dir false w))
  /-- They are kept if neither the directory nor, for Next.js, a path of the catalog leads up. -/
  keepsFiles : ∀ (g : Generator) (c : Command) (o : Options) (a : Artifact) (dir : String),
    g.run c o = .ok (.artifact a) → r.Writes developmentUrl w.tree a dir false →
    w.tree.WellFormed → ".." ∉ Path.split dir.toList →
    (ForNextjs c o → ∀ p ∈ g.catalog.endpoints.entries, ".." ∉ Path.split p.2.path.toList) →
    w.tree.KeepsFiles (r.runIn developmentUrl w).2.tree

section
variable {developmentUrl : Option String} {r : Request} {w : Workspace}

/-- A request that writes no artifact leaves the tree as it is. -/
theorem Request.tree_runIn_of_not_writes (hforces : r.forces = false)
    (h : ∀ a dir, ¬r.Writes developmentUrl w.tree a dir false) :
    (r.runIn developmentUrl w).2.tree = w.tree := by
  cases r with
  | refused | version | help => rfl
  | invoke i =>
    rw [snd_runIn_invoke, Invocation.runOn_run]
    cases hjob : i.job developmentUrl w.tree with
    | error e => rfl
    | ok job =>
      rcases job.writes_or_printsOnly with ⟨a, dir, force, rfl⟩ | hprints
      · have hwrites : Request.Writes developmentUrl w.tree (.invoke i) a dir force :=
          ⟨i, rfl, hjob⟩
        obtain rfl : force = false := hwrites.force_eq.trans hforces
        exact absurd hwrites (h a dir)
      · obtain ⟨w', hrun, htree⟩ := hprints w
        simp only [hrun, htree]

end

/-- A run without `--force`, however it ends, keeps all files that were there exactly if it writes
to no path that was not found and leads to one of them, or writes there what it held. -/
theorem unforced_run_spares_files_iff {developmentUrl : Option String} {r : Request} {w : Workspace}
    (h : r.forces = false) : Spares developmentUrl r w where
  unchanged := Request.tree_runIn_of_not_writes h
  written a dir hwrites := by
    obtain ⟨t₁, hturns, hsame⟩ := hwrites.exists_turns
    exact ⟨isPrefix_stepsTaken a.entries w, hturns.wroteAll hsame⟩
  written_eq_iff a dir hwrites :=
    (stepsTaken_eq_iff a.entries w).trans hwrites.code_eq_zero_iff.symm
  keepsFiles_iff a dir hwrites := by
    obtain ⟨t₁, hturns, hsame⟩ := hwrites.exists_turns
    exact hturns.keepsFiles_iff hsame
  keepsFiles g c o a dir hrun hwrites hwf hdir hpaths := by
    obtain ⟨t₁, hturns, hsame⟩ := hwrites.exists_turns
    refine hturns.keepsFiles hsame hwf hdir fun file hfile => ?_
    have hentry := (isPrefix_stepsTaken a.entries w).subset hfile
    exact (up_not_mem_names_iff hrun).2 hpaths file.1 (List.mem_map_of_mem hentry)

/-! ## A file that is overwritten -/

/-- A workspace in which there is a file with domain types. -/
def typesWorkspace : Workspace where
  tree := FileTree.empty.addFile ["out", "types.ts"] (.text "mine")

/-- It is as file systems have it. -/
theorem wellFormed_typesWorkspace : typesWorkspace.tree.WellFormed :=
  FileTree.wellFormed_of_entries (by decide +kernel) (by decide +kernel)

/-- What a request for domain types below a directory asks for. -/
def typesInvocation (dir : String) (force : Bool) : Invocation where
  config := none
  catalog := none
  subcommand := .types { outputDir := some dir, force }

/-- It writes the domain types of the built-in catalog. -/
theorem exists_writes_types (dir : String) (force : Bool) (t : FileTree) : ∃ a,
    Generator.builtin.run .types {} = .ok (.artifact a) ∧
    Request.Writes none t (.invoke (typesInvocation dir force)) a dir force := by
  obtain ⟨a, htypes⟩ := exists_eq_ok_iff.2 Generator.builtin.types_ne_error
  have hrun : Generator.builtin.run .types {} = .ok (.artifact a) := by
    rw [Generator.run, htypes]
    rfl
  have hjob : Generator.builtin.job .types {} ⟨some dir, force⟩ =
      .ok (.output (.artifact a) (some dir) force) := Generator.job_eq_output_iff.2 ⟨hrun, rfl, rfl⟩
  exact ⟨a, hrun, _, rfl, bind_eq_ok_iff.2 ⟨{}, rfl, bind_eq_ok_iff.2 ⟨.builtin, rfl, hjob⟩⟩⟩

/-- Without a detour the file is kept. -/
theorem types_are_spared : (Request.invoke (typesInvocation "out" false)).forces = false ∧
    typesWorkspace.tree.KeepsFiles
      ((Request.invoke (typesInvocation "out" false)).runIn none typesWorkspace).2.tree := by
  obtain ⟨a, hrun, hwrites⟩ := exists_writes_types "out" false typesWorkspace.tree
  exact ⟨rfl, (unforced_run_spares_files_iff rfl).keepsFiles _ _ _ _ _ hrun hwrites
    wellFormed_typesWorkspace (by decide) fun hnextjs => nomatch hnextjs.1⟩

/-- A request for domain types behind a missing directory and two dots. -/
def detourRequest : Request := .ofArguments ["types", "--output-dir", "missing/../out"]

/-- That request overwrites the file although nothing is forced. -/
theorem unforced_run_overwrites_file :
    detourRequest = .invoke (typesInvocation "missing/../out" false) ∧
    typesWorkspace.tree.WellFormed ∧
    (detourRequest.runIn none typesWorkspace).1.code = 0 ∧
    typesWorkspace.tree.fileAt ["work", "out", "types.ts"] = some (.text "mine") ∧
    ¬typesWorkspace.tree.KeepsFiles (detourRequest.runIn none typesWorkspace).2.tree := by
  have hmine : typesWorkspace.tree.fileAt ["work", "out", "types.ts"] = some (.text "mine") := by
    decide +kernel
  have hrun : (detourRequest.runIn none typesWorkspace).1.code = 0 ∧
      (detourRequest.runIn none typesWorkspace).2.tree.fileAt ["work", "out", "types.ts"] ≠
        some (.text "mine") := by
    decide +kernel
  exact ⟨by decide +kernel, wellFormed_typesWorkspace, hrun.1, hmine,
    fun hkeeps => hrun.2 (hkeeps _ _ hmine)⟩

end Scaffold
