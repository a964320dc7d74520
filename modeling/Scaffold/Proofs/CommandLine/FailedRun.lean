import Scaffold.Proofs.CommandLine.Preparation

/-!
# What a failed run leaves behind

Files are checked and written one by one, so a run can fail with some of its files written. The main
statement is `failed_run_breaksOff`: the files in front of the one that failed are written and
nothing else has changed. So all files stay as they were exactly if whatever was written last to a
place stood there before. Without `--force` that means that no file was written, unless a directory
was missing on the way to the first one: then `..` behind it can lead to files that are there. See
`failed_run_leaves_file` for a run that leaves a new file.
-/

namespace Scaffold

open FileTree (SameFiles)

/-! ## Printing -/

/-- An action that cannot give up and leaves the tree as it is. -/
def PrintsOnly (x : Action (StateM Workspace) Unit) : Prop :=
  ∀ w, ∃ w', runOn x w = (.ok (), w') ∧ w'.tree = w.tree

theorem printsOnly_print (s : String) :
    PrintsOnly (Shell.print s : Action (StateM Workspace) Unit) := fun _ => ⟨_, runOn_print, rfl⟩

theorem PrintsOnly.bind {x : Action (StateM Workspace) Unit}
    {f : Unit → Action (StateM Workspace) Unit} (hx : PrintsOnly x) (hf : PrintsOnly (f ())) :
    PrintsOnly (x >>= f) := by
  intro w
  obtain ⟨w₁, hrun, htree⟩ := hx w
  obtain ⟨w₂, hrun', htree'⟩ := hf w₁
  exact ⟨w₂, by rw [runOn_bind, hrun]; exact hrun', htree'.trans htree⟩

theorem printsOnly_forM {α : Type} {f : α → Action (StateM Workspace) Unit} {l : List α}
    (hf : ∀ a ∈ l, PrintsOnly (f a)) : PrintsOnly (l.forM f) := by
  induction l with
  | nil => exact fun w => ⟨w, rfl, rfl⟩
  | cons a l ih => exact (hf a (.head l)).bind (ih fun b hb => hf b (.tail a hb))

/-- An artifact is printed without fail. -/
theorem printsOnly_artifact (a : Artifact) : PrintsOnly a.print := by
  refine printsOnly_forM fun file _ => ?_
  simp only
  split
  · exact (printsOnly_print _).bind (printsOnly_print _)
  · exact printsOnly_print _

/-- So is a listing. -/
theorem printsOnly_listing (rows : List EndpointSummary) (json : Bool) :
    PrintsOnly (printListing rows json) := by
  rw [printListing]
  split
  · exact printsOnly_print _
  · exact printsOnly_forM fun row _ => printsOnly_print _

/-! ## Failed runs -/

/-- Given what the files hold, a request is for an artifact that is written below a directory. -/
def Request.Writes (developmentUrl : Option String) (t : FileTree) (r : Request) (a : Artifact)
    (dir : String) (force : Bool) : Prop :=
  ∃ i, r = .invoke i ∧ i.job developmentUrl t = .ok (.output (.artifact a) (some dir) force)

section
variable {developmentUrl : Option String} {r : Request} {w w' : Workspace}

/-- Output leaves the tree as it is unless an artifact is written. -/
theorem Job.writes_or_printsOnly (job : Job) :
    (∃ a dir force, job = .output (.artifact a) (some dir) force) ∨ PrintsOnly job.emit := by
  cases job with
  | listing rows json => exact .inr (printsOnly_listing rows json)
  | output o dir force =>
    cases o with
    | endpoints rows => exact .inr (printsOnly_listing rows true)
    | artifact a =>
      cases dir with
      | none => exact .inr (printsOnly_artifact a)
      | some dir => exact .inl ⟨a, dir, force, rfl⟩

/-- Output only fails where an artifact is written. -/
theorem Job.writes_of_error {job : Job} {e : Failure} (h : runOn job.emit w = (.error e, w')) :
    ∃ a dir force, job = .output (.artifact a) (some dir) force ∧
      runOn (a.write dir force) w = (.error e, w') := by
  rcases job.writes_or_printsOnly with ⟨a, dir, force, rfl⟩ | hprints
  · exact ⟨a, dir, force, rfl, h⟩
  · obtain ⟨_, hok, -⟩ := hprints w
    rw [hok] at h
    cases h

/-- How a run ends in a workspace, and the workspace that it leaves. -/
def Request.runIn (developmentUrl : Option String) (r : Request) (w : Workspace) :
    Exit × Workspace :=
  StateT.run (Request.run (m := StateM Workspace) developmentUrl r) w

/-- An invocation ends with the exit code zero, or with one and a failure. -/
theorem Request.runIn_invoke (i : Invocation) :
    Request.runIn developmentUrl (.invoke i) w =
      match runOn (i.run developmentUrl) w with
      | (.ok (), w') => ({ code := 0 }, w')
      | (.error e, w') => ({ code := 1, failure := some e }, w') := by
  rw [runIn, Request.run, StateT.run_bind, runOn]
  rcases StateT.run (ExceptT.run (i.run developmentUrl)) w with ⟨e | ⟨⟩, w'⟩ <;> rfl

/-- A run was broken off behind some files that it had written to their places. -/
structure BreaksOff (developmentUrl : Option String) (r : Request) (t t' : FileTree) (dir : String)
    (force : Bool) (files : List (String × String)) (places : List (List String)) : Prop where
  /-- They are those in front of a file of the artifact that the run was about to write; it is the
  first one if there are none. -/
  front : files = [] ∨ ∃ a file rest, r.Writes developmentUrl t a dir force ∧
    a.entries = files ++ file :: rest
  /-- They are written, and nothing else has changed. -/
  written : WroteAll dir force files places t t'
  /-- All files have stayed as they were exactly if whatever was last written to a place stood there
  before. -/
  unchanged_iff : SameFiles t t' ↔ ∀ place content, lastWritten files places place = some content →
    t.fileAt place = some (.text content)
  /-- Without `force`, they have only stayed if none was written or if a directory was missing on
  the way to the first one. -/
  missing : force = false → SameFiles t t' → ∀ file ∈ files.head?,
    t.find (Path.join dir file.1) = .error .notFound

/-- A run that leaves all files as they were has written none. -/
theorem breaksOff_of_same {t t' : FileTree} (h : SameFiles t t') :
    BreaksOff developmentUrl r t t' "" false [] [] :=
  ⟨.inl rfl, .nil h, ⟨fun _ _ _ hlast => (nomatch hlast), fun _ => h⟩,
    fun _ _ _ hfile => (nomatch hfile)⟩

/-- A run that fails while it writes an artifact has written the files in front of one. -/
theorem breaksOff_of_write {a : Artifact} {dir : String} {force : Bool} {e : Failure}
    (hwrites : r.Writes developmentUrl w.tree a dir force)
    (h : runOn (a.write dir force) w = (.error e, w')) :
    ∃ files places, BreaksOff developmentUrl r w.tree w'.tree dir force files places := by
  rw [Artifact.write] at h
  rcases runOn_forM_writeFile a.entries w with
    ⟨_, _, front, file, rest, places, herror, hsplit, hall⟩ | ⟨_, _, hok, -⟩
  · rw [h] at herror
    cases herror
    refine ⟨front, places, .inr ⟨a, file, rest, hwrites, hsplit⟩, hall, hall.sameFiles_iff, ?_⟩
    intro hforce hsame first hfirst
    cases front with
    | nil => cases hfirst
    | cons =>
      cases hfirst
      subst hforce
      exact hall.missing_of_sameFiles hsame
  · rw [h] at hok
    cases hok

/-- A run that fails is broken off behind the files that it has written; these are none if it fails
before it writes. -/
theorem failed_run_breaksOff (hfail : (r.runIn developmentUrl w).1.code ≠ 0) :
    ∃ dir force files places,
      BreaksOff developmentUrl r w.tree (r.runIn developmentUrl w).2.tree dir force files
        places := by
  cases r with
  | refused => exact ⟨"", false, [], [], breaksOff_of_same fun _ => rfl⟩
  | version | help => exact absurd rfl hfail
  | invoke i =>
    rw [Request.runIn_invoke, Invocation.runOn_run] at hfail ⊢
    cases hjob : i.job developmentUrl w.tree with
    | error e => exact ⟨"", false, [], [], breaksOff_of_same fun _ => rfl⟩
    | ok job =>
      simp only [hjob] at hfail
      simp only
      rcases hemit : runOn job.emit w with ⟨e | ⟨⟩, w'⟩
      · obtain ⟨a, dir, force, rfl, hwrite⟩ := Job.writes_of_error hemit
        exact ⟨dir, force, breaksOff_of_write ⟨i, rfl, hjob⟩ hwrite⟩
      · rw [hemit] at hfail
        exact absurd rfl hfail

end

/-! ## A file that is left behind -/

/-- A workspace in which a service is there already. -/
def serviceWorkspace : Workspace where
  tree := FileTree.empty.addFile ["scheduling.service.ts"] (.text "mine")

/-- A request for three files, of which the service is the second one. -/
def serviceRequest : Request :=
  .ofArguments ["routes", "--framework", "nestjs", "--output-dir", "."]

/-- The run of that request in that workspace. -/
def serviceRun : Exit × Workspace := serviceRequest.runIn none serviceWorkspace

/-- That run fails, and it leaves a controller. -/
theorem serviceRun_outcome : serviceRun.1.code = 1 ∧
    serviceRun.2.tree.fileAt ["work", "scheduling.controller.ts"] ≠ none := by
  decide +kernel

/-- That run was broken off behind the files that it had written. -/
theorem service_run_breaksOff : (serviceRequest.runIn none serviceWorkspace).1.code ≠ 0 ∧
    ∃ dir force files places, BreaksOff none serviceRequest serviceWorkspace.tree
      (serviceRequest.runIn none serviceWorkspace).2.tree dir force files places := by
  have hfail : (serviceRequest.runIn none serviceWorkspace).1.code ≠ 0 := by
    rw [← serviceRun, serviceRun_outcome.1]
    decide
  exact ⟨hfail, failed_run_breaksOff hfail⟩

/-- That run fails because the service is there already. Nothing is forced, and still there is a
controller afterwards that was not there before. -/
theorem failed_run_leaves_file : serviceRequest = .invoke {
      config := none
      catalog := none
      subcommand := .routes (some "nestjs") none { outputDir := some ".", force := false } } ∧
    serviceRun.1.code = 1 ∧ ¬SameFiles serviceWorkspace.tree serviceRun.2.tree := by
  have hold : serviceWorkspace.tree.fileAt ["work", "scheduling.controller.ts"] = none := by
    decide +kernel
  exact ⟨by decide +kernel, serviceRun_outcome.1,
    fun hsame => serviceRun_outcome.2 ((hsame _).trans hold)⟩

end Scaffold
