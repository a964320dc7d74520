import Scaffold.Proofs.Client.QueryPath
import Scaffold.Proofs.CommandLine.FailedRun
import Scaffold.Proofs.Files.Containment
import Scaffold.Proofs.Route.FileNames

/-!
# Where a run writes

Whatever becomes of a run that writes an artifact below a directory, the tree is left as it was but
for what stands below that directory and the missing directories on the way to it, provided that the
names of the artifact stay below. The main statement is `generated_files_stay_below_iff`, which also
says when they do: a path of the catalog must not climb above the directory in which `app` stands.
Catalogs are not checked for that; see `climbing_path_overwrites_file` for a run that changes a file
elsewhere.
-/

namespace Scaffold

open FileTree (ChangesBelow)
open Scaffold.Path (StaysBelow)

/-! ## Actions that may give up -/

/-- An action that takes a tree to one to which it is related, whether or not it gives up. -/
def Keeps (R : FileTree → FileTree → Prop) {α : Type} (x : Action (StateM Workspace) α) : Prop :=
  ∀ w, R w.tree (runOn x w).2.tree

section
variable {α β : Type} {R : FileTree → FileTree → Prop} {path : Path} {content : String}

theorem Acts.keeps {x : Action (StateM Workspace) α} (h : Acts R x) : Keeps R x := by
  intro w
  obtain ⟨a, w', hrun, hacts⟩ := h w
  rw [hrun]
  exact hacts

variable [IsPreorder FileTree R]

theorem keeps_throw (e : Failure) : Keeps R (throw e : Action (StateM Workspace) α) :=
  fun w => refl_of R w.tree

theorem Keeps.bind {x : Action (StateM Workspace) α} {f : α → Action (StateM Workspace) β}
    (hx : Keeps R x) (hf : ∀ a, Keeps R (f a)) : Keeps R (x >>= f) := by
  intro w
  have hfirst := hx w
  rw [runOn_bind]
  rcases hrun : runOn x w with ⟨e | a, w'⟩
  · rw [hrun] at hfirst
    exact hfirst
  · rw [hrun] at hfirst
    exact trans_of R hfirst (hf a w')

/-- Actions on the items of a list are taken one after the other. -/
theorem keeps_forM {γ : Type} {f : γ → Action (StateM Workspace) Unit} {l : List γ}
    (hf : ∀ a ∈ l, Keeps R (f a)) : Keeps R (l.forM f) := by
  induction l with
  | nil => exact fun w => refl_of R w.tree
  | cons a l ih => exact (hf a (.head l)).bind fun _ => ih fun b hb => hf b (.tail a hb)

/-- The directories on the way to a file are made one after the other. -/
theorem keeps_makeWay (hmake : ∀ {q t t'}, q.pieces <+: path.pieces →
      (q.start = .root ↔ path.start = .root) → t.makeDirectory q = .ok t' → R t t') :
    Keeps R (makeWay path) := by
  rw [makeWay]
  cases hparent : path.parent? with
  | none => exact fun w => refl_of R w.tree
  | some parent =>
    obtain ⟨hpieces, hstart⟩ := Path.parent?_prefix hparent
    have hway : Acts R (Shell.makeDirectories parent : Action (StateM Workspace) _) :=
      acts_makeDirectories parent fun hq hroot => hmake (hq.trans hpieces) (hroot.trans hstart)
    refine hway.keeps.bind fun result => ?_
    cases result with
    | ok => exact (acts_pure _).keeps
    | error => exact keeps_throw _

/-- A file is put, or nothing is. -/
theorem keeps_putFile (hwrite : ∀ {t t'}, t.write path content = .ok t' → R t t') :
    Keeps R (putFile path content) := by
  intro w
  rcases runOn_putFile (w := w) path content with ⟨e, hrun⟩ | ⟨w', hrun, htree⟩
  · rw [hrun]
    exact refl_of R w.tree
  · rw [hrun]
    exact hwrite htree

end

/-! ## Writing below a directory -/

section
variable {dir name content : String} {force : Bool} {a : Artifact}

/-- A file whose name stays below is written below. -/
theorem keeps_writeFile (h : StaysBelow name) :
    Keeps (ChangesBelow dir) (writeFile dir force name content) := by
  intro w
  simp only [writeFile, runOn_bind, runOn_isThere]
  split
  · exact .refl dir w.tree
  · have hway : Keeps (ChangesBelow dir) (makeWay (Path.join dir name)) :=
      keeps_makeWay (FileTree.changesBelow_makeDirectory h)
    have hput : Keeps (ChangesBelow dir) (putFile (Path.join dir name) content) :=
      keeps_putFile (FileTree.changesBelow_write h)
    exact (hway.bind fun _ => hput) w

/-- So are the files of an artifact. -/
theorem keeps_write (h : ∀ name ∈ a.names, StaysBelow name) :
    Keeps (ChangesBelow dir) (a.write dir force) :=
  keeps_forM fun file hfile => keeps_writeFile (h file.1 (List.mem_map_of_mem hfile))

end

/-- What is said of an artifact that a command answers, and of the runs that write it. -/
structure StaysInside (g : Generator) (c : Command) (o : Options) (a : Artifact) : Prop where
  /-- When all names stay below the directory. -/
  names_iff : (∀ name ∈ a.names, StaysBelow name) ↔
    (ForNextjs c o → ∀ p ∈ g.catalog.endpoints.entries, StaysInApp p.2.path)
  /-- Then nothing else changes where the artifact is emitted, however that ends. -/
  emit : (∀ name ∈ a.names, StaysBelow name) → ∀ dir force w,
    ChangesBelow dir w.tree (runOn (a.emit (some dir) force) w).2.tree
  /-- Nor does it in a run of the program. -/
  run : (∀ name ∈ a.names, StaysBelow name) → ∀ developmentUrl r w dir force,
    Request.Writes developmentUrl w.tree r a dir force →
      ChangesBelow dir w.tree (r.runIn developmentUrl w).2.tree

/-- A run of the program leaves the workspace that its invocation leaves. -/
theorem Request.snd_runIn_invoke {developmentUrl : Option String} {i : Invocation} {w : Workspace} :
    (Request.runIn developmentUrl (.invoke i) w).2 = (runOn (i.run developmentUrl) w).2 := by
  rw [runIn_invoke]
  rcases runOn (i.run developmentUrl) w with ⟨e | ⟨⟩, w'⟩ <;> rfl

/-- Generated files stay below the output directory exactly if they are not route handlers for
Next.js, or if no path of the catalog climbs above the directory in which `app` stands. -/
theorem generated_files_stay_below_iff {g : Generator} {c : Command} {o : Options} {a : Artifact}
    (h : g.run c o = .ok (.artifact a)) : StaysInside g c o a where
  names_iff := staysBelow_names_iff h
  emit := fun hstay _ _ => keeps_write hstay
  run := by
    rintro hstay developmentUrl r w dir force ⟨i, rfl, hjob⟩
    rw [Request.snd_runIn_invoke, Invocation.runOn_run, hjob]
    exact keeps_write hstay w

/-! ## A path that climbs -/

/-- Options for Next.js. -/
def nextjsOptions : Options := { framework := some "nextjs" }

/-- The generator for a catalog with one operation. -/
def probeGenerator (path : String) : Generator := { catalog := Client.probeCatalog path }

/-- Its route handlers for Next.js. -/
def probeArtifact (path : String) : Artifact :=
  match (probeGenerator path).routes nextjsOptions with
  | .ok a => a
  | .error _ => .files .empty

theorem run_probeGenerator {path : String}
    (h : ((probeGenerator path).routes nextjsOptions).isOk = true) :
    (probeGenerator path).run .routes nextjsOptions = .ok (.artifact (probeArtifact path)) := by
  rw [Generator.run, probeArtifact]
  cases hroutes : (probeGenerator path).routes nextjsOptions with
  | error e =>
    rw [hroutes] at h
    cases h
  | ok a => rfl

/-- The route handlers of an ordinary path. -/
theorem slots_stay_inside :
    (probeGenerator "/slots").run .routes nextjsOptions = .ok (.artifact (probeArtifact "/slots")) ∧
    (∀ p ∈ (probeGenerator "/slots").catalog.endpoints.entries, StaysInApp p.2.path) ∧
    StaysInside (probeGenerator "/slots") .routes nextjsOptions (probeArtifact "/slots") := by
  have hok : ((probeGenerator "/slots").routes nextjsOptions).isOk = true := by decide +kernel
  have hrun := run_probeGenerator hok
  exact ⟨hrun, by decide +kernel, generated_files_stay_below_iff hrun⟩

/-- A path that climbs from the directory of the route prefix out of the one in which `app`
stands. -/
def climbingPath : String := "/../../../../x"

/-- A workspace with a file beside the output directory. -/
def besideWorkspace : Workspace where
  tree := FileTree.empty.addFile ["x", "route.ts"] (.text "mine")

/-- The workspace once the handlers for that path have been written below `out`. -/
def climbedWorkspace : Workspace :=
  (runOn ((probeArtifact climbingPath).emit (some "out") true) besideWorkspace).2

/-- That file is not the same afterwards, and it does not stand below `out`. -/
theorem not_changesBelow_climbed :
    besideWorkspace.tree.fileAt ["work", "x", "route.ts"] = some (.text "mine") ∧
    climbedWorkspace.tree.fileAt ["work", "x", "route.ts"] ≠ some (.text "mine") ∧
    ¬ChangesBelow "out" besideWorkspace.tree climbedWorkspace.tree := by
  have hmine : besideWorkspace.tree.fileAt ["work", "x", "route.ts"] = some (.text "mine") := by
    decide +kernel
  have hother : climbedWorkspace.tree.fileAt ["work", "x", "route.ts"] ≠ some (.text "mine") := by
    decide +kernel
  have hout : besideWorkspace.tree.placeOf "out" = ["work", "out"] := by decide +kernel
  refine ⟨hmine, hother, fun h => ?_⟩
  rcases h.get? ["work", "x", "route.ts"] with hsame | ⟨names, -, hbelow⟩ | ⟨-, hnone, -⟩
  · rw [FileTree.fileAt, hsame] at hother
    exact hother hmine
  · rw [hout] at hbelow
    simp at hbelow
  · rw [FileTree.fileAt, hnone] at hmine
    cases hmine

/-- The handlers for a path of an accepted catalog take the place of a file beside the directory
below which they are written. -/
theorem climbing_path_overwrites_file : (Client.probeCatalog climbingPath).Accepted ∧
    (probeGenerator climbingPath).run .routes nextjsOptions =
      .ok (.artifact (probeArtifact climbingPath)) ∧
    (probeArtifact climbingPath).names = ["app/api/scheduling/../../../../x/route.ts"] ∧
    ¬StaysBelow "app/api/scheduling/../../../../x/route.ts" ∧
    besideWorkspace.tree.fileAt ["work", "x", "route.ts"] = some (.text "mine") ∧
    climbedWorkspace.tree.fileAt ["work", "x", "route.ts"] ≠ some (.text "mine") ∧
    ¬ChangesBelow "out" besideWorkspace.tree climbedWorkspace.tree := by
  refine ⟨⟨Client.probeCatalogDraft climbingPath, rfl⟩, run_probeGenerator (by decide +kernel),
    by decide +kernel, ?_, not_changesBelow_climbed⟩
  rintro ⟨-, names, -, hnames⟩
  have hclimbs : Path.descend? []
      (Path.split "app/api/scheduling/../../../../x/route.ts".toList) = none := by
    decide +kernel
  rw [hclimbs] at hnames
  cases hnames

end Scaffold
