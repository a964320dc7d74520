import Scaffold.CommandLine.Run
import Scaffold.Proofs.Files.Resolution
import Scaffold.Proofs.Files.Tree

/-!
# Writing generated files

Files are written one after the other. `runOn_writeFile` is the step: it writes one file to the
place to which its path leads, or fails and leaves all files as they are, since the directories that
it makes on the way are no files. A loop takes its steps in turn up to the one that fails
(`runOn_forM`), so `runOn_forM_writeFile` is the run: if it fails, the files in front of the one
that failed are written (`WroteAll`). What stands at a place in the end is what was last written to
it (`WroteAll.fileAt_eq`).
-/

namespace Scaffold

open FileTree (AddsDirectories SameFiles)

/-! ## Actions on a workspace -/

/-- What an action answers in a workspace, and the workspace that it leaves. -/
def runOn {α : Type} (x : Action (StateM Workspace) α) (w : Workspace) :
    Except Failure α × Workspace :=
  StateT.run (ExceptT.run x) w

section
variable {α β : Type} {w : Workspace}

@[simp] theorem runOn_pure {a : α} : runOn (pure a) w = (.ok a, w) := rfl

@[simp] theorem runOn_throw {e : Failure} : runOn (throw e : Action _ α) w = (.error e, w) := rfl

/-- An action goes on where the one in front of it stopped, unless that one gave up. -/
theorem runOn_bind {x : Action (StateM Workspace) α} {f : α → Action (StateM Workspace) β} :
    runOn (x >>= f) w =
      match runOn x w with
      | (.ok a, w') => runOn (f a) w'
      | (.error e, w') => (.error e, w') := by
  change ExceptT.bindCont f (runOn x w).1 (runOn x w).2 = _
  rcases runOn x w with ⟨a | e, w'⟩ <;> rfl

theorem runOn_lift {x : StateM Workspace α} :
    runOn (ExceptT.lift x) w = (.ok (x w).1, (x w).2) := rfl

@[simp] theorem runOn_read {p : Path} :
    runOn (Shell.read p) w = (.ok (w.tree.read p), w) := rfl

@[simp] theorem runOn_isThere {p : Path} :
    runOn (Shell.isThere p) w = (.ok (w.tree.isThere p), w) := rfl

@[simp] theorem runOn_print {s : String} :
    runOn (Shell.print s) w = (.ok (), { w with printed := w.printed ++ s }) := rfl

/-- What an operation answers that may change the tree. -/
theorem runOn_change {f : FileTree → Except FileError FileTree} :
    runOn (ExceptT.lift (Workspace.change f)) w =
      match f w.tree with
      | .ok tree => (.ok (.ok ()), { w with tree })
      | .error e => (.ok (.error e), w) := by
  rw [runOn_lift, Workspace.change]
  cases f w.tree <;> rfl

end

/-! ## Directories -/

/-- An action that cannot give up and takes a tree to one to which it is related. -/
def Acts (R : FileTree → FileTree → Prop) {α : Type} (x : Action (StateM Workspace) α) : Prop :=
  ∀ w, ∃ a w', runOn x w = (.ok a, w') ∧ R w.tree w'.tree

section
variable {α β : Type} {R : FileTree → FileTree → Prop} [IsPreorder FileTree R] {p : Path}

theorem acts_pure (a : α) : Acts R (pure a) := fun w => ⟨a, w, rfl, refl_of R w.tree⟩

theorem Acts.bind {x : Action (StateM Workspace) α} {f : α → Action (StateM Workspace) β}
    (hx : Acts R x) (hf : ∀ a, Acts R (f a)) : Acts R (x >>= f) := by
  intro w
  obtain ⟨a, w₁, hrun, hacts⟩ := hx w
  obtain ⟨b, w₂, hrun', hacts'⟩ := hf a w₁
  exact ⟨b, w₂, by rw [runOn_bind, hrun]; exact hrun', trans_of R hacts hacts'⟩

/-- One directory is made, or none. -/
theorem acts_makeDirectory (hmake : ∀ {t t'}, t.makeDirectory p = .ok t' → R t t') :
    Acts R (Shell.makeDirectory p : Action (StateM Workspace) _) := by
  intro w
  have hrun := runOn_change (f := (·.makeDirectory p)) (w := w)
  cases h : w.tree.makeDirectory p with
  | ok tree =>
    simp only [h] at hrun
    exact ⟨_, _, hrun, hmake h⟩
  | error e =>
    simp only [h] at hrun
    exact ⟨_, _, hrun, refl_of R w.tree⟩

theorem acts_isDirectory (p : Path) :
    Acts R (Shell.isDirectory p : Action (StateM Workspace) _) :=
  fun w => ⟨_, w, rfl, refl_of R w.tree⟩

theorem acts_ensureDirectory (hmake : ∀ {t t'}, t.makeDirectory p = .ok t' → R t t') :
    Acts R (Shell.ensureDirectory p : Action (StateM Workspace) _) := by
  rw [Shell.ensureDirectory]
  refine (acts_makeDirectory hmake).bind fun result => ?_
  cases result with
  | ok => exact acts_pure _
  | error e => exact (acts_isDirectory p).bind fun there => acts_pure _

/-- Directories on a way are made one after the other, each at a path that is in front of
the next. -/
theorem acts_makeDirectories (p : Path) (hmake : ∀ {q t t'}, q.pieces <+: p.pieces →
      (q.start = .root ↔ p.start = .root) → t.makeDirectory q = .ok t' → R t t') :
    Acts R (Shell.makeDirectories p : Action (StateM Workspace) _) := by
  have hself : Acts R (Shell.ensureDirectory p : Action (StateM Workspace) _) :=
    acts_ensureDirectory (hmake (List.prefix_refl _) Iff.rfl)
  rw [Shell.makeDirectories]
  split
  · exact acts_pure _
  · refine hself.bind fun result => ?_
    split
    · split
      · exact acts_pure _
      · rename_i q hparent
        obtain ⟨hpieces, hstart⟩ := Path.parent?_prefix hparent
        have hway := acts_makeDirectories q fun hq hroot =>
          hmake (hq.trans hpieces) (hroot.trans hstart)
        refine hway.bind fun result => ?_
        split
        · exact hself
        · exact acts_pure _
    · exact acts_pure _
termination_by p.depth
decreasing_by exact Path.depth_parent? ‹_›

/-- An action that cannot give up and changes nothing but that it makes directories. -/
def AddsOnly {α : Type} (x : Action (StateM Workspace) α) : Prop :=
  ∀ w, ∃ a w', runOn x w = (.ok a, w') ∧ AddsDirectories w.tree w'.tree

/-- Directories on a way change nothing else. -/
theorem addsOnly_makeDirectories (p : Path) :
    AddsOnly (Shell.makeDirectories p : Action (StateM Workspace) _) :=
  acts_makeDirectories p fun _ _ => FileTree.makeDirectory_addsDirectories

end

/-! ## Files -/

/-- A file was written below a directory: its path leads to it, and nothing else has changed.
Without `force`, the path led to a free place before, or a directory was missing on the way. -/
structure Wrote (dir : String) (force : Bool) (file : String × String) (place : List String)
    (t t' : FileTree) : Prop where
  fresh : force = false → t.find (Path.join dir file.1) = .ok (.free place false) ∨
    t.find (Path.join dir file.1) = .error .notFound
  found : t'.find (Path.join dir file.1) = .ok (.file place (.text file.2))
  fileAt : ∀ other, t'.fileAt other = if other = place then some (.text file.2) else t.fileAt other

section
variable {w : Workspace}

/-- Directories are made on the way to a file, whether or not all of them can be. -/
theorem runOn_makeWay (path : Path) : ∃ result w', runOn (makeWay path) w = (result, w') ∧
    AddsDirectories w.tree w'.tree := by
  rw [makeWay]
  cases path.parent? with
  | none => exact ⟨_, w, rfl, .refl w.tree⟩
  | some parent =>
    obtain ⟨made, w', hrun, hadds⟩ := addsOnly_makeDirectories parent w
    simp only [runOn_bind, hrun]
    cases made with
    | ok => exact ⟨_, w', rfl, hadds⟩
    | error => exact ⟨_, w', rfl, hadds⟩

/-- A file is put at the place to which its path leads, or the tree stays as it is. -/
theorem runOn_putFile (path : Path) (content : String) :
    (∃ e, runOn (putFile path content) w = (.error e, w)) ∨
    ∃ w', runOn (putFile path content) w = (.ok (), w') ∧
      w.tree.write path content = .ok w'.tree := by
  have hwrite : runOn (Shell.write path content) w = _ :=
    runOn_change (f := (·.write path content)) (w := w)
  rw [putFile, runOn_bind, hwrite]
  cases h : w.tree.write path content with
  | ok tree => exact .inr ⟨_, rfl, rfl⟩
  | error e => exact .inl ⟨_, rfl⟩

/-- A file is written, or all files stay as they are. -/
theorem runOn_writeFile (dir : String) (force : Bool) (name content : String) (w : Workspace) :
    (∃ e w', runOn (writeFile dir force name content) w = (.error e, w') ∧
      SameFiles w.tree w'.tree) ∨
    ∃ w' place, runOn (writeFile dir force name content) w = (.ok (), w') ∧
      Wrote dir force (name, content) place w.tree w'.tree := by
  simp only [writeFile, runOn_bind, runOn_isThere]
  split
  · exact .inl ⟨_, w, rfl, fun _ => rfl⟩
  · rename_i hkept
    obtain ⟨made, w₁, hmade, hadds⟩ := runOn_makeWay (w := w) (Path.join dir name)
    rw [runOn_bind, hmade]
    cases made with
    | error e => exact .inl ⟨e, w₁, rfl, hadds.sameFiles⟩
    | ok =>
      rcases runOn_putFile (w := w₁) (Path.join dir name) content with ⟨e, hput⟩ |
        ⟨w', hput, hwrite⟩
      · exact .inl ⟨e, w₁, hput, hadds.sameFiles⟩
      · obtain ⟨found, place, hfind, hplace, htree⟩ := FileTree.write_eq_ok_iff.1 hwrite
        obtain ⟨hfound, hfiles⟩ := FileTree.find_put hfind hplace (.text content)
        rw [← htree] at hfound hfiles
        refine .inr ⟨w', place, hput, fun hforce => ?_, hfound, fun other => ?_⟩
        · rcases FileTree.find_of_addsDirectories hadds hfind hplace with hmissing | hfree | hthere
          · exact .inr hmissing
          · exact .inl hfree
          · simp [hforce, hthere] at hkept
        · rw [hfiles, hadds.sameFiles other]

end

/-! ## Steps in turn -/

/-- Steps for the items of a list are taken one after the other. -/
inductive InTurn {γ : Type} (step : γ → FileTree → FileTree → Prop) :
    List γ → FileTree → FileTree → Prop
  | nil {t : FileTree} : InTurn step [] t t
  | cons {a : γ} {l : List γ} {t t₁ t' : FileTree} : step a t t₁ → InTurn step l t₁ t' →
    InTurn step (a :: l) t t'

section
variable {γ : Type} {f : γ → Action (StateM Workspace) Unit} {a : γ} {l : List γ} {e : Failure}
  {w w' : Workspace}

/-- A loop goes on behind an item if that does not fail, -/
theorem runOn_forM_cons_of_ok (h : runOn (f a) w = (.ok (), w')) :
    runOn ((a :: l).forM f) w = runOn (l.forM f) w' := by
  have hcons : runOn ((a :: l).forM f) w = _ := runOn_bind
  rw [hcons, h]

/-- and stops there if it does. -/
theorem runOn_forM_cons_of_error (h : runOn (f a) w = (.error e, w')) :
    runOn ((a :: l).forM f) w = (.error e, w') := by
  have hcons : runOn ((a :: l).forM f) w = _ := runOn_bind
  rw [hcons, h]

/-- The items in front of the first one for which a loop fails. -/
def stepsTaken (f : γ → Action (StateM Workspace) Unit) : List γ → Workspace → List γ
  | [], _ => []
  | a :: l, w =>
    match runOn (f a) w with
    | (.ok (), w') => a :: stepsTaken f l w'
    | (.error _, _) => []

theorem stepsTaken_cons_of_ok (h : runOn (f a) w = (.ok (), w')) :
    stepsTaken f (a :: l) w = a :: stepsTaken f l w' := by
  rw [stepsTaken, h]

theorem stepsTaken_cons_of_error (h : runOn (f a) w = (.error e, w')) :
    stepsTaken f (a :: l) w = [] := by
  rw [stepsTaken, h]

theorem isPrefix_stepsTaken (l : List γ) (w : Workspace) : stepsTaken f l w <+: l := by
  induction l generalizing w with
  | nil => exact List.prefix_refl _
  | cons a l ih =>
    rcases hrun : runOn (f a) w with ⟨e | ⟨⟩, w'⟩
    · rw [stepsTaken_cons_of_error hrun]
      exact List.nil_prefix
    · rw [stepsTaken_cons_of_ok hrun]
      exact List.cons_prefix_cons.2 ⟨rfl, ih w'⟩

/-- These are all items exactly if the loop does not fail. -/
theorem stepsTaken_eq_iff (l : List γ) (w : Workspace) :
    stepsTaken f l w = l ↔ (runOn (l.forM f) w).1 = .ok () := by
  induction l generalizing w with
  | nil => exact iff_of_true rfl rfl
  | cons a l ih =>
    rcases hrun : runOn (f a) w with ⟨e | ⟨⟩, w'⟩
    · rw [stepsTaken_cons_of_error hrun, runOn_forM_cons_of_error hrun]
      exact iff_of_false (List.cons_ne_nil a l).symm nofun
    · rw [stepsTaken_cons_of_ok hrun, runOn_forM_cons_of_ok hrun, List.cons_inj_right]
      exact ih w'

/-- In a loop, all steps are taken in turn, or those in front of one that fails. -/
theorem runOn_forM (step : γ → FileTree → FileTree → Prop) (fail : FileTree → FileTree → Prop)
    (hf : ∀ a w, (∃ e w', runOn (f a) w = (.error e, w') ∧ fail w.tree w'.tree) ∨
      ∃ w', runOn (f a) w = (.ok (), w') ∧ step a w.tree w'.tree) (l : List γ) (w : Workspace) :
    (∃ e w' a rest t₁, runOn (l.forM f) w = (.error e, w') ∧ l = stepsTaken f l w ++ a :: rest ∧
      InTurn step (stepsTaken f l w) w.tree t₁ ∧ fail t₁ w'.tree) ∨
    ∃ w', runOn (l.forM f) w = (.ok (), w') ∧ stepsTaken f l w = l ∧
      InTurn step l w.tree w'.tree := by
  induction l generalizing w with
  | nil => exact .inr ⟨w, rfl, rfl, .nil⟩
  | cons a l ih =>
    rcases hf a w with ⟨e, w', hrun, hfail⟩ | ⟨w₁, hrun, hstep⟩
    · rw [stepsTaken_cons_of_error hrun]
      exact .inl ⟨e, w', a, l, w.tree, runOn_forM_cons_of_error hrun, rfl, .nil, hfail⟩
    · rw [runOn_forM_cons_of_ok hrun, stepsTaken_cons_of_ok hrun]
      rcases ih w₁ with ⟨e, w', b, rest, t₁, hrest, hsplit, hturns, hfail⟩ |
        ⟨w', hrest, hall, hturns⟩
      · exact .inl ⟨e, w', b, rest, t₁, hrest, congrArg (a :: ·) hsplit, .cons hstep hturns, hfail⟩
      · exact .inr ⟨w', hrest, congrArg (a :: ·) hall, .cons hstep hturns⟩

end

/-! ## Lists of files -/

/-- Files were written one after the other, each to its place. -/
inductive WroteAll (dir : String) (force : Bool) :
    List (String × String) → List (List String) → FileTree → FileTree → Prop
  | nil {t t' : FileTree} : SameFiles t t' → WroteAll dir force [] [] t t'
  | cons {file : String × String} {place : List String} {files : List (String × String)}
      {places : List (List String)} {t t₁ t' : FileTree} : Wrote dir force file place t t₁ →
      WroteAll dir force files places t₁ t' →
      WroteAll dir force (file :: files) (place :: places) t t'

/-- The content that was last written to a place. -/
def lastWritten (files : List (String × String)) (places : List (List String))
    (place : List String) : Option String :=
  (places.zip (files.map Prod.snd)).reverse.lookup place

section
variable {dir : String} {force : Bool} {files : List (String × String)}
  {places : List (List String)} {t t' : FileTree}

/-- What was last written to a place stands there, and elsewhere what stood there before. -/
theorem WroteAll.fileAt_eq (h : WroteAll dir force files places t t') (place : List String) :
    t'.fileAt place = ((lastWritten files places place).map .text).or (t.fileAt place) := by
  induction h with
  | nil hsame => simpa [lastWritten] using hsame place
  | @cons file place' files places _ _ _ hwrote _ ih =>
    rw [ih, hwrote.fileAt]
    simp only [lastWritten, List.map_cons, List.zip_cons_cons, List.reverse_cons,
      List.lookup_append, List.lookup_cons, List.lookup_nil]
    -- the file counts only where no later one was written
    cases (places.zip (files.map Prod.snd)).reverse.lookup place with
    | some content => rfl
    | none =>
      by_cases hplace : place = place'
      · simp [hplace]
      · simp [hplace, beq_false_of_ne hplace]

/-- All files stay as they are exactly if what is last written to a place stood there before. -/
theorem WroteAll.sameFiles_iff (h : WroteAll dir force files places t t') :
    SameFiles t t' ↔ ∀ place content, lastWritten files places place = some content →
      t.fileAt place = some (.text content) := by
  constructor
  · intro hsame place content hlast
    rw [← hsame, h.fileAt_eq, hlast]
    rfl
  · intro hlast place
    rw [h.fileAt_eq]
    cases hw : lastWritten files places place with
    | none => rfl
    | some content => exact (hlast place content hw).symm

/-- Without `force`, all files can only stay as they are if none was written, or if a directory was
missing on the way to the first one. -/
theorem WroteAll.missing_of_sameFiles {file : String × String}
    (h : WroteAll dir false (file :: files) places t t') (hsame : SameFiles t t') :
    t.find (Path.join dir file.1) = .error .notFound := by
  cases h with
  | @cons _ place _ _ _ t₁ _ hwrote hall =>
    rcases hwrote.fresh rfl with hfree | hmissing
    · have hthere := hall.fileAt_eq place
      rw [hsame, FileTree.fileAt_of_find_free hfree, hwrote.fileAt, if_pos rfl] at hthere
      simp at hthere
    · exact hmissing

/-- Where each step writes a file, all files are written. -/
theorem InTurn.exists_wroteAll {t'' : FileTree}
    (h : InTurn (fun file t t' => ∃ place, Wrote dir force file place t t') files t t')
    (hsame : SameFiles t' t'') : ∃ places, WroteAll dir force files places t t'' := by
  induction h with
  | nil => exact ⟨[], .nil hsame⟩
  | cons hwrote _ ih =>
    obtain ⟨place, hwrote⟩ := hwrote
    obtain ⟨places, hall⟩ := ih hsame
    exact ⟨place :: places, .cons hwrote hall⟩

/-- All files are written, or those in front of one that fails. -/
theorem runOn_forM_writeFile (files : List (String × String)) (w : Workspace) :
    (∃ e w' front file rest places,
      runOn (files.forM fun (name, content) => writeFile dir force name content) w =
      (.error e, w') ∧
      files = front ++ file :: rest ∧ WroteAll dir force front places w.tree w'.tree) ∨
    ∃ w' places,
      runOn (files.forM fun (name, content) => writeFile dir force name content) w = (.ok (), w') ∧
      WroteAll dir force files places w.tree w'.tree := by
  have hstep (file : String × String) (w : Workspace) :
      (∃ e w', runOn (writeFile dir force file.1 file.2) w = (.error e, w') ∧
        SameFiles w.tree w'.tree) ∨
      ∃ w', runOn (writeFile dir force file.1 file.2) w = (.ok (), w') ∧
        ∃ place, Wrote dir force file place w.tree w'.tree := by
    rcases runOn_writeFile dir force file.1 file.2 w with
      ⟨e, w', hrun, hsame⟩ | ⟨w', place, hrun, hwrote⟩
    · exact .inl ⟨e, w', hrun, hsame⟩
    · exact .inr ⟨w', hrun, place, hwrote⟩
  rcases runOn_forM (fun file t t' => ∃ place, Wrote dir force file place t t') SameFiles
      hstep files w with
    ⟨e, w', file, rest, t, hrun, hsplit, hturns, hsame⟩ | ⟨w', hrun, -, hturns⟩
  · obtain ⟨places, hall⟩ := hturns.exists_wroteAll hsame
    exact .inl ⟨e, w', _, file, rest, places, hrun, hsplit, hall⟩
  · obtain ⟨places, hall⟩ := hturns.exists_wroteAll fun _ => rfl
    exact .inr ⟨w', places, hrun, hall⟩

end

end Scaffold
