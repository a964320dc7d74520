import Scaffold.Proofs.CommandLine.Containment
import Scaffold.Proofs.Files.Growth

/-!
# Files that are written in turn

The step of writing is `Landed`: the file is at the place to which its path leads, and the tree has
grown. As the tree only grows, the places of all files that are written in turn are known from the
tree at the start (`Turns.wroteAll`), and so is which of their paths were free
(`Turns.free_or_notFound`); in the end all paths still lead to files (`Turns.read_eq`).
`Artifact.written` are the files that a run writes, those in front of the one that fails if there is
one.
-/

namespace Scaffold

open FileTree (Grows SameFiles)

/-! ## One file -/

/-- A file was written to the place to which its path leads, in a tree that only grew. -/
structure Landed (dir : String) (force : Bool) (file : String × String) (t t' : FileTree) :
    Prop where
  wrote : Wrote dir force file (t.goal (Path.join dir file.1)) t t'
  grows : Grows t t'

/-- A tree only grows while a file is written, whether or not that fails. -/
theorem grows_writeFile (dir : String) (force : Bool) (name content : String) :
    Keeps Grows (writeFile dir force name content) := by
  intro w
  simp only [writeFile, runOn_bind, runOn_isThere]
  split
  · exact .refl w.tree
  · have hway : Keeps Grows (makeWay (Path.join dir name)) :=
      keeps_makeWay fun _ _ => FileTree.grows_makeDirectory
    have hput : Keeps Grows (putFile (Path.join dir name) content) :=
      keeps_putFile FileTree.grows_write
    exact (hway.bind fun _ => hput) w

/-- A file lands at its place, or all files stay as they are. -/
theorem runOn_writeFile_landed (dir : String) (force : Bool) (file : String × String)
    (w : Workspace) :
    (∃ e w', runOn (writeFile dir force file.1 file.2) w = (.error e, w') ∧
      SameFiles w.tree w'.tree) ∨
    ∃ w', runOn (writeFile dir force file.1 file.2) w = (.ok (), w') ∧
      Landed dir force file w.tree w'.tree := by
  have hgrows := grows_writeFile dir force file.1 file.2 w
  rcases runOn_writeFile dir force file.1 file.2 w with ⟨e, w', hrun, hsame⟩ |
    ⟨w', place, hrun, hwrote⟩
  · exact .inl ⟨e, w', hrun, hsame⟩
  · rw [hrun] at hgrows
    have hplace : place = w.tree.goal (Path.join dir file.1) :=
      (FileTree.find_eq_resolve hwrote.found).trans (hgrows.goal_eq _)
    exact .inr ⟨w', hrun, hplace ▸ hwrote, hgrows⟩

/-! ## All files -/

/-- Files were written in turn. -/
abbrev Turns (dir : String) (force : Bool) : List (String × String) → FileTree → FileTree → Prop :=
  InTurn (Landed dir force)

/-- The place of a generated file. -/
def FileTree.goalIn (t : FileTree) (dir : String) (file : String × String) : List String :=
  t.goal (Path.join dir file.1)

section
variable {dir : String} {force : Bool} {a : Artifact} {files : List (String × String)}
  {file other : String × String} {t t' t'' : FileTree} {place : List String} {content : String}

/-- The files of an artifact that are written, which are those in front of the first one
that fails. -/
def Artifact.written (dir : String) (force : Bool) (a : Artifact) (w : Workspace) :
    List (String × String) :=
  stepsTaken (fun (name, content) => writeFile dir force name content) a.entries w

/-- An artifact is written in turn, up to a file that fails if there is one. -/
theorem Artifact.runOn_write (a : Artifact) (dir : String) (force : Bool) (w : Workspace) :
    (∃ e w' file rest t₁, runOn (a.write dir force) w = (.error e, w') ∧
      a.entries = a.written dir force w ++ file :: rest ∧
      Turns dir force (a.written dir force w) w.tree t₁ ∧ SameFiles t₁ w'.tree) ∨
    ∃ w', runOn (a.write dir force) w = (.ok (), w') ∧ a.written dir force w = a.entries ∧
      Turns dir force a.entries w.tree w'.tree :=
  runOn_forM (Landed dir force) SameFiles (runOn_writeFile_landed dir force) a.entries w

/-- However writing an artifact ends, the files that are written were written in turn, and all files
have stayed since. -/
theorem Artifact.turns_written (a : Artifact) (dir : String) (force : Bool) (w : Workspace) :
    ∃ t, Turns dir force (a.written dir force w) w.tree t ∧
      SameFiles t (runOn (a.write dir force) w).2.tree := by
  rcases a.runOn_write dir force w with
    ⟨e, w', _, _, t, hrun, -, hturns, hsame⟩ | ⟨w', hrun, hall, hturns⟩
  · rw [hrun]
    exact ⟨t, hturns, hsame⟩
  · rw [hrun, hall]
    exact ⟨w'.tree, hturns, fun _ => rfl⟩

theorem Turns.grows (h : Turns dir force files t t') : Grows t t' := by
  induction h with
  | nil => exact .refl _
  | cons hlanded _ ih => exact hlanded.grows.trans ih

/-- The places of the files are known from the tree at the start. -/
theorem Turns.wroteAll (h : Turns dir force files t t') (hsame : SameFiles t' t'') :
    WroteAll dir force files (files.map (t.goalIn dir)) t t'' := by
  induction h with
  | nil => exact .nil hsame
  | @cons file files t t₁ t' hlanded _ ih =>
    have hgoals : files.map (t₁.goalIn dir) = files.map (t.goalIn dir) :=
      List.map_congr_left fun file _ => hlanded.grows.goal_eq _
    exact .cons hlanded.wrote (hgoals ▸ ih hsame)

/-- Without `force`, the path of a file was not found at the start unless its place was free. -/
theorem Turns.free_or_notFound (h : Turns dir false files t t') (hfile : file ∈ files) :
    t.get? (t.goalIn dir file) = none ∨ t.find (Path.join dir file.1) = .error .notFound := by
  induction h with
  | nil => cases hfile
  | @cons first files t t₁ t' hlanded hturns ih =>
    rcases List.mem_cons.1 hfile with rfl | hfile
    · refine (hlanded.wrote.fresh rfl).imp_left fun hfree => ?_
      have hplace : t.goalIn dir file = t.goal (Path.join dir file.1) := rfl
      rw [hplace, FileTree.goal, ← FileTree.find_eq_resolve hfree]
      exact (FileTree.walk_eq_free (FileTree.walk_of_find hfree)).1
    · refine (ih hfile).imp (fun hnone => ?_) (FileTree.find_notFound_of_grows hlanded.grows)
      have hplace : t₁.goalIn dir file = t.goalIn dir file := hlanded.grows.goal_eq _
      exact hlanded.grows.get?_eq_none (hplace ▸ hnone)

/-- In the end, the path of a file leads to a file at its place. -/
theorem Turns.find_eq (h : Turns dir force files t t') (hfile : file ∈ files) :
    ∃ content, t'.find (Path.join dir file.1) = .ok (.file (t.goalIn dir file) content) := by
  induction h with
  | nil => cases hfile
  | @cons first files t t₁ t' hlanded hturns ih =>
    rcases List.mem_cons.1 hfile with rfl | hfile
    · exact FileTree.find_file_of_grows (Turns.grows hturns) hlanded.wrote.found
    · have hplace : t₁.goalIn dir file = t.goalIn dir file := hlanded.grows.goal_eq _
      exact hplace ▸ ih hfile

/-! ## What was written last -/

theorem lastWritten_map (f : String × String → List String) :
    lastWritten files (files.map f) place =
    (files.map fun file => (f file, file.2)).reverse.lookup place := by
  rw [lastWritten, List.zip_map']

/-- What was last written to a place is the content of a file that goes there. -/
theorem exists_of_lastWritten {f : String × String → List String}
    (h : lastWritten files (files.map f) place = some content) :
    ∃ file ∈ files, f file = place ∧ file.2 = content := by
  rw [lastWritten_map] at h
  obtain ⟨front, rest, hsplit, -⟩ := List.lookup_eq_some_iff.1 h
  have hmem : (place, content) ∈ (files.map fun file => (f file, file.2)).reverse := by
    simp [hsplit]
  obtain ⟨file, hfile, heq⟩ := List.mem_map.1 (List.mem_reverse.1 hmem)
  cases heq
  exact ⟨file, hfile, rfl, rfl⟩

/-- Something was written to the place of every file. -/
theorem exists_lastWritten (f : String × String → List String) (hfile : file ∈ files) :
    ∃ content, lastWritten files (files.map f) (f file) = some content := by
  cases hlast : lastWritten files (files.map f) (f file) with
  | some content => exact ⟨content, rfl⟩
  | none =>
    rw [lastWritten_map] at hlast
    have hmem : (f file, file.2) ∈ (files.map fun file => (f file, file.2)).reverse :=
      List.mem_reverse.2 (List.mem_map_of_mem hfile)
    exact absurd (List.lookup_eq_none_iff.1 hlast _ hmem) (by simp)

/-- In the end, the path of a file leads to what was last written to its place. -/
theorem Turns.read_eq (h : Turns dir force files t t') (hfile : file ∈ files) : ∃ content,
    lastWritten files (files.map (t.goalIn dir)) (t.goalIn dir file) = some content ∧
    t'.read (Path.join dir file.1) = .ok content := by
  obtain ⟨content, hlast⟩ := exists_lastWritten (t.goalIn dir) hfile
  obtain ⟨found, hfind⟩ := h.find_eq hfile
  have hthere := (h.wroteAll fun _ => rfl).fileAt_eq (t.goalIn dir file)
  rw [FileTree.fileAt, (FileTree.walk_eq_file (FileTree.walk_of_find hfind)).1, hlast] at hthere
  cases hthere
  exact ⟨content, hlast, by rw [FileTree.read, hfind]⟩

end

/-! ## Requests -/

section
variable {developmentUrl : Option String} {r : Request} {w : Workspace} {a : Artifact}
  {dir : String} {force : Bool}

/-- A request that writes an artifact ends as writing it ends. -/
theorem Request.Writes.runIn_eq (h : r.Writes developmentUrl w.tree a dir force) :
    r.runIn developmentUrl w = match runOn (a.write dir force) w with
      | (.ok (), w') => ({ code := 0 }, w')
      | (.error e, w') => ({ code := 1, failure := some e }, w') := by
  obtain ⟨i, rfl, hjob⟩ := h
  rw [runIn_invoke, Invocation.runOn_run, hjob]
  rfl

/-- It leaves the workspace that writing it leaves. -/
theorem Request.Writes.snd_runIn (h : r.Writes developmentUrl w.tree a dir force) :
    (r.runIn developmentUrl w).2 = (runOn (a.write dir force) w).2 := by
  rw [h.runIn_eq]
  rcases runOn (a.write dir force) w with ⟨e | ⟨⟩, w'⟩ <;> rfl

/-- It succeeds exactly if writing it does. -/
theorem Request.Writes.code_eq_zero_iff (h : r.Writes developmentUrl w.tree a dir force) :
    (r.runIn developmentUrl w).1.code = 0 ↔ (runOn (a.write dir force) w).1 = .ok () := by
  rw [h.runIn_eq]
  rcases runOn (a.write dir force) w with ⟨e | ⟨⟩, w'⟩ <;> simp

/-- However it ends, the files that are written were written in turn. -/
theorem Request.Writes.exists_turns (h : r.Writes developmentUrl w.tree a dir force) :
    ∃ t, Turns dir force (a.written dir force w) w.tree t ∧
      SameFiles t (r.runIn developmentUrl w).2.tree := by
  rw [h.snd_runIn]
  exact a.turns_written dir force w

end

end Scaffold
