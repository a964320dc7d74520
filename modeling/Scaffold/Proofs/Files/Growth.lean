import Mathlib.Data.List.Induction
import Scaffold.Proofs.Files.Containment

/-!
# Trees that grow

File operations take nothing away: directories stay directories and files stay files, with whatever
content. `FileTree.Grows` says so, and that a tree as file systems have it (`FileTree.WellFormed`)
stays one. A path that is not found in a tree that has grown was not found before
(`find_notFound_of_grows`), and one that led to a file still does (`find_file_of_grows`). A path
that is not found can still name a place that is in use, behind two dots; without them it cannot
(`fileAt_goal_of_notFound`).
-/

namespace Scaffold.FileTree

/-- The place to which the pieces of a path lead, whatever stands on the way. -/
def goal (t : FileTree) (p : Path) : List String :=
  Path.resolve (if p.start = .root then [] else t.working) p.pieces

/-- A tree as file systems have it: the working directory is there, and what stands somewhere stands
in a directory. -/
structure WellFormed (t : FileTree) : Prop where
  working : t.get? t.working = some .directory
  parent : ∀ place name, t.get? (place ++ [name]) ≠ none → t.get? place = some .directory

/-- A tree in which directories and files have stayed what they were. -/
structure Grows (t t' : FileTree) : Prop where
  working : t'.working = t.working
  directory : ∀ place, t.get? place = some .directory → t'.get? place = some .directory
  file : ∀ place content, t.get? place = some (.file content) →
    ∃ content', t'.get? place = some (.file content')
  wellFormed : t.WellFormed → t'.WellFormed

theorem Grows.refl (t : FileTree) : Grows t t := ⟨rfl, fun _ => id, fun _ c h => ⟨c, h⟩, id⟩

/-- A tree can grow in steps. -/
theorem Grows.trans {t t' t'' : FileTree} (h : Grows t t') (h' : Grows t' t'') : Grows t t'' where
  working := h'.working.trans h.working
  directory place hdir := h'.directory place (h.directory place hdir)
  file place content hfile := by
    obtain ⟨content', hfile'⟩ := h.file place content hfile
    exact h'.file place content' hfile'
  wellFormed hwf := h'.wellFormed (h.wellFormed hwf)

instance : IsPreorder FileTree Grows where
  refl := .refl
  trans _ _ _ := .trans

section
variable {t t' : FileTree} {start place pieces front rest more : List String} {found : Found}
  {p : Path} {content : Content} {e : Entry} {s : String}

/-! ## Trees as file systems have them -/

/-- What stands below a place stands below a directory. -/
theorem WellFormed.directory_of_append (h : t.WellFormed) (hmore : more ≠ [])
    (hthere : t.get? (place ++ more) ≠ none) : t.get? place = some .directory := by
  induction more using List.reverseRecOn with
  | nil => exact absurd rfl hmore
  | append_singleton more name ih =>
    rw [← List.append_assoc] at hthere
    have hdir := h.parent _ _ hthere
    cases more with
    | nil => rwa [List.append_nil] at hdir
    | cons => exact ih (by simp) (by simp [hdir])

/-- A directory stands in a directory; the root counts as standing in itself. -/
theorem WellFormed.directory_dropLast (h : t.WellFormed) (hplace : t.get? place = some .directory) :
    t.get? place.dropLast = some .directory := by
  rcases List.eq_nil_or_concat place with rfl | ⟨front, name, rfl⟩
  · rfl
  · rw [List.concat_eq_append] at hplace ⊢
    rw [List.dropLast_concat]
    exact h.parent front name (by simp [hplace])

/-- A way that starts in a directory ends in one. -/
theorem WellFormed.directory_of_walk (h : t.WellFormed) (hstart : t.get? start = some .directory)
    (hwalk : t.walk start pieces = .ok found) : t.get? found.place.dropLast = some .directory := by
  fun_induction walk t start pieces with
  | case1 =>
    cases hwalk
    exact h.directory_dropLast hstart
  | case2 _ _ _ _ ih => exact ih hstart hwalk
  | case3 _ _ _ _ _ ih => exact ih (h.directory_dropLast hstart) hwalk
  | case5 _ _ _ _ _ _ hget ih => exact ih hget hwalk
  | case6 | case8 =>
    cases hwalk
    rwa [Found.place, List.dropLast_concat]
  | case4 | case7 | case9 => cases hwalk

/-- A way that starts in a directory and leads to one leads to where it stands. -/
theorem WellFormed.walk_eq_directory (h : t.WellFormed) (hstart : t.get? start = some .directory)
    (hwalk : t.walk start pieces = .ok (.directory place)) : t.get? place = some .directory := by
  fun_induction walk t start pieces with
  | case1 =>
    cases hwalk
    exact hstart
  | case2 _ _ _ _ ih => exact ih hstart hwalk
  | case3 _ _ _ _ _ ih => exact ih (h.directory_dropLast hstart) hwalk
  | case5 _ _ _ _ _ _ hget ih => exact ih hget hwalk
  | case4 | case6 | case7 | case8 | case9 => cases hwalk

/-- Paths start in a directory. -/
theorem WellFormed.directory_start (h : t.WellFormed) (p : Path) :
    t.get? (if p.start = .root then [] else t.working) = some .directory := by
  split
  · rfl
  · exact h.working

/-- Something can be put in a directory. -/
theorem WellFormed.put (h : t.WellFormed) (hparent : t.get? place.dropLast = some .directory)
    (hdir : t.get? place ≠ some .directory) : (t.put place e).WellFormed := by
  have hkeep : ∀ other, t.get? other = some .directory → (t.put place e).get? other =
      some .directory := by
    intro other hother
    have hne : other ≠ place := fun heq => hdir (heq ▸ hother)
    rw [get?_put_of_ne hne, hother]
  refine ⟨hkeep _ h.working, fun other name hthere => hkeep other ?_⟩
  by_cases heq : other ++ [name] = place
  · rwa [← heq, List.dropLast_concat] at hparent
  · rw [get?_put_of_ne heq] at hthere
    exact h.parent other name hthere

/-- A tree is as file systems have it if this holds of its entries. -/
theorem wellFormed_of_entries (hworking : t.get? t.working = some .directory)
    (hentries : ∀ entry ∈ t.entries, t.get? entry.1.dropLast = some .directory) : t.WellFormed := by
  refine ⟨hworking, fun place name hthere => ?_⟩
  rw [get?, if_neg (by simp)] at hthere
  obtain ⟨e, hlookup⟩ := Option.ne_none_iff_exists'.1 hthere
  obtain ⟨front, rest, hsplit, -⟩ := List.lookup_eq_some_iff.1 hlookup
  have hparent := hentries (place ++ [name], e) (by simp [hsplit])
  rwa [List.dropLast_concat] at hparent

/-! ## Operations -/

/-- A tree grows by what is put at a free place in a directory, or by a file that takes the place of
another one. -/
theorem grows_put (hroot : place ≠ [])
    (hparent : t.WellFormed → t.get? place.dropLast = some .directory)
    (hplace : t.get? place ≠ some .directory)
    (hfile : t.get? place ≠ none → ∃ content, e = .file content) : Grows t (t.put place e) where
  working := rfl
  directory other hother := by
    have hne : other ≠ place := fun heq => hplace (heq ▸ hother)
    rw [get?_put_of_ne hne, hother]
  file other content hother := by
    by_cases heq : other = place
    · subst heq
      obtain ⟨content', rfl⟩ := hfile (by simp [hother])
      exact ⟨content', get?_put_self hroot⟩
    · exact ⟨content, by rw [get?_put_of_ne heq, hother]⟩
  wellFormed h := h.put (hparent h) hplace

/-- A tree grows by a directory that is made. -/
theorem grows_makeDirectory (h : t.makeDirectory p = .ok t') : Grows t t' := by
  rw [makeDirectory] at h
  split at h
  · rename_i place slash hfind
    cases h
    have hwalk := walk_of_find hfind
    obtain ⟨hnone, hroot⟩ := walk_eq_free hwalk
    refine grows_put hroot (fun hwf => ?_) (by simp [hnone]) (fun hthere => absurd hnone hthere)
    exact hwf.directory_of_walk (hwf.directory_start p) hwalk
  · cases h
  · cases h

/-- A file is written to its own place. -/
theorem Found.place_of_target? (h : found.target? = some place) : found.place = place := by
  cases found with
  | directory => cases h
  | file => cases h; rfl
  | free _ slash => cases slash <;> cases h; rfl

/-- A tree grows by a file that is written. -/
theorem grows_write (h : t.write p s = .ok t') : Grows t t' := by
  obtain ⟨found, place, hfind, htarget, rfl⟩ := write_eq_ok_iff.1 h
  have hwalk := walk_of_find hfind
  obtain ⟨hdir, hroot⟩ := get?_target hwalk htarget
  refine grows_put hroot (fun hwf => ?_) hdir fun _ => ⟨_, rfl⟩
  rw [← Found.place_of_target? htarget]
  exact hwf.directory_of_walk (hwf.directory_start p) hwalk

/-! ## Paths in trees that have grown -/

/-- Paths lead to the same places. -/
theorem Grows.goal_eq (h : Grows t t') (p : Path) : t'.goal p = t.goal p := by
  rw [goal, goal, h.working]

/-- A place that is not in use was not before. -/
theorem Grows.get?_eq_none (h : Grows t t') (hnone : t'.get? place = none) :
    t.get? place = none := by
  cases hget : t.get? place with
  | none => rfl
  | some e =>
    cases e with
    | directory =>
      have hdir := h.directory place hget
      rw [hnone] at hdir
      cases hdir
    | file content =>
      obtain ⟨content', hfile⟩ := h.file place content hget
      rw [hnone] at hfile
      cases hfile

/-- A way on which something is missing was missing something before. -/
theorem walk_notFound_of_grows (hgrows : Grows t t') (h : t'.walk start pieces = .error .notFound) :
    t.walk start pieces = .error .notFound := by
  fun_induction walk t' start pieces with
  | case1 | case4 | case6 | case7 | case8 => cases h
  | case2 _ _ _ hidle ih =>
    rw [walk_of_isIdle hidle]
    exact ih h
  | case3 _ _ _ hidle hup ih =>
    rw [walk_of_up hidle hup]
    exact ih h
  | case5 place piece rest hidle hup hlong hget ih =>
    cases hold : t.get? (place ++ [piece]) with
    | none =>
      -- slashes at the end of a way to a directory would not be missed
      have hrest : ¬rest.all (· == "") = true := fun hall => by
        rw [walk_of_all_empty hall] at h
        cases h
      exact walk_of_missing hidle hup hlong hold hrest
    | some e =>
      cases e with
      | directory =>
        rw [walk_of_directory hidle hup hlong hold]
        exact ih h
      | file content =>
        obtain ⟨_, hfile⟩ := hgrows.file _ _ hold
        rw [hget] at hfile
        cases hfile
  | case9 place piece rest hidle hup hlong hget hrest =>
    exact walk_of_missing hidle hup hlong (hgrows.get?_eq_none hget) hrest

/-- A path that is not found was not found before. -/
theorem find_notFound_of_grows (hgrows : Grows t t') (h : t'.find p = .error .notFound) :
    t.find p = .error .notFound := by
  rw [find] at h ⊢
  rw [hgrows.working] at h
  split_ifs at h ⊢ <;> first | exact h | exact walk_notFound_of_grows hgrows h

/-- A way to a file leads to it still. -/
theorem walk_file_of_grows (hgrows : Grows t t')
    (h : t.walk start pieces = .ok (.file place content)) :
    ∃ content', t'.walk start pieces = .ok (.file place content') := by
  fun_induction walk t start pieces with
  | case1 | case4 | case7 | case8 | case9 => cases h
  | case2 _ _ _ hidle ih =>
    rw [walk_of_isIdle hidle]
    exact ih h
  | case3 _ _ _ hidle hup ih =>
    rw [walk_of_up hidle hup]
    exact ih h
  | case5 _ _ _ hidle hup hlong hget ih =>
    rw [walk_of_directory hidle hup hlong (hgrows.directory _ hget)]
    exact ih h
  | case6 _ _ _ hidle hup hlong _ hget hrest =>
    cases h
    obtain ⟨content', hfile⟩ := hgrows.file _ _ hget
    exact ⟨content', walk_of_file hidle hup hlong hfile hrest⟩

/-- A path to a file leads to it still. -/
theorem find_file_of_grows (hgrows : Grows t t') (h : t.find p = .ok (.file place content)) :
    ∃ content', t'.find p = .ok (.file place content') := by
  rw [find_eq_walk h hgrows.working]
  exact walk_file_of_grows hgrows (walk_of_find h)

/-! ## What stands on the way -/

/-- On the way to a file, everything is a directory. -/
theorem WellFormed.directory_of_front (h : t.WellFormed) (hstart : t.get? start = some .directory)
    (hwalk : t.walk start (front ++ rest) = .ok (.file place content)) (hrest : rest ≠ []) :
    t.get? (Path.resolve start front) = some .directory := by
  induction front generalizing start with
  | nil => exact hstart
  | cons piece front ih =>
    rw [List.cons_append, walk] at hwalk
    rw [Path.resolve, List.foldl_cons, Path.step]
    by_cases hidle : Path.isIdle piece = true
    · rw [if_pos hidle] at hwalk ⊢
      exact ih hstart hwalk
    by_cases hup : (piece == "..") = true
    · rw [if_neg hidle, if_pos hup] at hwalk ⊢
      exact ih (h.directory_dropLast hstart) hwalk
    rw [if_neg hidle, if_neg hup] at hwalk ⊢
    have hmore : ¬(front ++ rest).isEmpty = true := by simp [hrest]
    simp only [if_neg hmore] at hwalk
    split at hwalk
    · cases hwalk
    · split at hwalk
      · rename_i hget
        exact ih hget hwalk
      · cases hwalk
      · split at hwalk <;> cases hwalk

/-- Pieces that do not lead up lead down. -/
theorem resolve_of_not_up (h : ".." ∉ pieces) :
    ∃ more, Path.resolve start pieces = start ++ more := by
  induction pieces generalizing start with
  | nil => exact ⟨[], (List.append_nil start).symm⟩
  | cons piece pieces ih =>
    rw [List.mem_cons, not_or] at h
    have hne : ¬(piece == "..") = true := by simpa using Ne.symm h.1
    rw [Path.resolve, List.foldl_cons, Path.step, if_neg hne]
    split
    · exact ih h.2
    · obtain ⟨more, hmore⟩ : ∃ more, Path.resolve (start ++ [piece]) pieces =
        start ++ [piece] ++ more :=
        ih h.2
      exact ⟨piece :: more, hmore.trans (by simp)⟩

/-- Where something is missing on a way that does not lead up, nothing stands at its end. -/
theorem WellFormed.get?_resolve_of_notFound (h : t.WellFormed) (hup : ".." ∉ pieces)
    (hwalk : t.walk start pieces = .error .notFound) :
    t.get? (Path.resolve start pieces) = none := by
  fun_induction walk t start pieces with
  | case1 | case4 | case6 | case7 | case8 => cases hwalk
  | case2 _ _ _ hidle ih =>
    rw [Path.resolve, List.foldl_cons, Path.step, if_pos hidle]
    exact ih (fun hmem => hup (.tail _ hmem)) hwalk
  | case3 _ _ _ _ heq => exact absurd (beq_iff_eq.1 heq ▸ List.mem_cons_self) hup
  | case5 _ _ _ hidle hne _ _ ih =>
    rw [Path.resolve, List.foldl_cons, Path.step, if_neg hidle, if_neg hne]
    exact ih (fun hmem => hup (.tail _ hmem)) hwalk
  | case9 place piece rest hidle hne _ hnone =>
    rw [Path.resolve, List.foldl_cons, Path.step, if_neg hidle, if_neg hne]
    obtain ⟨more, hmore⟩ : ∃ more, Path.resolve (place ++ [piece]) rest =
      place ++ [piece] ++ more :=
      resolve_of_not_up fun hmem => hup (.tail _ hmem)
    rw [Path.resolve] at hmore
    rw [hmore]
    by_contra hthere
    by_cases hempty : more = []
    · rw [hempty, List.append_nil] at hthere
      exact hthere hnone
    · have hdir := h.directory_of_append hempty hthere
      rw [hnone] at hdir
      cases hdir

/-- A path without a text leads to the working directory. -/
theorem goal_of_text_isEmpty (h : p.text.isEmpty = true) : t.goal p = t.working := by
  obtain ⟨begin, pieces⟩ := p
  cases begin with
  | root => simp [Path.text] at h
  | dot =>
    simp only [Path.text] at h
    split at h <;> simp at h
  | working =>
    match pieces, h with
    | [], _ => rfl
    | [piece], h =>
      have hempty : piece = "" := by simpa [Path.text] using h
      rw [hempty]
      rfl
    | _ :: _ :: _, h => simp [Path.text, String.intercalate_cons_cons] at h

/-- At the end of a path that is not found and does not lead up, there is no file. -/
theorem fileAt_goal_of_notFound (h : t.WellFormed) (hup : ".." ∉ p.pieces)
    (hfind : t.find p = .error .notFound) : t.fileAt (t.goal p) = none := by
  rw [find] at hfind
  by_cases hempty : p.text.isEmpty = true
  · rw [goal_of_text_isEmpty hempty, fileAt, h.working]
  · have hwalk : t.walk (if p.start = .root then [] else t.working) p.pieces =
        .error .notFound := by
      simp only [if_neg hempty] at hfind
      split_ifs at hfind ⊢ <;> first | exact hfind | cases hfind
    rw [fileAt, goal, h.get?_resolve_of_notFound hup hwalk]

end

end Scaffold.FileTree
