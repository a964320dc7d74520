import Mathlib.Data.List.Basic
import Mathlib.Order.Defs.Unbundled
import Scaffold.Files.Tree

/-!
# What file operations change

A file tree is seen through `FileTree.fileAt`, the content of the file at every place. Making a
directory adds one at a place that was not in use (`makeDirectory_addsDirectories`), so all files
stay as they are; but a path on which a directory was missing can lead to any place afterwards
(`find_of_addsDirectories`). Writing a file changes the place to which the path leads, and the path
still leads there (`find_put`).
-/

namespace Scaffold.FileTree

/-! ## Places -/

section
variable {t t' t'' : FileTree} {place other : List String} {e : Entry}

/-- What was put stands at its place. -/
theorem get?_put_self (h : place ≠ []) : (t.put place e).get? place = some e := by
  rw [get?, if_neg (by simpa using h), put, List.lookup_cons_self]

/-- The other places stay as they are. -/
theorem get?_put_of_ne (h : other ≠ place) : (t.put place e).get? other = t.get? other := by
  have hlookup (l : List (List String × Entry)) :
      (l.filter (·.1 != place)).lookup other = l.lookup other := by
    induction l with
    | nil => rfl
    | cons q l ih =>
      obtain ⟨p, a⟩ := q
      by_cases hp : p = place
      · subst hp
        rw [List.filter_cons_of_neg (by simp), ih, List.lookup_cons, beq_false_of_ne h]
      · rw [List.filter_cons_of_pos (by simpa using hp), List.lookup_cons, List.lookup_cons, ih]
  rw [get?, get?, put, List.lookup_cons, beq_false_of_ne h, hlookup]

/-- The content of the file at a place. -/
def fileAt (t : FileTree) (place : List String) : Option Content :=
  match t.get? place with
  | some (.file content) => some content
  | _ => none

/-- There are the same files with the same contents. -/
def SameFiles (t t' : FileTree) : Prop := ∀ place, t'.fileAt place = t.fileAt place

/-- A tree with more directories, at places that were not in use. -/
structure AddsDirectories (t t' : FileTree) : Prop where
  working : t'.working = t.working
  get? : ∀ place, t'.get? place = t.get? place ∨
    t.get? place = none ∧ t'.get? place = some .directory

theorem AddsDirectories.refl (t : FileTree) : AddsDirectories t t := ⟨rfl, fun _ => .inl rfl⟩

/-- Directories can be added one after the other. -/
theorem AddsDirectories.trans (h : AddsDirectories t t') (h' : AddsDirectories t' t'') :
    AddsDirectories t t'' := by
  refine ⟨h'.working.trans h.working, fun place => ?_⟩
  rcases h.get? place with heq | ⟨hnone, hdir⟩
  · rw [← heq]
    exact h'.get? place
  · rcases h'.get? place with heq | ⟨hnone', -⟩
    · exact .inr ⟨hnone, heq.trans hdir⟩
    · rw [hdir] at hnone'
      cases hnone'

instance : IsPreorder FileTree AddsDirectories where
  refl := .refl
  trans _ _ _ := .trans

/-- Directories change no files. -/
theorem AddsDirectories.sameFiles (h : AddsDirectories t t') : SameFiles t t' := by
  intro place
  rw [fileAt, fileAt]
  rcases h.get? place with heq | ⟨hnone, hdir⟩
  · rw [heq]
  · rw [hnone, hdir]

end

/-! ## Ways -/

/-- The place to which a file is written. -/
def Found.target? : Found → Option (List String)
  | .file place _ | .free place false => some place
  | .directory _ | .free _ true => none

section
variable {t : FileTree} {start rest : List String} {piece : String} {content : Content}

/-- An idle piece leads nowhere, -/
theorem walk_of_isIdle (hidle : Path.isIdle piece = true) :
    t.walk start (piece :: rest) = t.walk start rest := by
  rw [walk, if_pos hidle]

/-- and two dots lead up. -/
theorem walk_of_up (hidle : ¬Path.isIdle piece = true) (hup : (piece == "..") = true) :
    t.walk start (piece :: rest) = t.walk start.dropLast rest := by
  rw [walk, if_neg hidle, if_pos hup]

section
variable (hidle : ¬Path.isIdle piece = true) (hup : ¬(piece == "..") = true)
  (hlong : ¬maxName < piece.utf8ByteSize)
include hidle hup hlong

/-- A name leads into a directory, -/
theorem walk_of_directory (hget : t.get? (start ++ [piece]) = some .directory) :
    t.walk start (piece :: rest) = t.walk (start ++ [piece]) rest := by
  rw [walk, if_neg hidle, if_neg hup, if_neg hlong, hget]

/-- at the end of the way to a file -/
theorem walk_of_file (hget : t.get? (start ++ [piece]) = some (.file content))
    (hrest : rest.isEmpty = true) :
    t.walk start (piece :: rest) = .ok (.file (start ++ [piece]) content) := by
  rw [walk, if_neg hidle, if_neg hup, if_neg hlong, hget]
  simp only [if_pos hrest]

/-- or, slashes apart, to a free place, -/
theorem walk_of_free (hget : t.get? (start ++ [piece]) = none) (hrest : rest.all (· == "") = true) :
    t.walk start (piece :: rest) = .ok (.free (start ++ [piece]) (!rest.isEmpty)) := by
  rw [walk, if_neg hidle, if_neg hup, if_neg hlong, hget]
  simp only [if_pos hrest]

/-- and before that it does not lead on where nothing stands. -/
theorem walk_of_missing (hget : t.get? (start ++ [piece]) = none)
    (hrest : ¬rest.all (· == "") = true) : t.walk start (piece :: rest) = .error .notFound := by
  rw [walk, if_neg hidle, if_neg hup, if_neg hlong, hget]
  simp only [if_neg hrest]

end

end

section
variable {t t' : FileTree} {start place : List String} {pieces : List String} {p : Path}
  {content : Content} {slash : Bool} {found found' : Found} {s : String}

/-- A way to a free place ends where nothing stands. -/
theorem walk_eq_free (h : t.walk start pieces = .ok (.free place slash)) :
    t.get? place = none ∧ place ≠ [] := by
  fun_induction walk t start pieces with
  | case1 | case4 | case6 | case7 | case9 => cases h
  | case2 _ _ _ _ ih | case3 _ _ _ _ _ ih | case5 _ _ _ _ _ _ _ ih => exact ih h
  | case8 _ _ _ _ _ _ hnone =>
    cases h
    exact ⟨hnone, by simp⟩

/-- A way to a file ends where it stands. -/
theorem walk_eq_file (h : t.walk start pieces = .ok (.file place content)) :
    t.get? place = some (.file content) ∧ place ≠ [] := by
  fun_induction walk t start pieces with
  | case1 | case4 | case7 | case8 | case9 => cases h
  | case2 _ _ _ _ ih | case3 _ _ _ _ _ ih | case5 _ _ _ _ _ _ _ ih => exact ih h
  | case6 _ _ _ _ _ _ _ hfile =>
    cases h
    exact ⟨hfile, by simp⟩

/-- A place to which a file is written is no directory. -/
theorem get?_target (h : t.walk start pieces = .ok found) (hplace : found.target? = some place) :
    t.get? place ≠ some .directory ∧ place ≠ [] := by
  cases found with
  | directory => cases hplace
  | file =>
    cases hplace
    have := walk_eq_file h
    exact ⟨by simp [this.1], this.2⟩
  | free _ slash =>
    cases slash <;> cases hplace
    have := walk_eq_free h
    exact ⟨by simp [this.1], this.2⟩

/-- The way to a place where a file was written leads to that file. -/
theorem walk_put (h : t.walk start pieces = .ok found) (hplace : found.target? = some place) :
    (t.put place (.file content)).walk start pieces = .ok (.file place content) := by
  obtain ⟨hdir, hroot⟩ := get?_target h hplace
  fun_induction walk t start pieces with
  | case1 => cases h; cases hplace
  | case4 | case7 | case9 => cases h
  | case2 _ _ _ hidle ih =>
    rw [walk_of_isIdle hidle]
    exact ih h
  | case3 _ _ _ hidle hup ih =>
    rw [walk_of_up hidle hup]
    exact ih h
  | case5 place' piece rest hidle hup hlong hget ih =>
    -- the way goes through directories, so what was written does not stand in it
    have hne : place' ++ [piece] ≠ place := fun heq => hdir (heq ▸ hget)
    rw [walk_of_directory hidle hup hlong ((get?_put_of_ne hne).trans hget)]
    exact ih h
  | case6 _ _ _ hidle hup hlong _ _ hrest =>
    cases h
    cases hplace
    exact walk_of_file hidle hup hlong (get?_put_self hroot) hrest
  | case8 _ _ rest hidle hup hlong _ _ =>
    cases h
    cases rest with
    | nil =>
      cases hplace
      exact walk_of_file hidle hup hlong (get?_put_self hroot) rfl
    | cons => cases hplace

/-- Slashes at the end of a way to a directory lead nowhere. -/
theorem walk_of_all_empty (h : pieces.all (· == "") = true) :
    t.walk start pieces = .ok (.directory start) := by
  induction pieces with
  | nil => rfl
  | cons piece rest ih =>
    rw [List.all_cons, Bool.and_eq_true] at h
    rw [walk_of_isIdle (by simp [Path.isIdle, beq_iff_eq.1 h.1]), ih h.2]

/-- A way that leads to a place once directories have been added either led to it before, or a
directory was missing on it. -/
theorem walk_of_addsDirectories (hadds : AddsDirectories t t')
    (h : t'.walk start pieces = .ok found) (hplace : found.target? = some place) :
    t.walk start pieces = .error .notFound ∨
    ∃ found, t.walk start pieces = .ok found ∧
      (found = .free place false ∨ ∃ content, found = .file place content) := by
  fun_induction walk t' start pieces with
  | case1 => cases h; cases hplace
  | case4 | case7 | case9 => cases h
  | case2 _ _ _ hidle ih =>
    rw [walk_of_isIdle hidle]
    exact ih h
  | case3 _ _ _ hidle hup ih =>
    rw [walk_of_up hidle hup]
    exact ih h
  | case5 place' piece rest hidle hup hlong hget ih =>
    rcases hadds.get? (place' ++ [piece]) with heq | ⟨hnone, -⟩
    · rw [walk_of_directory hidle hup hlong (heq.symm.trans hget)]
      exact ih h
    · by_cases hrest : rest.all (· == "") = true
      · rw [walk_of_all_empty hrest] at h
        cases h
        cases hplace
      · exact .inl (walk_of_missing hidle hup hlong hnone hrest)
  | case6 place' piece rest hidle hup hlong content hget hrest =>
    cases h
    cases hplace
    rcases hadds.get? (place' ++ [piece]) with heq | ⟨-, hdir⟩
    · exact .inr ⟨_, walk_of_file hidle hup hlong (heq.symm.trans hget) hrest, .inr ⟨content, rfl⟩⟩
    · rw [hdir] at hget
      cases hget
  | case8 place' piece rest hidle hup hlong hget hrest =>
    cases h
    rcases hadds.get? (place' ++ [piece]) with heq | ⟨-, hdir⟩
    · have hold := walk_of_free hidle hup hlong (heq.symm.trans hget) hrest
      cases rest with
      | nil => cases hplace; exact .inr ⟨_, hold, .inl rfl⟩
      | cons => cases hplace
    · rw [hdir] at hget
      cases hget

/-- Finding a path is walking along its pieces. -/
theorem walk_of_find (h : t.find p = .ok found) :
    t.walk (if p.start = .root then [] else t.working) p.pieces = .ok found := by
  rw [find] at h
  split_ifs at h <;> first | exact h | simp_all

/-- There is no file where a path leads to a free place. -/
theorem fileAt_of_find_free (h : t.find p = .ok (.free place slash)) : t.fileAt place = none := by
  rw [fileAt, (walk_eq_free (walk_of_find h)).1]

/-- A path that is found in one tree is walked along in another one with the same working
directory. -/
theorem find_eq_walk (h : t.find p = .ok found) (hworking : t'.working = t.working) :
    t'.find p = t'.walk (if p.start = .root then [] else t.working) p.pieces := by
  rw [find] at h ⊢
  rw [hworking]
  split_ifs at h ⊢ <;> simp_all

/-- A path that leads to a place once directories have been added either led to it before, or a
directory was missing on it. -/
theorem find_of_addsDirectories (hadds : AddsDirectories t t') (h : t'.find p = .ok found)
    (hplace : found.target? = some place) :
    t.find p = .error .notFound ∨ t.find p = .ok (.free place false) ∨ t.isThere p = true := by
  have hwalk := walk_of_find h
  rw [hadds.working] at hwalk
  have hfind := find_eq_walk h hadds.working.symm
  rw [hadds.working] at hfind
  rcases walk_of_addsDirectories hadds hwalk hplace with herror | ⟨found, hok, rfl | ⟨content, rfl⟩⟩
  · exact .inl (hfind.trans herror)
  · exact .inr (.inl (hfind.trans hok))
  · exact .inr (.inr (by rw [isThere, hfind, hok]))

/-! ## Operations -/

/-- A directory is made at a place that was not in use. -/
theorem makeDirectory_addsDirectories (h : t.makeDirectory p = .ok t') : AddsDirectories t t' := by
  rw [makeDirectory] at h
  split at h
  · rename_i place slash hfind
    cases h
    obtain ⟨hnone, hroot⟩ := walk_eq_free (walk_of_find hfind)
    refine ⟨rfl, fun other => ?_⟩
    by_cases hother : other = place
    · subst hother
      exact .inr ⟨hnone, get?_put_self hroot⟩
    · exact .inl (get?_put_of_ne hother)
  · cases h
  · cases h

/-- A file is written to the place to which its path leads. -/
theorem write_eq_ok_iff : t.write p s = .ok t' ↔ ∃ found place, t.find p = .ok found ∧
    found.target? = some place ∧ t' = t.put place (.file (.text s)) := by
  rw [write]
  constructor
  · intro h
    split at h
    · rename_i place _ hfind
      cases h
      exact ⟨_, place, hfind, rfl, rfl⟩
    · rename_i place hfind
      cases h
      exact ⟨_, place, hfind, rfl, rfl⟩
    · cases h
    · cases h
  · rintro ⟨found, place, hfind, hplace, rfl⟩
    rw [hfind]
    cases found with
    | directory => cases hplace
    | file => cases hplace; rfl
    | free _ slash => cases slash <;> cases hplace; rfl

/-- The path of a file that was written leads to it, and nothing else has changed. -/
theorem find_put (h : t.find p = .ok found) (hplace : found.target? = some place)
    (content : Content) :
    (t.put place (.file content)).find p = .ok (.file place content) ∧
    ∀ other, (t.put place (.file content)).fileAt other =
      if other = place then some content else t.fileAt other := by
  have hwalk := walk_of_find h
  have hroot := (get?_target hwalk hplace).2
  have hfind : (t.put place (.file content)).find p = _ := find_eq_walk h rfl
  refine ⟨hfind.trans (walk_put hwalk hplace), fun other => ?_⟩
  by_cases hother : other = place
  · rw [if_pos hother, fileAt, hother, get?_put_self hroot]
  · rw [if_neg hother, fileAt, get?_put_of_ne hother, fileAt]

end

end Scaffold.FileTree
