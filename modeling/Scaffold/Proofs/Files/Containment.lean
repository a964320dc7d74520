import Mathlib.Order.Defs.Unbundled
import Scaffold.Proofs.Files.Resolution
import Scaffold.Proofs.Files.Tree

/-!
# Changes below a directory

`FileTree.ChangesBelow` says that a tree is left as it is but for what stands below a directory, and
for missing directories on the way there. The place that a file operation changes is the one to
which the pieces of its path lead (`walk_eq_resolve`), so operations on the way along a path that is
joined with a name that stays below change nothing else: `changesBelow_makeDirectory`,
`changesBelow_write`.
-/

namespace Scaffold.FileTree

/-! ## Places of paths -/

/-- The place to which a path leads. -/
def Found.place : Found → List String
  | .directory place | .file place _ | .free place _ => place

/-- Where the pieces of a text are followed from. -/
def origin (t : FileTree) (text : String) : List String :=
  if text.toList.head? = some '/' then [] else t.working

/-- The place that a text names. -/
def placeOf (t : FileTree) (text : String) : List String :=
  Path.resolve (t.origin text) (Path.split text.toList)

/-- A tree is left as it is but for what stands below a directory, and for missing directories that
are made on the way there. -/
structure ChangesBelow (dir : String) (t t' : FileTree) : Prop where
  working : t'.working = t.working
  get? : ∀ place, t'.get? place = t.get? place ∨
    (∃ names, names ≠ [] ∧ place = t.placeOf dir ++ names) ∨
    (∃ front, front <+: Path.split dir.toList ∧ place = Path.resolve (t.origin dir) front) ∧
      t.get? place = none ∧ t'.get? place = some .directory

section
variable {t t' t'' : FileTree} {start place pieces : List String} {found : Found} {p : Path}
variable {dir name content : String}

/-- Slashes at the end lead nowhere. -/
theorem resolve_of_all_empty (h : pieces.all (· == "") = true) :
    Path.resolve start pieces = start := by
  refine Path.resolve_of_idle fun piece hpiece => ?_
  rw [Path.isIdle, List.all_eq_true.1 h piece hpiece, Bool.true_or]

/-- Walking along pieces ends at the place to which they lead. -/
theorem walk_eq_resolve (h : t.walk start pieces = .ok found) :
    found.place = Path.resolve start pieces := by
  fun_induction walk t start pieces with
  | case1 =>
    cases h
    rfl
  | case2 _ _ _ hidle ih =>
    rw [Path.resolve, List.foldl_cons, Path.step, if_pos hidle]
    exact ih h
  | case3 _ _ _ hidle hup ih =>
    rw [Path.resolve, List.foldl_cons, Path.step, if_neg hidle, if_pos hup]
    exact ih h
  | case5 _ _ _ hidle hup _ _ ih =>
    rw [Path.resolve, List.foldl_cons, Path.step, if_neg hidle, if_neg hup]
    exact ih h
  | case6 _ _ rest hidle hup _ _ _ hrest =>
    cases h
    rw [Path.resolve, List.foldl_cons, Path.step, if_neg hidle, if_neg hup,
      List.isEmpty_iff.1 hrest]
    rfl
  | case8 _ _ rest hidle hup _ _ hrest =>
    cases h
    rw [Path.resolve, List.foldl_cons, Path.step, if_neg hidle, if_neg hup]
    exact (resolve_of_all_empty hrest).symm
  | case4 | case7 | case9 => cases h

/-- A path leads to the place to which its pieces lead. -/
theorem find_eq_resolve (h : t.find p = .ok found) :
    found.place = Path.resolve (if p.start = .root then [] else t.working) p.pieces :=
  walk_eq_resolve (walk_of_find h)

/-- Trees with the same working directory agree on places. -/
theorem ChangesBelow.origin_eq (h : ChangesBelow dir t t') : t'.origin dir = t.origin dir := by
  rw [origin, origin, h.working]

theorem ChangesBelow.refl (dir : String) (t : FileTree) : ChangesBelow dir t t :=
  ⟨rfl, fun _ => .inl rfl⟩

/-- Changes can be made one after the other. -/
theorem ChangesBelow.trans (h : ChangesBelow dir t t') (h' : ChangesBelow dir t' t'') :
    ChangesBelow dir t t'' := by
  refine ⟨h'.working.trans h.working, fun place => ?_⟩
  have hlater := h'.get? place
  rw [placeOf, h.origin_eq, ← placeOf] at hlater
  rcases h.get? place with hsame | hbelow | ⟨hway, hnone, hdirectory⟩
  · rwa [hsame] at hlater
  · exact .inr (.inl hbelow)
  · rcases hlater with hsame | hbelow | ⟨-, hfree, -⟩
    · exact .inr (.inr ⟨hway, hnone, hsame.trans hdirectory⟩)
    · exact .inr (.inl hbelow)
    -- a directory that was made is no longer free
    · rw [hdirectory] at hfree
      cases hfree

instance : IsPreorder FileTree (ChangesBelow dir) where
  refl := .refl dir
  trans _ _ _ := .trans

/-! ## Operations -/

/-- Where a joined path is followed from. -/
theorem origin_join (h : Path.StaysBelow name)
    (hroot : p.start = .root ↔ (Path.join dir name).start = .root) :
    (if p.start = .root then [] else t.working) = t.origin dir := by
  obtain ⟨_, _, _, _, _, _, _, hjoin⟩ := Path.split_join dir h.relative
  simp only [hroot, hjoin, origin]

/-- Making a directory on the way along a joined path changes nothing that is not below. -/
theorem changesBelow_makeDirectory (h : Path.StaysBelow name)
    (hpieces : p.pieces <+: (Path.join dir name).pieces)
    (hroot : p.start = .root ↔ (Path.join dir name).start = .root)
    (hmake : t.makeDirectory p = .ok t') : ChangesBelow dir t t' := by
  rw [makeDirectory] at hmake
  split at hmake
  · rename_i place slash hfind
    cases hmake
    obtain ⟨hnone, hplace⟩ := walk_eq_free (walk_of_find hfind)
    have hresolve : place = Path.resolve (t.origin dir) p.pieces := by
      rw [← origin_join h hroot]
      exact find_eq_resolve hfind
    refine ⟨rfl, fun other => ?_⟩
    by_cases hother : other = place
    · subst hother
      rcases Path.exists_of_prefix_join (t.origin dir) h hpieces with
        ⟨front, hfront, heq⟩ | ⟨names, hne, heq⟩
      · exact .inr (.inr ⟨⟨front, hfront, hresolve.trans heq⟩, hnone, get?_put_self hplace⟩)
      · exact .inr (.inl ⟨names, hne, hresolve.trans heq⟩)
    · exact .inl (get?_put_of_ne hother)
  · cases hmake
  · cases hmake

/-- Writing to a joined path changes nothing that is not below. -/
theorem changesBelow_write (h : Path.StaysBelow name)
    (hwrite : t.write (Path.join dir name) content = .ok t') : ChangesBelow dir t t' := by
  obtain ⟨found, place, hfind, htarget, rfl⟩ := write_eq_ok_iff.1 hwrite
  have hfound : found.place = place := by
    cases found with
    | directory => cases htarget
    | file => cases htarget; rfl
    | free _ slash => cases slash <;> cases htarget; rfl
  obtain ⟨names, hne, heq⟩ := Path.resolve_join (t.origin dir) dir h
  have hbelow : place = t.placeOf dir ++ names := by
    rw [← hfound, find_eq_resolve hfind, origin_join h Iff.rfl, heq, placeOf]
  refine ⟨rfl, fun other => ?_⟩
  by_cases hother : other = place
  · exact .inr (.inl ⟨names, hne, hother.trans hbelow⟩)
  · exact .inl (get?_put_of_ne hother)

end

end Scaffold.FileTree
