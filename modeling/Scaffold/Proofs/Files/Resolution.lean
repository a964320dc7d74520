import Mathlib.Data.List.Basic
import Scaffold.Files.Path

/-!
# Where paths lead

The pieces of a path are followed one by one: an idle one leads nowhere, two dots lead up, and any
other goes down by its name. `Path.resolve` follows pieces from a place whatever they are, and
`Path.descend?` gives up once they climb above where they started. If they do not, they lead to the
same names below any place (`resolve_append`). A name that `StaysBelow` in this sense can be put
behind any directory: on the way along the joined path, every place is on the way to the directory
or below it (`exists_of_prefix_join`).
-/

namespace Scaffold.Path

/-! ## Pieces -/

/-- The place to which a piece leads. -/
def step (place : List String) (piece : String) : List String :=
  if isIdle piece then place else if piece == ".." then place.dropLast else place ++ [piece]

/-- The place to which pieces lead from another one. -/
def resolve (start pieces : List String) : List String := pieces.foldl step start

/-- The names below a starting place to which pieces lead from some other names below it, unless
they climb above it. -/
def descend? : (names pieces : List String) → Option (List String)
  | names, [] => some names
  | names, piece :: rest =>
    if isIdle piece then descend? names rest
    else if piece == ".." then if names = [] then none else descend? names.dropLast rest
    else descend? (names ++ [piece]) rest

/-- A name of a file that leads below any directory: it does not start at the root, never climbs
above where it starts, and does not lead back to there. -/
structure StaysBelow (name : String) : Prop where
  relative : name.toList.head? ≠ some '/'
  inside : ∃ names, names ≠ [] ∧ descend? [] (split name.toList) = some names

section
variable {start dir names names' pieces front rest : List String}

theorem resolve_append_pieces :
    resolve start (front ++ rest) = resolve (resolve start front) rest :=
  List.foldl_append

/-- Idle pieces lead nowhere. -/
theorem resolve_of_idle (h : ∀ piece ∈ front, isIdle piece = true) :
    resolve start front = start := by
  induction front with
  | nil => rfl
  | cons piece front ih =>
    rw [List.forall_mem_cons] at h
    rw [resolve, List.foldl_cons, step, if_pos h.1]
    exact ih h.2

theorem resolve_idle_append (h : ∀ piece ∈ front, isIdle piece = true) :
    resolve start (front ++ rest) = resolve start rest := by
  rw [resolve_append_pieces, resolve_of_idle h]

theorem resolve_append_idle (h : ∀ piece ∈ rest, isIdle piece = true) :
    resolve start (front ++ rest) = resolve start front := by
  rw [resolve_append_pieces, resolve_of_idle h]

/-- Pieces are followed one after the other. -/
theorem descend?_append :
    descend? names (front ++ rest) =
      (descend? names front).bind fun names => descend? names rest := by
  fun_induction descend? names front with
  | case1 => rfl
  | case2 _ _ _ hidle ih => rw [List.cons_append, descend?, if_pos hidle, ih]
  | case3 _ _ hidle hup => rw [List.cons_append, descend?, if_neg hidle, if_pos hup]; rfl
  | case4 _ _ _ hidle hup hnames ih =>
    rw [List.cons_append, descend?, if_neg hidle, if_pos hup, if_neg hnames, ih]
  | case5 _ _ _ hidle hup ih => rw [List.cons_append, descend?, if_neg hidle, if_neg hup, ih]

/-- Pieces that do not climb above where they start lead to the same names below any place. -/
theorem resolve_append (h : descend? names pieces = some names') :
    resolve (dir ++ names) pieces = dir ++ names' := by
  fun_induction descend? names pieces with
  | case1 =>
    cases h
    rfl
  | case2 _ _ _ hidle ih =>
    rw [resolve, List.foldl_cons, step, if_pos hidle]
    exact ih h
  | case3 => cases h
  | case4 _ _ _ hidle hup hnames ih =>
    rw [resolve, List.foldl_cons, step, if_neg hidle, if_pos hup,
      List.dropLast_append_of_ne_nil hnames]
    exact ih h
  | case5 _ _ _ hidle hup ih =>
    rw [resolve, List.foldl_cons, step, if_neg hidle, if_neg hup, List.append_assoc]
    exact ih h

theorem resolve_of_descend? (dir : List String) (h : descend? [] pieces = some names) :
    resolve dir pieces = dir ++ names := by
  rw [← resolve_append h, List.append_nil]

end

/-! ## Texts -/

section
variable {cs xs ys : List Char} {name : String} {p q : Path}

theorem split_ne_nil : split cs ≠ [] := by
  fun_cases split cs <;> simp_all

/-- A text without a slash is one piece. -/
theorem split_of_not_mem (h : '/' ∉ cs) : split cs = [String.ofList cs] := by
  fun_induction split cs with
  | case1 => rfl
  | case2 => exact absurd List.mem_cons_self h
  | case3 c rest hc piece pieces hsplit ih =>
    rw [hsplit] at ih
    obtain ⟨rfl, rfl⟩ := List.cons.inj (ih fun hmem => h (.tail _ hmem))
    rw [String.toList_ofList]
  | case4 c rest hc hsplit => exact absurd hsplit split_ne_nil

/-- A slash separates the pieces in front of it from those behind it. -/
theorem split_append : split (xs ++ '/' :: ys) = split xs ++ split ys := by
  fun_induction split xs with
  | case1 => rfl
  | case2 rest ih => rw [List.cons_append, split, ih]; rfl
  | case3 c rest hc piece pieces hsplit ih =>
    rw [List.cons_append, split, ih, hsplit]
    · rfl
    · exact hc
  | case4 c rest hc hsplit => exact absurd hsplit split_ne_nil

/-- The pieces of a path are those of its text but for idle ones in front, and it starts at the root
if its text begins with a slash. -/
theorem split_eq_of_ofText (s : String) : ∃ lead, (∀ piece ∈ lead, isIdle piece = true) ∧
    split s.toList = lead ++ (ofText s).pieces ∧
    ((ofText s).start = .root ↔ s.toList.head? = some '/') := by
  rw [ofText]
  split
  · rename_i rest h
    exact ⟨[""], by decide, by rw [h]; rfl, by simp [h]⟩
  · rename_i h
    exact ⟨["."], by decide, by rw [h]; rfl, by simp [h]⟩
  · rename_i rest h
    refine ⟨["."], by decide, ?_, by simp [h]⟩
    rw [h]
    exact (split_append : split (['.'] ++ '/' :: rest) = _)
  · rename_i hroot _ _
    refine ⟨[], by decide, rfl, ⟨nofun, fun h => ?_⟩⟩
    obtain ⟨rest, hrest⟩ := List.head?_eq_some_iff.1 h
    exact absurd hrest (hroot rest)

/-- The pieces of a joined path are those of the directory, but for an idle one at the end, and
those of the name; idle ones in front may be missing. It starts where the directory does. -/
theorem split_join (dir : String) (h : name.toList.head? ≠ some '/') : ∃ lead base tail,
    (∀ piece ∈ lead, isIdle piece = true) ∧ (∀ piece ∈ tail, isIdle piece = true) ∧
    split dir.toList = base ++ tail ∧ base ++ split name.toList = lead ++ (join dir name).pieces ∧
    ((join dir name).start = .root ↔ dir.toList.head? = some '/') := by
  rw [join, if_neg (by simpa using h)]
  by_cases hempty : dir.toList = []
  · obtain ⟨lead, hlead, hsplit, hroot⟩ := split_eq_of_ofText (dir ++ name)
    rw [if_pos (by simp [hempty])]
    rw [String.toList_append, hempty, List.nil_append] at hsplit hroot
    refine ⟨lead, [], [""], hlead, by decide, by rw [hempty]; rfl, hsplit, ?_⟩
    rw [hroot, hempty]
    exact ⟨fun hname => absurd hname h, nofun⟩
  · have hhead (xs : List Char) : (dir.toList ++ xs).head? = dir.toList.head? :=
      List.head?_append_of_ne_nil _ hempty
    by_cases hslash : dir.toList.getLast? = some '/'
    · obtain ⟨front, hfront⟩ := List.getLast?_eq_some_iff.1 hslash
      obtain ⟨lead, hlead, hsplit, hroot⟩ := split_eq_of_ofText (dir ++ name)
      rw [if_pos (by simp [hslash])]
      rw [String.toList_append] at hsplit hroot
      refine ⟨lead, split front, [""], hlead, by decide, by rw [hfront, split_append]; rfl, ?_, ?_⟩
      · rw [← hsplit, hfront, List.append_assoc]
        exact split_append.symm
      · rw [hroot, hhead]
    · obtain ⟨lead, hlead, hsplit, hroot⟩ := split_eq_of_ofText (dir ++ "/" ++ name)
      rw [if_neg (by simp [hempty, hslash])]
      rw [String.toList_append, String.toList_append, List.append_assoc] at hsplit hroot
      refine ⟨lead, split dir.toList, [], hlead, by decide, (List.append_nil _).symm, ?_, ?_⟩
      · rw [← hsplit]
        exact split_append.symm
      · rw [hroot, hhead]

/-- The path without its last step leads along the same pieces. -/
theorem parent?_prefix (h : p.parent? = some q) :
    q.pieces <+: p.pieces ∧ (q.start = .root ↔ p.start = .root) := by
  have htrim (pieces : List String) : trimPieces pieces <+: pieces := by
    rw [trimPieces, ← List.reverse_suffix, List.reverse_reverse]
    exact List.dropWhile_suffix _
  rw [parent?] at h
  split at h
  · split at h
    · rename_i hdot
      cases h
      exact ⟨List.nil_prefix, by simp [hdot]⟩
    · cases h
  · cases h
    exact ⟨(htrim _).trans ((List.dropLast_prefix _).trans (htrim _)), Iff.rfl⟩

end

/-! ## Joined paths -/

section
variable {pieces : List String} {dir name : String}

/-- Names behind a directory lead below it. -/
theorem resolve_join_eq (start : List String) (dir : String)
    (hrelative : name.toList.head? ≠ some '/') {names : List String}
    (hnames : descend? [] (split name.toList) = some names) :
    resolve start (join dir name).pieces = resolve start (split dir.toList) ++ names := by
  obtain ⟨lead, base, tail, hlead, htail, hdir, hjoin, -⟩ := split_join dir hrelative
  calc resolve start (join dir name).pieces
      = resolve start (base ++ split name.toList) := by rw [hjoin, resolve_idle_append hlead]
    _ = resolve start base ++ names := by rw [resolve_append_pieces, resolve_of_descend? _ hnames]
    _ = resolve start (split dir.toList) ++ names := by rw [hdir, resolve_append_idle htail]

/-- A name that stays below leads below any directory that it is put behind. -/
theorem resolve_join (start : List String) (dir : String) (h : StaysBelow name) :
    ∃ names, names ≠ [] ∧
    resolve start (join dir name).pieces = resolve start (split dir.toList) ++ names := by
  obtain ⟨names, hne, hnames⟩ := h.inside
  exact ⟨names, hne, resolve_join_eq start dir h.relative hnames⟩

/-- A joined path leads up only where the directory or the name does. -/
theorem up_not_mem_join (hdir : ".." ∉ split dir.toList) (hname : ".." ∉ split name.toList) :
    ".." ∉ (join dir name).pieces := by
  intro hup
  by_cases hrelative : name.toList.head? = some '/'
  · rw [join, if_pos (by simp [hrelative])] at hup
    obtain ⟨lead, -, hsplit, -⟩ := split_eq_of_ofText name
    exact hname (hsplit ▸ List.mem_append_right lead hup)
  · obtain ⟨lead, base, tail, -, -, hbase, hjoin, -⟩ := split_join dir hrelative
    have hmem : ".." ∈ base ++ split name.toList := hjoin ▸ List.mem_append_right lead hup
    rcases List.mem_append.1 hmem with hmem | hmem
    · exact hdir (hbase ▸ List.mem_append_left tail hmem)
    · exact hname hmem

/-- Along a path that is joined with a name that stays below, every place is on the way to the
directory or below it. -/
theorem exists_of_prefix_join (start : List String) (h : StaysBelow name)
    (hpieces : pieces <+: (join dir name).pieces) :
    (∃ front, front <+: split dir.toList ∧ resolve start pieces = resolve start front) ∨
    ∃ names, names ≠ [] ∧ resolve start pieces = resolve start (split dir.toList) ++ names := by
  obtain ⟨lead, base, tail, hlead, htail, hdir, hjoin, -⟩ := split_join dir h.relative
  obtain ⟨names, -, hnames⟩ := h.inside
  obtain ⟨rest, hrest⟩ := (List.prefix_append_right_inj lead).2 hpieces
  rw [← hjoin] at hrest
  rcases List.append_eq_append_iff.1 hrest with ⟨more, hfront, -⟩ | ⟨behind, hbehind, hname⟩
  -- the pieces end in the directory
  · refine .inl ⟨lead ++ pieces, ⟨more ++ tail, ?_⟩, (resolve_idle_append hlead).symm⟩
    rw [hdir, hfront, List.append_assoc (lead ++ pieces)]
  -- they end in the name
  · rw [hname, descend?_append] at hnames
    obtain ⟨names', hnames', -⟩ := Option.bind_eq_some_iff.1 hnames
    have hplace : resolve start pieces = resolve start (split dir.toList) ++ names' :=
      calc resolve start pieces
          = resolve start (base ++ behind) := by rw [← hbehind, resolve_idle_append hlead]
        _ = resolve start base ++ names' := by
          rw [resolve_append_pieces, resolve_of_descend? _ hnames']
        _ = resolve start (split dir.toList) ++ names' := by rw [hdir, resolve_append_idle htail]
    by_cases hempty : names' = []
    · refine .inl ⟨split dir.toList, List.prefix_refl _, ?_⟩
      rw [hplace, hempty, List.append_nil]
    · exact .inr ⟨names', hempty, hplace⟩

end

end Scaffold.Path
