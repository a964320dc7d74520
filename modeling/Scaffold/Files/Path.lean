/-!
# Paths of files

A path is where it starts and the pieces that slashes separate, of which some may be empty. It
keeps its spelling: `Path.text` gives back the text that `Path.ofText` was given.
-/

namespace Scaffold

/-- Where a path starts. -/
inductive Path.Start where
  | root
  /-- In the working directory, with a dot in front. -/
  | dot
  | working
  deriving DecidableEq, Repr

/-- A path as it is spelled. -/
structure Path where
  start : Path.Start
  pieces : List String
  deriving DecidableEq, Repr

namespace Path

/-- The pieces of a text between its slashes. -/
def split : List Char → List String
  | [] => [""]
  | '/' :: rest => "" :: split rest
  | c :: rest =>
    match split rest with
    | piece :: pieces => String.ofList (c :: piece.toList) :: pieces
    | [] => [String.ofList [c]]

/-- The path that a text spells. -/
def ofText (s : String) : Path :=
  match s.toList with
  | '/' :: rest => ⟨.root, split rest⟩
  | ['.'] => ⟨.dot, []⟩
  | '.' :: '/' :: rest => ⟨.dot, split rest⟩
  | cs => ⟨.working, split cs⟩

/-- The spelling of a path. -/
def text (p : Path) : String :=
  let joined := "/".intercalate p.pieces
  match p.start with
  | .root => "/" ++ joined
  | .dot => if p.pieces.isEmpty then "." else "./" ++ joined
  | .working => joined

/-- The path of a file in a directory; one that starts at the root is taken as it is. -/
def join (dir name : String) : Path :=
  let directory := dir.toList
  ofText <|
    if name.toList.head? == some '/' then name
    else if directory.isEmpty || directory.getLast? == some '/' then dir ++ name
    else dir ++ "/" ++ name

/-- Whether a piece leads nowhere. -/
def isIdle (piece : String) : Bool := piece == "" || piece == "."

/-- The pieces without those at the end that lead nowhere. -/
def trimPieces (pieces : List String) : List String := (pieces.reverse.dropWhile isIdle).reverse

/-- The path without its last step. -/
def parent? (p : Path) : Option Path :=
  match trimPieces p.pieces with
  | [] => if p.start = .dot then some ⟨.working, []⟩ else none
  | pieces => some ⟨p.start, trimPieces pieces.dropLast⟩

/-- A measure that grows with the number of steps of a path. -/
def depth (p : Path) : Nat := p.pieces.length + if p.start = .dot then 1 else 0

theorem length_trimPieces_le (pieces : List String) :
    (trimPieces pieces).length ≤ pieces.length := by
  have := (List.dropWhile_suffix (l := pieces.reverse) isIdle).length_le
  simpa [trimPieces] using this

theorem depth_parent? {p q : Path} (h : p.parent? = some q) : q.depth < p.depth := by
  unfold parent? at h
  have hp := length_trimPieces_le p.pieces
  split at h
  · split at h
    · rename_i hs
      cases h
      simp [depth, hs]
    · cases h
  · rename_i hne
    cases h
    have hq := length_trimPieces_le (trimPieces p.pieces).dropLast
    have : (trimPieces p.pieces).length ≠ 0 := fun h => hne (List.length_eq_zero_iff.1 h)
    simp only [List.length_dropLast] at hq
    simp only [depth]
    omega

end Path

end Scaffold
