import Scaffold.Proofs.TypeScript.Comment
import Scaffold.TypeScript.Identifier
import Scaffold.TypeScript.Projection

/-!
# Object types

An object type and the body of an interface are members between braces, with white space and
comments between them. `readMember?` reads the beginning of a member, up to its type, and
`readObject?` the names and marks of all members, skipping their types. The main statements are
`readMember?_eq_some_iff`: a member begins with a name in the form of an identifier, written bare;
and `readObject?_objectType`: if the types of the members can be skipped, an object type is read as
its members, in order.
-/

namespace Scaffold.TypeScript

/-! ## The beginning of a member -/

/-- Reads the mark of a member that may be left out, the colon and a blank. -/
def readMark? : List Char → Option (Bool × List Char)
  | '?' :: ':' :: ' ' :: rest => some (false, rest)
  | ':' :: ' ' :: rest => some (true, rest)
  | _ => none

/-- Reads the beginning of a member, up to its type: a bare name, and whether the member is
required. -/
def readMember? (cs : List Char) : Option ((String × Bool) × List Char) :=
  if isIdentifierShape (String.ofList (cs.takeWhile isIdentifierPart)) then
    (readMark? (cs.dropWhile isIdentifierPart)).map fun p =>
      ((String.ofList (cs.takeWhile isIdentifierPart), p.1), p.2)
  else none

section
variable {name type : String} {required : Bool} {cs rest : List Char}

/-- A text in the form of an identifier has a first character that may begin one, and other parts
behind it. -/
theorem isIdentifierShape_iff {s : String} : isIdentifierShape s = true ↔
    ∃ c cs, s.toList = c :: cs ∧ isIdentifierStart c = true ∧
      ∀ d ∈ s.toList, isIdentifierPart d = true := by
  have hpart (c : Char) (h : isIdentifierStart c = true) : isIdentifierPart c = true := by
    simp only [isIdentifierStart, isIdentifierPart, Char.isAlphanum, Bool.or_eq_true] at h ⊢
    tauto
  rw [isIdentifierShape]
  cases hs : s.toList with
  | nil => simp
  | cons c cs =>
    simp only [Bool.and_eq_true, List.all_eq_true, List.cons.injEq, List.mem_cons]
    constructor
    · rintro ⟨hstart, hparts⟩
      refine ⟨c, cs, ⟨rfl, rfl⟩, hstart, ?_⟩
      rintro d (rfl | hd)
      · exact hpart d hstart
      · exact hparts d hd
    · rintro ⟨c, cs, ⟨rfl, rfl⟩, hstart, hparts⟩
      exact ⟨hstart, fun d hd => hparts d (.inr hd)⟩

/-- What a mark is read from. -/
theorem readMark?_eq_some_iff :
    readMark? cs = some (required, rest) ↔
      cs = (if required then [] else ['?']) ++ ':' :: ' ' :: rest := by
  constructor
  · intro h
    unfold readMark? at h
    split at h <;> cases h <;> rfl
  · rintro rfl
    cases required <;> rfl

/-- What is read as the beginning of a member is one, and its name has the form of an identifier. -/
theorem readMember?_eq_some_iff : readMember? cs = some ((name, required), rest) ↔
    isIdentifierShape name = true ∧ cs = (member name required "").toList ++ rest := by
  have htext : (member name required "").toList =
      name.toList ++ (if required then [] else ['?']) ++ [':', ' '] := by
    cases required <;> simp [member]
  rw [htext, readMember?]
  constructor
  · intro h
    split at h
    · rename_i hshape
      obtain ⟨⟨required', rest'⟩, hmark, heq⟩ := Option.map_eq_some_iff.1 h
      cases heq
      rw [readMark?_eq_some_iff] at hmark
      refine ⟨hshape, ?_⟩
      rw [String.toList_ofList]
      conv_lhs => rw [← List.takeWhile_append_dropWhile (p := isIdentifierPart) (l := cs), hmark]
      simp only [List.append_assoc, List.cons_append, List.nil_append]
    · cases h
  · rintro ⟨hshape, rfl⟩
    obtain ⟨-, -, -, -, hparts⟩ := isIdentifierShape_iff.1 hshape
    simp only [List.append_assoc]
    have hmark :
        ((if required then [] else ['?']) ++ ([':', ' '] ++ rest)).takeWhile isIdentifierPart = [] ∧
        ((if required then [] else ['?']) ++ ([':', ' '] ++ rest)).dropWhile isIdentifierPart =
          (if required then [] else ['?']) ++ ([':', ' '] ++ rest) := by
            cases required <;> exact ⟨rfl, rfl⟩
    have hread : readMark? ((if required then [] else ['?']) ++ ([':', ' '] ++ rest)) =
        some (required, rest) :=
      readMark?_eq_some_iff.2 rfl
    rw [List.takeWhile_append_of_pos hparts, List.dropWhile_append_of_pos hparts, hmark.1, hmark.2,
      List.append_nil, String.ofList_toList, if_pos hshape, hread, Option.map_some]

/-- A member is its beginning and its type. -/
theorem member_eq : member name required type = member name required "" ++ type := by
  simp only [member, String.append_assoc, String.append_empty]

/-- A member begins as one exactly if its name has the form of an identifier. -/
theorem readMember?_member_iff : readMember? ((member name required type).toList ++ rest) =
    some ((name, required), type.toList ++ rest) ↔ isIdentifierShape name = true := by
  rw [readMember?_eq_some_iff, member_eq, String.toList_append, List.append_assoc]
  exact and_iff_left rfl

end

/-! ## Types between members -/

/-- The depth of braces behind a character; none behind one that ends a type. -/
def depth? : Nat → Char → Option Nat
  | 0, ';' => none
  | 0, '\x7d' => none
  | n + 1, '\x7d' => some n
  | n, '\x7b' => some (n + 1)
  | n, _ => some n

/-- The braces of a text match, and all its semicolons stand between them. -/
def Enclosed (s : String) : Prop := s.toList.foldlM depth? 0 = some 0

instance (s : String) : Decidable (Enclosed s) := inferInstanceAs (Decidable (_ = _))

/-- Skips a type, up to the semicolon or the brace behind it. -/
def skipType : Nat → List Char → List Char
  | _, [] => []
  | n, c :: cs =>
    match depth? n c with
    | some m => skipType m cs
    | none => c :: cs

section
variable {cs rest : List Char} {s t : String} {m n : Nat}

theorem skipType_suffix (n : Nat) (cs : List Char) : skipType n cs <:+ cs := by
  fun_induction skipType n cs with
  | case1 => exact List.suffix_refl _
  | case2 n c cs m _ ih => exact ih.trans (List.suffix_cons c cs)
  | case3 => exact List.suffix_refl _

/-- A text that leads from one depth to another is skipped. -/
theorem skipType_append (h : cs.foldlM depth? n = some m) (rest : List Char) :
    skipType n (cs ++ rest) = skipType m rest := by
  induction cs generalizing n with
  | nil =>
    cases h
    rfl
  | cons c cs ih =>
    rw [List.foldlM_cons, Option.bind_eq_bind, Option.bind_eq_some_iff] at h
    obtain ⟨d, hd, h⟩ := h
    rw [List.cons_append, skipType, hd]
    exact ih h

theorem Enclosed.append (hs : Enclosed s) (ht : Enclosed t) : Enclosed (s ++ t) := by
  rw [Enclosed, String.toList_append, List.foldlM_append, hs]
  exact ht

/-- The types of the catalog stay enclosed in generated code. -/
theorem Enclosed.orUndefined (hs : Enclosed s) (required : Bool) :
    Enclosed (orUndefined required s) := by
  cases required
  · exact hs.append (by decide)
  · exact hs

theorem enclosed_qualify_domain (d : DomainType) (namespaced : Bool) :
    Enclosed (qualify (Registry.name d) namespaced) := by cases d <;> cases namespaced <;> decide

theorem enclosed_qualify_enum (e : EnumType) (namespaced : Bool) :
    Enclosed (qualify (Registry.name e) namespaced) := by cases e; cases namespaced <;> decide

theorem enclosed_projectType {e : TypeExpr} (h : Enclosed e.text) (namespaced : Bool) :
    Enclosed (projectType namespaced e) := by
  cases e with
  | domain d => exact enclosed_qualify_domain d namespaced
  | array e style =>
    cases e with
    | domain d => exact (enclosed_qualify_domain d namespaced).append (by decide)
    | scalar | enum | named | array | inline => exact h
  | scalar | enum | named | inline => exact h

theorem enclosed_fieldType {e : TypeExpr} (h : Enclosed e.text) (namespaced required : Bool) :
    Enclosed (fieldType namespaced required e) := by
  by_cases henum : ∃ t style, e = .array (.enum t) style
  · obtain ⟨t, style, rfl⟩ := henum
    exact ((enclosed_qualify_enum t namespaced).append (by decide)).orUndefined required
  · rw [fieldType]
    · exact (enclosed_projectType h namespaced).orUndefined required
    · exact fun t style he => henum ⟨t, style, he⟩

theorem enclosed_paramType (p : Param) : Enclosed (paramType p) := by
  have hkind : Enclosed (Registry.name p.kind) := by cases p.kind <;> decide
  exact hkind.orUndefined p.required

end

/-! ## Gaps between members -/

/-- The white space of generated code. -/
def isGap (c : Char) : Bool := c == ' ' || c == '\n'

/-- Skips white space and a comment. -/
def skipGap (cs : List Char) : List Char :=
  match readComment? (cs.dropWhile isGap) with
  | some (_, rest) => rest.dropWhile isGap
  | none => cs.dropWhile isGap

/-- A text that begins neither with white space nor with a comment. -/
def Opens (cs : List Char) : Prop := ∃ c rest, cs = c :: rest ∧ isGap c = false ∧ c ≠ '/'

section
variable {cs rest : List Char} {c : Char}

theorem closeComment?_suffix {text : List Char} (h : closeComment? cs = some (text, rest)) :
    rest <:+ cs := by
  fun_induction closeComment? cs generalizing text with
  | case1 tail =>
    cases h
    exact (List.suffix_cons '/' _).trans (List.suffix_cons '*' _)
  | case2 c tail _ ih =>
    obtain ⟨⟨text', rest'⟩, hread, heq⟩ := Option.map_eq_some_iff.1 h
    cases heq
    exact (ih hread).trans (List.suffix_cons c tail)
  | case3 => cases h

theorem skipGap_suffix (cs : List Char) : skipGap cs <:+ cs := by
  have hblank := List.dropWhile_suffix isGap (l := cs)
  rw [skipGap]
  split
  · rename_i text rest hread
    refine (List.dropWhile_suffix isGap).trans (List.IsSuffix.trans ?_ hblank)
    unfold readComment? at hread
    split at hread
    · rename_i tail htail
      rw [htail]
      exact (closeComment?_suffix hread).trans
        ((List.suffix_cons '*' _).trans (List.suffix_cons '/' _))
    · cases hread
  · exact hblank

theorem Opens.dropWhile_eq (h : Opens cs) : cs.dropWhile isGap = cs := by
  obtain ⟨c, rest, rfl, hgap, -⟩ := h
  exact List.dropWhile_cons_of_neg (by simp [hgap])

/-- Nothing is skipped where something else stands, -/
theorem Opens.skipGap_eq (h : Opens cs) : skipGap cs = cs := by
  have hcomment : readComment? cs = none := by
    obtain ⟨c, rest, rfl, -, hslash⟩ := h
    rw [readComment?]
    exact fun tail heq => by
      cases heq
      exact hslash rfl
  rw [skipGap, h.dropWhile_eq, hcomment]

/-- and white space in front of it is skipped, -/
theorem skipGap_cons (h : isGap c = true) : skipGap (c :: cs) = skipGap cs := by
  rw [skipGap, skipGap, List.dropWhile_cons_of_pos h]

/-- as is a description in front of it, behind a line break. -/
theorem Opens.skipGap_docComment (h : Opens cs) (description : String) (indent : Nat) :
    skipGap ('\n' :: (docComment description indent).toList ++ ' ' :: ' ' :: cs) = cs := by
  have hblanks : (' ' :: ' ' :: cs).dropWhile isGap = cs := h.dropWhile_eq
  rw [List.cons_append, skipGap_cons rfl, docComment]
  split
  · exact (skipGap_cons rfl).trans ((skipGap_cons rfl).trans h.skipGap_eq)
  · have hread := readComment?_commentText description ('\n' :: ' ' :: ' ' :: cs)
    have hcut (margin : String) : (margin ++ "/** " ++ commentText description ++ " */\n").toList ++
        ' ' :: ' ' :: cs = margin.toList ++
          (("/** " ++ commentText description ++ " */").toList ++ '\n' :: ' ' :: ' ' :: cs) := by
      simp
    have hmargin : ∀ c ∈ (String.ofList (List.replicate indent ' ')).toList, isGap c = true := by
      rw [String.toList_ofList]
      exact fun c hc => (List.eq_of_mem_replicate hc) ▸ rfl
    have hslash : ∃ tail,
        ("/** " ++ commentText description ++ " */").toList ++ '\n' :: ' ' :: ' ' :: cs =
          '/' :: tail :=
      ⟨_, by simp only [String.toList_append, List.append_assoc]; rfl⟩
    obtain ⟨tail, htail⟩ := hslash
    rw [htail] at hread hcut
    rw [hcut, skipGap, List.dropWhile_append_of_pos hmargin,
      List.dropWhile_cons_of_neg (by decide), hread]
    exact (List.dropWhile_cons_of_pos rfl).trans hblanks

end

/-! ## Whole types -/

/-- Reads the names and marks of members, up to the brace behind them. -/
def readFields? (cs : List Char) : Option (List (String × Bool) × List Char) :=
  match _hmember : readMember? (skipGap cs) with
  | some (m, behind) =>
    match _hend : skipType 0 behind with
    | ';' :: rest => (readFields? rest).map fun p => (m :: p.1, p.2)
    | '\x7d' :: rest => some ([m], rest)
    | _ => none
  | none =>
    match skipGap cs with
    | '\x7d' :: rest => some ([], rest)
    | _ => none
termination_by cs.length
decreasing_by
  have hgap := (skipGap_suffix cs).length_le
  have htype := (skipType_suffix 0 behind).length_le
  have hname := congrArg List.length (readMember?_eq_some_iff.1 _hmember).2
  rw [_hend, List.length_cons] at htype
  rw [List.length_append] at hname
  omega

/-- Reads the names and marks of the members of an object type or an interface. -/
def readObject? : List Char → Option (List (String × Bool) × List Char)
  | '\x7b' :: cs => readFields? cs
  | _ => none

/-- What a member is made from. -/
structure Part where
  name : String
  required : Bool
  type : String

/-- The text of a member. -/
def Part.text (m : Part) : String := member m.name m.required m.type

/-- What is read of a member. -/
def Part.head (m : Part) : String × Bool := (m.name, m.required)

/-- A member has a name in the form of an identifier and a type that can be skipped. -/
structure Part.Readable (m : Part) : Prop where
  named : isIdentifierShape m.name = true
  enclosed : Enclosed m.type

section
variable {cs rest behind : List Char} {m : Part} {heads : List (String × Bool)}

/-- A member does not begin with white space or a comment. -/
theorem Part.Readable.opens (h : m.Readable) (rest : List Char) :
    Opens (m.text.toList ++ rest) := by
  obtain ⟨c, cs, hname, hstart, -⟩ := isIdentifierShape_iff.1 h.named
  have htext : m.text.toList ++ rest = c :: (cs ++ ((if m.required then "" else "?").toList ++
      (": ".toList ++ (m.type.toList ++ rest)))) := by
    simp only [text, member, String.toList_append, hname, List.cons_append, List.append_assoc]
  refine ⟨c, _, htext, ?_, ?_⟩
  · rw [Bool.eq_false_iff]
    intro hgap
    rw [isGap, Bool.or_eq_true, beq_iff_eq, beq_iff_eq] at hgap
    obtain rfl | rfl := hgap <;> exact absurd hstart (by decide)
  · rintro rfl
    exact absurd hstart (by decide)

/-- What stands behind the type of a member tells whether more members follow. -/
theorem readFields?_member (hgap : skipGap cs = m.text.toList ++ behind) (h : m.Readable) :
    readFields? cs =
      match skipType 0 behind with
      | ';' :: rest => (readFields? rest).map fun p => (m.head :: p.1, p.2)
      | '\x7d' :: rest => some ([m.head], rest)
      | _ => none := by
  have hmember : readMember? (skipGap cs) = some (m.head, m.type.toList ++ behind) := by
    rw [hgap]
    exact readMember?_member_iff.2 h.named
  rw [← skipType_append h.enclosed, readFields?]
  split
  · rename_i hread
    rw [hmember] at hread
    cases hread
    split <;> simp_all
  · simp_all

/-- A brace ends the members, -/
theorem readFields?_end (h : skipGap cs = '\x7d' :: rest) : readFields? cs = some ([], rest) := by
  have hmember : readMember? ('\x7d' :: rest) = none := rfl
  rw [readFields?]
  split <;> simp_all

/-- also behind a member without a semicolon. -/
theorem readFields?_last (hgap : skipGap cs = m.text.toList ++ ' ' :: '\x7d' :: rest)
    (h : m.Readable) : readFields? cs = some ([m.head], rest) :=
  readFields?_member hgap h

/-- More members follow behind a semicolon. -/
theorem readFields?_more (hgap : skipGap cs = m.text.toList ++ ';' :: behind) (h : m.Readable)
    (hmore : readFields? behind = some (heads, rest)) :
    readFields? cs = some (m.head :: heads, rest) := by
  have hmember : readFields? cs = (readFields? behind).map _ := readFields?_member hgap h
  rw [hmember, hmore]
  rfl

/-- Whatever is read as a member has a name in the form of an identifier. -/
theorem named_of_readFields? (h : readFields? cs = some (heads, rest)) :
    ∀ m ∈ heads, isIdentifierShape m.1 = true := by
  fun_induction readFields? cs generalizing heads rest with
  | case1 cs m behind hmember tail htype ih =>
    obtain ⟨⟨heads', rest'⟩, hread, heq⟩ := Option.map_eq_some_iff.1 h
    cases heq
    exact List.forall_mem_cons.2 ⟨(readMember?_eq_some_iff.1 hmember).1, ih hread⟩
  | case2 cs m behind hmember tail htype =>
    cases h
    exact List.forall_mem_singleton.2 (readMember?_eq_some_iff.1 hmember).1
  | case4 =>
    cases h
    exact List.forall_mem_nil _
  | case3 | case5 => cases h

theorem named_of_readObject? (h : readObject? cs = some (heads, rest)) :
    ∀ m ∈ heads, isIdentifierShape m.1 = true := by
  unfold readObject? at h
  split at h
  · exact named_of_readFields? h
  · cases h

/-- The members of an object type are read in order. -/
theorem readFields?_intercalate {members : List Part} (h : ∀ m ∈ members, m.Readable)
    (rest : List Char) :
    readFields? (' ' :: ("; ".intercalate (members.map Part.text)).toList ++ ' ' ::
      '\x7d' :: rest) =
      some (members.map Part.head, rest) := by
  induction members with
  | nil => exact readFields?_end rfl
  | cons m members ih =>
    have hm := h m (.head _)
    have hgap (tail : List Char) : skipGap (' ' :: (m.text.toList ++ tail)) =
        m.text.toList ++ tail :=
      (skipGap_cons rfl).trans (hm.opens tail).skipGap_eq
    cases members with
    | nil =>
      rw [List.map_singleton, String.intercalate_singleton]
      exact readFields?_last (hgap _) hm
    | cons m' members =>
      rw [List.map_cons, List.map_cons, String.intercalate_cons_cons, String.toList_append,
        String.toList_append, List.cons_append, List.append_assoc, List.append_assoc]
      exact readFields?_more (hgap _) hm (ih fun n hn => h n (.tail _ hn))

/-- An object type is read as its members. -/
theorem readObject?_objectType {members : List Part} (h : ∀ m ∈ members, m.Readable)
    (rest : List Char) :
    readObject? ((objectType (members.map Part.text)).toList ++ rest) =
      some (members.map Part.head, rest) := by
  have hread := readFields?_intercalate h rest
  have htext : (objectType (members.map Part.text)).toList ++ rest =
      '\x7b' :: (' ' ::
        ("; ".intercalate (members.map Part.text)).toList ++ ' ' :: '\x7d' :: rest) := by
    simp only [objectType, String.toList_append, List.append_assoc]
    rfl
  rw [htext, readObject?, hread]

end

end Scaffold.TypeScript
