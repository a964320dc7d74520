import Mathlib.Data.List.Basic
import Scaffold.Proofs.Table
import Scaffold.Proofs.TypeScript.Value
import Scaffold.Route.Binding
import Scaffold.TypeScript.Identifier

/-!
# The argument of a handler

A handler calls the client with an object that it takes from the query. `readArgument?` reads the
expression of that object as a list of members, and `evaluate` gives the object for a query. The
main statement is `readArgument?_callArgs`: if the parameters of an operation are named by
identifiers, its expression is read as one member for each of them, in declaration order.
-/

namespace Scaffold.Route

open TypeScript (Conversion Numbers Value isIdentifier isIdentifierPart isIdentifierStart)

/-! ## Members -/

/-- An expression that converts an entry of the query. -/
structure Access where
  entry : String
  conversion : Conversion
  deriving DecidableEq, Repr

/-- A member of an object. -/
inductive Member where
  /-- A value under a key. -/
  | plain (key : String) (value : Access)
  /-- A value under a key, if the query has an entry. -/
  | spread (tested key : String) (value : Access)
  deriving DecidableEq, Repr

section
variable (num : Numbers) (query : Table String)

/-- The value of an expression for a query. -/
def Access.value (a : Access) : Value num := a.conversion.apply num (query.get? a.entry)

/-- What a member adds to its object. -/
def Member.added? : Member → Option (String × Value num)
  | plain key a => some (key, a.value num query)
  | spread tested key a =>
    if (query.get? tested).isSome then some (key, a.value num query) else none

/-- The object of a list of members. A later member takes the place of an earlier one of its key. -/
def evaluate (members : List Member) : Table (Value num) :=
  .ofList (members.filterMap (Member.added? num query))

end

/-! ## Reading -/

/-- A reader takes its value from the front of a text and leaves the rest. -/
abbrev Reader := StateT (List Char) Option

/-- Reads a name: the characters up to the first one that is no part of an identifier. -/
def readName : Reader String := fun cs =>
  match cs.takeWhile isIdentifierPart with
  | [] => none
  | name => some (String.ofList name, cs.dropWhile isIdentifierPart)

/-- Reads a fixed text. -/
def expect (s : String) : Reader Unit :=
  fun cs => (cs.dropPrefix? s.toList).map fun rest => ((), rest)

/-- Reads the access to an entry of the query. -/
def readEntry : Reader String := do
  expect "query."
  readName

/-- Reads an expression that converts an entry. A type assertion converts nothing. -/
def readAccess : Reader Access :=
  (do
    expect "Number("
    let entry ← readEntry
    expect ")"
    return ⟨entry, .number⟩) <|>
  do
    let entry ← readEntry
    (do expect " === 'true'"; return ⟨entry, .isTrue⟩) <|>
      (do expect " as string"; return ⟨entry, .plain⟩) <|> return ⟨entry, .plain⟩

/-- Reads a key with its value. -/
def readProperty : Reader (String × Access) := do
  let key ← readName
  expect ": "
  let value ← readAccess
  return (key, value)

/-- Reads a member of an object. -/
def readMember : Reader Member :=
  (do
    expect "...("
    let tested ← readEntry
    expect " !== undefined ? \x7b "
    let (key, value) ← readProperty
    expect " \x7d : \x7b\x7d)"
    return .spread tested key value) <|>
  do
    let (key, value) ← readProperty
    return .plain key value

section
variable {α β : Type} {r r' : Reader α} {f : α → Reader β} {cs mid rest : List Char} {a : α} {b : β}

/-- One reader after the other. -/
theorem bind_reads (h : r cs = some (a, mid)) (h' : f a mid = some (b, rest)) :
    (r >>= f) cs = some (b, rest) := by
  change (r cs).bind (fun p => f p.1 p.2) = _
  rw [h]
  exact h'

/-- What is read by one reader after the other. -/
theorem exists_of_bind_reads (h : (r >>= f) cs = some (b, rest)) :
    ∃ a mid, r cs = some (a, mid) ∧ f a mid = some (b, rest) := by
  obtain ⟨⟨a, mid⟩, hmid, h⟩ := Option.bind_eq_some_iff.1 (show (r cs).bind _ = _ from h)
  exact ⟨a, mid, hmid, h⟩

theorem bind_eq_none (h : r cs = none) : (r >>= f) cs = none := by
  change (r cs).bind (fun p => f p.1 p.2) = _
  rw [h]
  rfl

theorem orElse_reads (h : r cs = some (a, rest)) : (r <|> r') cs = some (a, rest) := by
  change (r cs <|> r' cs) = _
  rw [h]
  rfl

theorem orElse_eq_right (h : r cs = none) : (r <|> r') cs = r' cs := by
  change (r cs <|> r' cs) = _
  rw [h]
  rfl

/-- A reader that leaves an end of its text. -/
def Leaves (r : Reader α) : Prop := ∀ cs a rest, r cs = some (a, rest) → rest <:+ cs

theorem leaves_pure (a : α) : Leaves (pure a : Reader α) := by
  intro cs b rest h
  cases h
  exact List.suffix_refl _

theorem Leaves.bind (hr : Leaves r) (hf : ∀ a, Leaves (f a)) : Leaves (r >>= f) := by
  intro cs b rest h
  obtain ⟨a, mid, hmid, h⟩ := exists_of_bind_reads h
  exact (hf a mid b rest h).trans (hr cs a mid hmid)

theorem Leaves.orElse (hr : Leaves r) (hr' : Leaves r') : Leaves (r <|> r') := by
  intro cs a rest h
  cases hcs : r cs with
  | some p =>
    rw [orElse_reads (show r cs = some (p.1, p.2) from hcs)] at h
    cases h
    exact hr cs _ _ hcs
  | none =>
    rw [orElse_eq_right hcs] at h
    exact hr' cs a rest h

end

theorem leaves_readName : Leaves readName := by
  intro cs a rest h
  rw [readName] at h
  split at h
  · cases h
  · cases h
    exact List.dropWhile_suffix _

theorem leaves_expect (s : String) : Leaves (expect s) := by
  intro cs a rest h
  obtain ⟨rest', hrest, heq⟩ := Option.map_eq_some_iff.1 h
  cases heq
  obtain ⟨front, rfl, -⟩ := List.dropPrefix?_eq_some_iff.1 hrest
  exact List.suffix_append _ _

theorem leaves_readEntry : Leaves readEntry := (leaves_expect _).bind fun _ => leaves_readName

theorem leaves_readAccess : Leaves readAccess :=
  .orElse
    ((leaves_expect _).bind fun _ => leaves_readEntry.bind fun _ => (leaves_expect _).bind fun _ =>
      leaves_pure _)
    (leaves_readEntry.bind fun _ => .orElse ((leaves_expect _).bind fun _ => leaves_pure _)
      (.orElse ((leaves_expect _).bind fun _ => leaves_pure _) (leaves_pure _)))

theorem leaves_readProperty : Leaves readProperty :=
  leaves_readName.bind fun _ => (leaves_expect _).bind fun _ => leaves_readAccess.bind fun _ =>
    leaves_pure _

theorem leaves_readMember : Leaves readMember :=
  .orElse
    ((leaves_expect _).bind fun _ => leaves_readEntry.bind fun _ => (leaves_expect _).bind fun _ =>
      leaves_readProperty.bind fun _ => (leaves_expect _).bind fun _ => leaves_pure _)
    (leaves_readProperty.bind fun _ => leaves_pure _)

/-- A text that is read is gone from the front. -/
theorem expect_eq_some_iff {s : String} {cs rest : List Char} :
    expect s cs = some ((), rest) ↔ cs = s.toList ++ rest := by
  rw [expect, Option.map_eq_some_iff]
  constructor
  · rintro ⟨rest', hrest, heq⟩
    cases heq
    obtain ⟨front, rfl, hfront⟩ := List.dropPrefix?_eq_some_iff.1 hrest
    rw [beq_iff_eq.1 hfront]
  · rintro rfl
    exact ⟨rest, List.dropPrefix?_append_of_beq rest (by simp), rfl⟩

/-- Reads members that are separated by commas. -/
def readMembers (cs : List Char) : Option (List Member × List Char) :=
  match _hmember : readMember cs with
  | none => none
  | some (m, rest) =>
    match _hcomma : expect ", " rest with
    | none => some ([m], rest)
    | some ((), rest') => (readMembers rest').map fun p => (m :: p.1, p.2)
termination_by cs.length
decreasing_by
  have hle := (leaves_readMember cs m rest _hmember).length_le
  have hcomma : ", ".toList.length = 2 := rfl
  rw [expect_eq_some_iff.1 _hcomma, List.length_append] at hle
  omega

/-- The last member has no comma behind it. -/
theorem readMembers_last {cs rest : List Char} {m : Member} (h : readMember cs = some (m, rest))
    (hend : expect ", " rest = none) : readMembers cs = some ([m], rest) := by
  rw [readMembers]
  split
  · simp_all
  · split <;> simp_all

/-- More members follow behind a comma. -/
theorem readMembers_more {cs mid rest : List Char} {m : Member} {ms : List Member}
    (h : readMember cs = some (m, ", ".toList ++ mid)) (h' : readMembers mid = some (ms, rest)) :
    readMembers cs = some (m :: ms, rest) := by
  have hcomma : expect ", " (", ".toList ++ mid) = some ((), mid) := expect_eq_some_iff.2 rfl
  rw [readMembers]
  split
  · simp_all
  · split <;> simp_all

/-- Reads the expression of an object. -/
def readArgument? (s : String) : Option (List Member) := do
  let ((), cs) ← expect "\x7b " s.toList
  let (members, cs) ← readMembers cs
  let ((), cs) ← expect " \x7d" cs
  if cs = [] then some members else none

/-! ## The expression of a binding -/

/-- The member for a parameter. -/
def Member.of (name : String) (p : Param) : Member :=
  if p.required then .plain name ⟨name, .of p.kind⟩ else .spread name name ⟨name, .of p.kind⟩

/-- What can stand behind a value: it does not go on with what was read. -/
structure Stops (cs : List Char) : Prop where
  name : ∀ c ∈ cs.head?, isIdentifierPart c = false
  test : expect " === 'true'" cs = none
  assertion : expect " as string" cs = none

section
variable {name : String} {cs rest : List Char}

/-- A text is not read where another character comes first. -/
theorem expect_eq_none {s : String} {c d : Char} (hs : s.toList.head? = some c)
    (hcs : cs.head? = some d) (hne : c ≠ d) : expect s cs = none := by
  rw [Option.eq_none_iff_forall_ne_some]
  rintro ⟨⟨⟩, rest⟩ h
  rw [expect_eq_some_iff.1 h, List.head?_append, hs] at hcs
  exact hne (Option.some.inj hcs)

/-- An identifier is made of parts of identifiers. -/
theorem forall_isIdentifierPart (h : isIdentifier name = true) :
    name.toList ≠ [] ∧ ∀ c ∈ name.toList, isIdentifierPart c = true := by
  rw [isIdentifier, Bool.and_eq_true, TypeScript.isIdentifierShape] at h
  obtain ⟨hshape, -⟩ := h
  split at hshape
  · cases hshape
  · rename_i c cs hname
    rw [Bool.and_eq_true, List.all_eq_true] at hshape
    obtain ⟨hstart, hparts⟩ := hshape
    rw [hname]
    refine ⟨List.cons_ne_nil c cs, ?_⟩
    rintro d (_ | ⟨_, hd⟩)
    · simp only [isIdentifierStart, isIdentifierPart, Char.isAlphanum, Bool.or_eq_true] at hstart ⊢
      tauto
    · exact hparts d hd

/-- An identifier is read up to its end. -/
theorem readName_reads (h : isIdentifier name = true)
    (hrest : ∀ c ∈ rest.head?, isIdentifierPart c = false) :
    readName (name.toList ++ rest) = some (name, rest) := by
  obtain ⟨hne, hparts⟩ := forall_isIdentifierPart h
  have hstop : rest.takeWhile isIdentifierPart = [] ∧ rest.dropWhile isIdentifierPart = rest := by
    cases rest with
    | nil => exact ⟨rfl, rfl⟩
    | cons c rest =>
      have hc := hrest c rfl
      exact ⟨List.takeWhile_cons_of_neg (by simp [hc]), List.dropWhile_cons_of_neg (by simp [hc])⟩
  rw [readName, List.takeWhile_append_of_pos hparts, List.dropWhile_append_of_pos hparts, hstop.1,
    hstop.2, List.append_nil]
  split
  · exact absurd ‹_› hne
  · rw [String.ofList_toList]

/-- The access to an entry is read up to the end of its name. -/
theorem readEntry_reads (h : isIdentifier name = true) (rest : List Char)
    (hrest : ∀ c ∈ rest.head?, isIdentifierPart c = false) :
    readEntry ("query.".toList ++ (name.toList ++ rest)) = some (name, rest) :=
  bind_reads (expect_eq_some_iff.2 rfl) (readName_reads h hrest)

theorem stops_brace (cs : List Char) : Stops (" \x7d".toList ++ cs) := ⟨by simp; decide, rfl, rfl⟩

theorem stops_comma (cs : List Char) : Stops (", ".toList ++ cs) := ⟨by simp; decide, rfl, rfl⟩

/-- The expression for a value is read as the conversion to the kind of its parameter. -/
theorem readAccess_reads (h : isIdentifier name = true) (p : Param) (hrest : Stops rest) :
    readAccess ((queryValue name p).toList ++ rest) = some (⟨name, .of p.kind⟩, rest) := by
  have hplain (cs : List Char) : expect "Number(" ("query.".toList ++ cs) = none :=
    expect_eq_none (c := 'N') (d := 'q') rfl rfl (by decide)
  rw [queryValue]
  cases p.kind with
  | string =>
    by_cases hrequired : p.required = true
    · have hentry := readEntry_reads h (" as string".toList ++ rest) (by simp; decide)
      have htest : expect " === 'true'" (" as string".toList ++ rest) = none := rfl
      simp only [if_pos hrequired, String.toList_append, List.append_assoc]
      rw [readAccess, orElse_eq_right (bind_eq_none (hplain _))]
      refine bind_reads hentry ?_
      rw [orElse_eq_right (bind_eq_none htest)]
      exact orElse_reads (bind_reads (expect_eq_some_iff.2 rfl) rfl)
    · simp only [if_neg hrequired, String.toList_append, List.append_assoc]
      rw [readAccess, orElse_eq_right (bind_eq_none (hplain _))]
      refine bind_reads (readEntry_reads h rest hrest.name) ?_
      rw [orElse_eq_right (bind_eq_none hrest.test), orElse_eq_right (bind_eq_none hrest.assertion)]
      rfl
  | number =>
    have hentry := readEntry_reads h (")".toList ++ rest) (by simp; decide)
    simp only [String.toList_append, List.append_assoc]
    exact orElse_reads (bind_reads (expect_eq_some_iff.2 rfl)
      (bind_reads hentry (bind_reads (expect_eq_some_iff.2 rfl) rfl)))
  | boolean =>
    have hentry := readEntry_reads h (" === 'true'".toList ++ rest) (by simp; decide)
    simp only [String.toList_append, List.append_assoc]
    rw [readAccess, orElse_eq_right (bind_eq_none (hplain _))]
    exact bind_reads hentry (orElse_reads (bind_reads (expect_eq_some_iff.2 rfl) rfl))

/-- A key with the expression for its value is read as these two. -/
theorem readProperty_reads (h : isIdentifier name = true) (p : Param) (hrest : Stops rest) :
    readProperty (name.toList ++ (": ".toList ++ ((queryValue name p).toList ++ rest))) =
      some ((name, ⟨name, .of p.kind⟩), rest) :=
  bind_reads (readName_reads h (by simp; decide)) (bind_reads (expect_eq_some_iff.2 rfl)
    (bind_reads (readAccess_reads h p hrest) rfl))

/-- A member of the argument is read as the member for its parameter. -/
theorem readMember_reads (h : isIdentifier name = true) (p : Param) (hrest : Stops rest) :
    readMember ((queryMember name p).toList ++ rest) = some (.of name p, rest) := by
  rw [queryMember, Member.of]
  by_cases hrequired : p.required = true
  · have hdots :
        expect "...(" (name.toList ++ (": ".toList ++ ((queryValue name p).toList ++ rest))) =
        none := by
      obtain ⟨hne, hparts⟩ := forall_isIdentifierPart h
      obtain ⟨c, tail, hname⟩ := List.exists_cons_of_ne_nil hne
      refine expect_eq_none (c := '.') (d := c) rfl (by rw [hname]; rfl) ?_
      rintro rfl
      exact absurd (hparts '.' (hname ▸ List.mem_cons_self)) (by decide)
    simp only [if_pos hrequired, String.toList_append, List.append_assoc]
    rw [readMember, orElse_eq_right (bind_eq_none hdots)]
    exact bind_reads (readProperty_reads h p hrest) rfl
  · have hentry := readEntry_reads h (" !== undefined ? \x7b ".toList ++ (name.toList ++
      (": ".toList ++ ((queryValue name p).toList ++ (" \x7d : \x7b\x7d)".toList ++ rest)))))
      (by simp; decide)
    have hproperty := readProperty_reads h p (stops_brace (" : \x7b\x7d)".toList ++ rest))
    have hopening : "...(query.".toList = "...(".toList ++ "query.".toList := rfl
    simp only [if_neg hrequired, String.toList_append, List.append_assoc, hopening]
    exact orElse_reads (bind_reads (expect_eq_some_iff.2 rfl) (bind_reads hentry
      (bind_reads (expect_eq_some_iff.2 rfl) (bind_reads hproperty
        (bind_reads (expect_eq_some_iff.2 rfl) rfl)))))

/-- The members of an argument are read in order. -/
theorem readMembers_reads {l : List (String × Param)} (hne : l ≠ [])
    (h : ∀ q ∈ l, isIdentifier q.1 = true) :
    readMembers ((", ".intercalate (l.map fun q => queryMember q.1 q.2)).toList ++ " \x7d".toList) =
      some (l.map fun q => .of q.1 q.2, " \x7d".toList) := by
  induction l with
  | nil => exact absurd rfl hne
  | cons q l ih =>
    have hq := h q (.head l)
    cases l with
    | nil =>
      have hmember := readMember_reads hq q.2 (stops_brace [])
      rw [List.append_nil] at hmember
      simp only [List.map_cons, List.map_nil, String.intercalate_singleton]
      exact readMembers_last hmember rfl
    | cons q' l =>
      have hrest := ih (List.cons_ne_nil q' l) fun q hmem => h q (.tail _ hmem)
      simp only [List.map_cons] at hrest ⊢
      simp only [String.intercalate_cons_cons, String.toList_append, List.append_assoc]
      exact readMembers_more (readMember_reads hq q.2 (stops_comma _)) hrest

/-- If the parameters of an operation are named by identifiers, the argument of its handler is read
as one member for each of them, in declaration order. -/
theorem readArgument?_callArgs {operation : String} {e : Endpoint} {params : Table Param}
    (hp : e.payload = .query params) (hne : params.entries ≠ [])
    (h : ∀ name ∈ params.names, isIdentifier name = true) :
    readArgument? (Binding.of operation e).callArgs =
      some (params.entries.map fun q => .of q.1 q.2) := by
  have hnames : ∀ q ∈ params.entries, isIdentifier q.1 = true := fun q hq =>
    h q.1 (List.mem_map_of_mem hq)
  have hcall : (Binding.of operation e).callArgs.toList = "\x7b ".toList ++
      ((", ".intercalate (params.entries.map fun q => queryMember q.1 q.2)).toList ++
        " \x7d".toList) := by
    simp only [Binding.of, hp, String.toList_append, List.append_assoc]
  have hopening := expect_eq_some_iff.2 hcall
  have hend : expect " \x7d" " \x7d".toList = some ((), []) := rfl
  simp only [readArgument?, hopening, readMembers_reads hne hnames, hend, Option.bind_eq_bind,
    Option.bind_some, if_true]

end

end Scaffold.Route
