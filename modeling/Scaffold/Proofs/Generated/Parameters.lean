import Scaffold.Proofs.Route.Forwarding
import Scaffold.Proofs.Text.Separated
import Scaffold.Proofs.TypeScript.ObjectType

/-!
# The parameters of generated code

The parameters of an operation are written in the parameter list of its method, in the argument that
its handler passes, and in the listing. A name ends where its identifier does, so the first two say
of each parameter what its name, its kind and its mark are, and nothing else: two tables have the
same text exactly if they have the same rows (`paramsObjectType_inj`, `callArgs_inj`). The main
statement is `parameter_texts_determine_rows`: besides, all three are read as one sequence of names
and marks.
-/

namespace Scaffold

open Route (Binding Member expect queryMember queryValue readArgument?)
open Text (Piece)
open TypeScript (Conversion isIdentifier isIdentifierPart isIdentifierShape member objectType
  orUndefined paramType
  paramsObjectType Part readMember? readObject?)

/-! ## Rows -/

/-- What generated code says of a parameter: its name, its kind, and whether it is required. -/
def parameterRow (q : String × Param) : String × Scalar × Bool := (q.1, q.2.kind, q.2.required)

/-- The rows of a table of parameters, in order. -/
def parameterRows (params : Table Param) : List (String × Scalar × Bool) :=
  params.entries.map parameterRow

/-- The names of a table of parameters, with their marks. -/
def parameterHeads (params : Table Param) : List (String × Bool) :=
  params.entries.map fun q => (q.1, q.2.required)

/-- All parameters are named by identifiers. -/
def NamesParameters (params : Table Param) : Prop := ∀ name ∈ params.names, isIdentifier name = true

instance (params : Table Param) : Decidable (NamesParameters params) :=
  inferInstanceAs (Decidable (∀ name ∈ params.names, _))

section
variable {name name' : String} {p p' : Param}

/-- A character that is no part of identifiers is in none of them. -/
theorem not_mem_of_isIdentifier {c : Char} (h : isIdentifier name = true)
    (hc : isIdentifierPart c = false) : c ∉ name.toList := by
  intro hmem
  rw [(Route.forall_isIdentifierPart h).2 c hmem] at hc
  cases hc

/-- A member of a parameter list has no semicolon, -/
theorem piece_member (h : isIdentifier name = true) (p : Param) :
    Piece ';' (member name p.required (paramType p)) := by
  have hname := not_mem_of_isIdentifier (c := ';') h (by decide)
  constructor
  · simp [member]
  · have htype : ';' ∉ (paramType p).toList := by
      rw [paramType]
      cases p.required <;> cases p.kind <;> decide
    cases p.required <;> simp [member, hname, htype]

/-- and a member of an argument no comma. -/
theorem piece_queryMember (h : isIdentifier name = true) (p : Param) :
    Piece ',' (queryMember name p) := by
  have hname := not_mem_of_isIdentifier (c := ',') h (by decide)
  have hvalue : ',' ∉ (queryValue name p).toList := by
    rw [queryValue]
    cases p.kind with
    | string => cases p.required <;> simp [hname]
    | number | boolean => simp [hname]
  rw [queryMember]
  cases p.required with
  | true => exact ⟨by simp, by simp [hname, hvalue]⟩
  | false => exact ⟨by simp, by simp [hname, hvalue]⟩

theorem parameterRow_eq_iff : parameterRow (name, p) = parameterRow (name', p') ↔
    name = name' ∧ p.kind = p'.kind ∧ p.required = p'.required := by
  rw [parameterRow, parameterRow, Prod.mk.injEq, Prod.mk.injEq]

/-- A member of a parameter list determines the row of its parameter: it is read up to its type, and
the type is that of a kind. -/
theorem member_inj (h : isIdentifier name = true) (h' : isIdentifier name' = true) :
    member name p.required (paramType p) = member name' p'.required (paramType p') ↔
      parameterRow (name, p) = parameterRow (name', p') := by
  have hread {name : String} (h : isIdentifier name = true) (required : Bool) (type : String) :
      readMember? ((member name required type).toList ++ []) =
        some ((name, required), type.toList ++ []) := by
    rw [isIdentifier, Bool.and_eq_true] at h
    exact TypeScript.readMember?_member_iff.2 h.1
  rw [parameterRow_eq_iff]
  constructor
  · intro hmember
    have hmark := hread h p.required (paramType p)
    rw [hmember, hread h'] at hmark
    simp only [List.append_nil, Option.some.injEq, Prod.mk.injEq, String.toList_inj] at hmark
    obtain ⟨⟨hname, hrequired⟩, htype⟩ := hmark
    have hkind : Registry.name p'.kind = Registry.name p.kind := by
      rw [paramType, paramType, hrequired] at htype
      cases hp : p.required <;> simpa [orUndefined, hp] using htype
    exact ⟨hname.symm, (LawfulRegistry.name_injective _ _ hkind).symm, hrequired.symm⟩
  · rintro ⟨rfl, hkind, hrequired⟩
    rw [paramType, paramType, hkind, hrequired]

/-- Values of different kinds are converted differently. -/
theorem conversion_injective : Function.Injective Conversion.of := by
  intro kind kind' h
  cases kind <;> cases kind' <;> first | rfl | cases h

theorem member_of_inj : Member.of name p = Member.of name' p' ↔
    name = name' ∧ p.kind = p'.kind ∧ p.required = p'.required := by
  rw [Member.of, Member.of]
  cases p.required <;> cases p'.required <;> simp +contextual [conversion_injective.eq_iff]

/-- So does a member of an argument: it is read as a member for the parameter. -/
theorem queryMember_inj (h : isIdentifier name = true) (h' : isIdentifier name' = true) :
    queryMember name p = queryMember name' p' ↔
      parameterRow (name, p) = parameterRow (name', p') := by
  rw [parameterRow_eq_iff]
  constructor
  · intro hmember
    have hread := Route.readMember_reads h p (Route.stops_brace [])
    rw [hmember, Route.readMember_reads h' p' (Route.stops_brace [])] at hread
    obtain ⟨hname, hkind, hrequired⟩ := member_of_inj.1 (Prod.ext_iff.1 (Option.some.inj hread)).1
    exact ⟨hname.symm, hkind.symm, hrequired.symm⟩
  · rintro ⟨rfl, hkind, hrequired⟩
    simp only [queryMember, queryValue, hkind, hrequired]

end

/-! ## Texts of tables -/

section
variable {p q : Table Param}

/-- The object type of a table of parameters determines their rows, -/
theorem paramsObjectType_inj (hp : NamesParameters p) (hq : NamesParameters q) :
    paramsObjectType p = paramsObjectType q ↔ parameterRows p = parameterRows q := by
  have hpieces {t : Table Param} (ht : NamesParameters t) : ∀ a ∈ t.entries,
      Piece ';' (member a.1 a.2.required (paramType a.2)) := fun a ha =>
    piece_member (ht _ (List.mem_map_of_mem ha)) a.2
  rw [paramsObjectType, paramsObjectType, objectType, objectType, String.append_left_inj,
    String.append_right_inj]
  exact Text.intercalate_map_inj rfl (by decide) (hpieces hp) (hpieces hq) fun a ha b hb =>
    member_inj (hp _ (List.mem_map_of_mem ha)) (hq _ (List.mem_map_of_mem hb))

/-- and so does the argument that a handler passes. -/
theorem callArgs_inj (hp : NamesParameters p) (hq : NamesParameters q) {name name' : String}
    {e e' : Endpoint} (he : e.payload = .query p) (he' : e'.payload = .query q) :
    (Binding.of name e).callArgs = (Binding.of name' e').callArgs ↔
    parameterRows p = parameterRows q := by
  have hpieces {t : Table Param} (ht : NamesParameters t) : ∀ a ∈ t.entries,
      Piece ',' (queryMember a.1 a.2) :=
    fun a ha => piece_queryMember (ht _ (List.mem_map_of_mem ha)) a.2
  simp only [Binding.of, he, he', String.append_left_inj, String.append_right_inj]
  exact Text.intercalate_map_inj rfl (by decide) (hpieces hp) (hpieces hq) fun a ha b hb =>
    queryMember_inj (hp _ (List.mem_map_of_mem ha)) (hq _ (List.mem_map_of_mem hb))

end

/-! ## Reading -/

/-- What is read of a member of an argument: its key, and whether it is passed in any case. -/
def Route.Member.head : Member → String × Bool
  | .plain key _ => (key, true)
  | .spread _ key _ => (key, false)

/-- Reads a parameter list of query parameters: their names and marks, and whether they have
a default. -/
def readParameterList? (s : String) : Option (List (String × Bool) × Bool) := do
  let ((), cs) ← expect "params: " s.toList
  let (heads, cs) ← readObject? cs
  if cs = [] then some (heads, false)
  else if cs = " = \x7b\x7d".toList then some (heads, true)
  else none

/-- The parameters of an operation are read as the same names and marks in the parameter list of its
method and in the argument of its handler, and the listing has these names. They have a default
exactly if they are sent by GET and none of them is required. -/
structure ReadsAlike (c : Catalog) (name : String) (e : Endpoint) (params : Table Param) :
    Prop where
  signature : readParameterList? (Client.signature e) =
    some (parameterHeads params,
      decide (e.method = .get ∧ ∀ q ∈ params.entries, q.2.required = false))
  argument : (readArgument? (Binding.of name e).callArgs).map (·.map Member.head) =
    some (parameterHeads params)
  listing : (c.summaries.filter fun s => s.name == name).map (·.parameters) =
    [(parameterHeads params).map Prod.fst]

section
variable {c : Catalog} {name : String} {e : Endpoint} {params : Table Param}

/-- A parameter list is read up to the end of its object type, and so is what stands behind that. -/
theorem readParameterList?_object (h : NamesParameters params) (optional : Bool) :
    readParameterList?
        ("params: " ++ paramsObjectType params ++ if optional then " = \x7b\x7d" else "") =
      some (parameterHeads params, optional) := by
  let parts : List Part := params.entries.map fun q => ⟨q.1, q.2.required, paramType q.2⟩
  have hobject : paramsObjectType params = objectType (parts.map Part.text) := by
    rw [paramsObjectType, List.map_map]
    rfl
  have hreadable : ∀ m ∈ parts, m.Readable := by
    intro m hm
    obtain ⟨q, hq, rfl⟩ := List.mem_map.1 hm
    have hname := h _ (List.mem_map_of_mem hq)
    rw [isIdentifier, Bool.and_eq_true] at hname
    exact ⟨hname.1, TypeScript.enclosed_paramType q.2⟩
  have hheads : parts.map Part.head = parameterHeads params := by
    rw [List.map_map]
    rfl
  have hread :=
    TypeScript.readObject?_objectType hreadable (if optional then " = \x7b\x7d" else "").toList
  rw [← hobject, hheads] at hread
  have hopening := Route.expect_eq_some_iff.2
    (List.append_assoc "params: ".toList (paramsObjectType params).toList
    (if optional then " = \x7b\x7d" else "").toList)
  rw [← String.toList_append, ← String.toList_append] at hopening
  rw [readParameterList?, hopening]
  simp only [Option.bind_eq_bind, Option.bind_some, hread]
  cases optional <;> rfl

/-- Among the rows of the listing, one is for an operation. -/
theorem filter_summaries (he : (name, e) ∈ c.endpoints.entries) :
    (c.summaries.filter fun s => s.name == name) = [Catalog.summary name e] := by
  rw [Catalog.summaries, List.filter_map]
  exact congrArg (List.map _) (Table.filter_name c.endpoints.distinct he)

/-- The parameter list of an operation has a default exactly if it is sent by GET and no parameter
is required. -/
theorem Catalog.Accepted.signature_eq (hc : c.Accepted) (he : (name, e) ∈ c.endpoints.entries)
    (hp : e.payload = .query params) :
    Client.signature e = "params: " ++ paramsObjectType params ++
      if decide (e.method = .get ∧ ∀ q ∈ params.entries, q.2.required = false) then
        " = \x7b\x7d"
      else "" := by
  obtain hm | hm := hc.carries_query he hp
  · have hshape : Client.Shape.of e = .queryGet params := by
      rw [Client.Shape.of, hp, hm]
      rfl
    have hall : (params.values.all fun p => !p.required) = true ↔
        ∀ q ∈ params.entries, q.2.required = false := by
      simp [Table.values]
    rw [Client.signature, hshape]
    simp only [hall, hm, true_and, decide_eq_true_iff]
  · have hshape : Client.Shape.of e = .queryDelete params := by
      rw [Client.Shape.of, hp, hm]
      rfl
    rw [Client.signature, hshape]
    simp [hm]

/-- The parameters of an operation are read alike. -/
theorem Catalog.Accepted.readsAlike (hc : c.Accepted) (he : (name, e) ∈ c.endpoints.entries)
    (hp : e.payload = .query params) : ReadsAlike c name e params := by
  obtain ⟨hne, hnames⟩ := hc.query_params he hp
  refine ⟨?_, ?_, ?_⟩
  · rw [hc.signature_eq he hp]
    exact readParameterList?_object hnames _
  · rw [Route.readArgument?_callArgs hp hne hnames, Option.map_some, List.map_map]
    refine congrArg some (List.map_congr_left fun q _ => ?_)
    rw [Function.comp_apply, Member.of]
    cases hrequired : q.2.required <;> rfl
  · rw [filter_summaries he, List.map_singleton, Catalog.summary, hp, parameterHeads, List.map_map]
    rfl

end

/-! ## One table of parameters -/

/-- The parameter list of a method and the argument of a handler each determine what the names,
kinds and marks of the parameters are, in order, and are determined by that. So for an operation of
an accepted catalog both are read as the same names and marks, and the listing has these names. -/
theorem parameter_texts_determine_rows :
    (∀ p q : Table Param, NamesParameters p → NamesParameters q →
      (paramsObjectType p = paramsObjectType q ↔ parameterRows p = parameterRows q) ∧
      ∀ name name' e e', e.payload = .query p → e'.payload = .query q →
        ((Binding.of name e).callArgs = (Binding.of name' e').callArgs ↔
          parameterRows p = parameterRows q)) ∧
    ∀ c : Catalog, c.Accepted → ∀ name e params, (name, e) ∈ c.endpoints.entries →
      e.payload = .query params →
      ReadsAlike c name e params :=
  ⟨fun _ _ hp hq => ⟨paramsObjectType_inj hp hq, fun _ _ _ _ he he' => callArgs_inj hp hq he he'⟩,
    fun _ hc _ _ _ he hp => hc.readsAlike he hp⟩

/-- Parameters of the same names and kinds, of which none is required. -/
def optionalParams : Table Param :=
  ⟨[("id", ⟨.string, false, ""⟩), ("version", ⟨.number, false, ""⟩),
    ("silent", ⟨.boolean, false, ""⟩)], by simp⟩

/-- Two tables that differ in their marks alone, and the operation that has one of them. -/
theorem cancel_parameters_read_alike :
    NamesParameters Route.cancelParams ∧ NamesParameters optionalParams ∧
    parameterHeads Route.cancelParams = [("id", true), ("version", true), ("silent", false)] ∧
    paramsObjectType Route.cancelParams ≠ paramsObjectType optionalParams ∧
    (Binding.of "cancel" Route.cancel).callArgs ≠
      (Binding.of "cancel" { Route.cancel with payload := .query optionalParams }).callArgs ∧
    Route.cancelCatalog.Accepted ∧
      ("cancel", Route.cancel) ∈ Route.cancelCatalog.endpoints.entries ∧
    ReadsAlike Route.cancelCatalog "cancel" Route.cancel Route.cancelParams := by
  have hnames : NamesParameters Route.cancelParams := by decide +kernel
  have hnames' : NamesParameters optionalParams := by decide +kernel
  have hrows : parameterRows Route.cancelParams ≠ parameterRows optionalParams := by
    simp [parameterRows, parameterRow, Route.cancelParams, optionalParams]
  have hmem : ("cancel", Route.cancel) ∈ Route.cancelCatalog.endpoints.entries := .head _
  obtain ⟨htexts, hreads⟩ := parameter_texts_determine_rows
  obtain ⟨htype, hargs⟩ := htexts Route.cancelParams optionalParams hnames hnames'
  exact ⟨hnames, hnames', rfl, fun h => hrows (htype.1 h),
    fun h => hrows ((hargs "cancel" "cancel" Route.cancel _ rfl rfl).1 h),
    Route.cancelCatalog_accepted, hmem, hreads Route.cancelCatalog Route.cancelCatalog_accepted
    "cancel" Route.cancel Route.cancelParams hmem rfl⟩

end Scaffold
