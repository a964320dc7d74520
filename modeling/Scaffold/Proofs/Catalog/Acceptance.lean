import Scaffold.Catalog.Builtin
import Scaffold.Catalog.Draft
import Scaffold.Proofs.Registry
import Scaffold.Proofs.Traversal

/-!
# Which drafts become catalogs

`CatalogDraft.WellFormed` lists the rules for a draft, each on its own and without regard to the
order in which they are checked: what an operation may send, how it and its fields are named, where
it is served, which headers it requires, and which types are defined. `Catalog.Records` says what a
catalog takes over from a draft. `Catalog.ofDraft_accepts_wellFormed` is the main statement: the
well-formed drafts are those that become catalogs, and a catalog records its draft.

The checks run in three passes, of which the one over the operations carries the paths seen so far.
Its invariant is `Catalog.checkEndpoints_eq_ok_iff`: what is still to be checked has distinct paths,
and none that has been seen.
-/

namespace Scaffold

/-! ## Well-formed drafts -/

namespace EndpointDraft

/-- Parameters are declared; a table without entries counts as none. -/
def HasParams (d : EndpointDraft) : Prop := ∃ t, d.params = some t ∧ t.entries ≠ []

/-- A body is declared; a table without entries counts as none. -/
def HasBody (d : EndpointDraft) : Prop := ∃ t, d.body = some t ∧ t.entries ≠ []

/-- The names of all declared parameters and body fields. -/
def fieldNames (d : EndpointDraft) : List String :=
  (d.params.elim [] Table.names) ++ (d.body.elim [] Table.names)

/-- An operation declares parameters or a body and not both, and its method carries what it
declares. -/
structure PayloadFits (d : EndpointDraft) : Prop where
  one : ¬(d.HasParams ∧ d.HasBody)
  query : d.method = .get ∨ d.method = .delete → ¬d.HasBody
  body : d.method = .post ∨ d.method = .put → ¬d.HasParams

/-- The rules for the operation called `name`. Header names are compared in lower case. -/
structure WellFormed (name : String) (d : EndpointDraft) : Prop where
  payload : d.PayloadFits
  identifier : TypeScript.isIdentifier name = true
  free : name ∉ Catalog.memberNames
  absolute : d.path.toList.head? = some '/'
  apiKey : ∃ h ∈ d.requiredHeaders, Text.lowerAscii h = "x-api-key"
  contentType : d.HasBody ↔ ∃ h ∈ d.requiredHeaders, Text.lowerAscii h = "content-type"
  fields : ∀ field ∈ d.fieldNames, TypeScript.isIdentifier field = true

/-- The payload that an operation declares. -/
def Sends (d : EndpointDraft) : Payload → Prop
  | .none => ¬d.HasParams ∧ ¬d.HasBody
  | .query t => d.params = some t ∧ t.entries ≠ []
  | .body t => d.body = some t ∧ t.entries ≠ []

/-- An operation of a catalog with everything that a draft says of it. -/
structure Becomes (d : EndpointDraft) (e : Endpoint) : Prop where
  path : e.path = d.path
  method : e.method = d.method
  description : e.description = d.description
  payload : d.Sends e.payload
  response : e.response = d.response
  requiredHeaders : e.requiredHeaders = d.requiredHeaders
  localizeTimes : e.localizeTimes = d.localizeTimes

end EndpointDraft

/-- The rules for a catalog. Tables have distinct names by themselves. -/
structure CatalogDraft.WellFormed (d : CatalogDraft) : Prop where
  endpoints : ∀ p ∈ d.endpoints.entries, p.2.WellFormed p.1
  paths : (d.endpoints.entries.map fun p => p.2.path).Nodup
  registered : ∀ name ∈ d.types.names, ∃ t : DomainType, Registry.name t = name
  defined : ∀ t : DomainType, Registry.name t ∈ d.types.names

/-- A catalog with the operations and the type definitions of a draft, in order. -/
structure Catalog.Records (c : Catalog) (d : CatalogDraft) : Prop where
  endpoints : List.Forall₂ (fun p q => q.1 = p.1 ∧ p.2.Becomes q.2)
    d.endpoints.entries c.endpoints.entries
  types : List.Forall₂ (fun p t => Registry.name t.domain = p.1 ∧
    t.description = p.2.description ∧ t.fields = p.2.fields) d.types.entries c.types

/-! ## Payloads -/

namespace EndpointDraft

section
variable {α : Type} {o : Option (Table α)} {t : Table α}

/-- A table is present if it is declared and has entries. -/
theorem present_eq_some_iff : present o = some t ↔ o = some t ∧ t.entries ≠ [] := by
  cases o with
  | none => simp [present]
  | some u =>
    simp only [present, Table.isEmpty, List.isEmpty_iff, Option.some.injEq]
    constructor
    · intro h
      split at h
      · cases h
      · cases h; exact ⟨rfl, ‹_›⟩
    · rintro ⟨rfl, h⟩
      rw [if_neg h]

/-- No table is present if none with entries is declared. -/
theorem present_eq_none_iff : present o = none ↔ ¬∃ t, o = some t ∧ t.entries ≠ [] := by
  rw [Option.eq_none_iff_forall_ne_some, not_exists]
  exact forall_congr' fun t => not_congr present_eq_some_iff

end

/-- The payload of an operation is resolved if the method carries it, to what is declared. -/
theorem payload_eq_ok_iff {d : EndpointDraft} {name : String} {p : Payload} :
    d.payload name = .ok p ↔ d.PayloadFits ∧ d.Sends p := by
  have fits : d.PayloadFits ↔ ¬(present d.params ≠ none ∧ present d.body ≠ none) ∧
      (d.method.usesQuery = true → present d.body = none) ∧
      (d.method.usesQuery = false → present d.params = none) := by
    rw [ne_eq, ne_eq, present_eq_none_iff, present_eq_none_iff, not_not, not_not]
    refine ⟨fun h => ⟨h.one, fun hm => h.query ?_, fun hm => h.body ?_⟩,
      fun h => ⟨h.1, fun hm => h.2.1 ?_, fun hm => h.2.2 ?_⟩⟩
    · revert hm; cases d.method <;> decide
    · revert hm; cases d.method <;> decide
    · rcases hm with hm | hm <;> rw [hm] <;> rfl
    · rcases hm with hm | hm <;> rw [hm] <;> rfl
  have sends : d.Sends p ↔ match p with
      | .none => present d.params = none ∧ present d.body = none
      | .query t => present d.params = some t
      | .body t => present d.body = some t := by
    cases p with
    | none => exact and_congr present_eq_none_iff.symm present_eq_none_iff.symm
    | query t => exact present_eq_some_iff.symm
    | body t => exact present_eq_some_iff.symm
  rw [fits, sends, EndpointDraft.payload]
  cases d.method.usesQuery <;> cases present d.params <;> cases present d.body <;> cases p <;>
    simp

/-- An operation is resolved if its payload is, and keeps everything else. -/
theorem resolve_eq_ok_iff {d : EndpointDraft} {name : String} {e : Endpoint} :
    d.resolve name = .ok e ↔ d.PayloadFits ∧ d.Becomes e := by
  rw [resolve]
  constructor
  · intro h
    cases hp : d.payload name with
    | error err => rw [hp] at h; cases h
    | ok p =>
      rw [hp] at h
      cases h
      obtain ⟨hfit, hsend⟩ := payload_eq_ok_iff.1 hp
      exact ⟨hfit, rfl, rfl, rfl, hsend, rfl, rfl, rfl⟩
  · rintro ⟨hfit, h⟩
    rw [payload_eq_ok_iff.2 ⟨hfit, h.payload⟩]
    obtain ⟨h₁, h₂, h₃, -, h₅, h₆, h₇⟩ := h
    cases e
    cases h₁; cases h₂; cases h₃; cases h₅; cases h₆; cases h₇
    rfl

/-- Every operation declares some payload. -/
theorem exists_sends {d : EndpointDraft} : ∃ p, d.Sends p := by
  by_cases hp : d.HasParams
  · obtain ⟨t, ht⟩ := hp
    exact ⟨.query t, ht⟩
  · by_cases hb : d.HasBody
    · obtain ⟨t, ht⟩ := hb
      exact ⟨.body t, ht⟩
    · exact ⟨.none, hp, hb⟩

end EndpointDraft

/-! ## Checks -/

/-- The rules for the operation of a catalog called `name`, apart from what its method carries. -/
structure Endpoint.Checked (name : String) (e : Endpoint) : Prop where
  identifier : TypeScript.isIdentifier name = true
  free : name ∉ Catalog.memberNames
  absolute : e.path.toList.head? = some '/'
  apiKey : ∃ h ∈ e.requiredHeaders, Text.lowerAscii h = "x-api-key"
  contentType : e.payload.isBody = true ↔
    ∃ h ∈ e.requiredHeaders, Text.lowerAscii h = "content-type"
  fields : ∀ field ∈ e.payload.names, TypeScript.isIdentifier field = true

/-- A header is required if it is listed in some letter case. -/
theorem Endpoint.hasHeader_iff {e : Endpoint} {header : String} : e.hasHeader header = true ↔
    ∃ h ∈ e.requiredHeaders, Text.lowerAscii h = Text.lowerAscii header := by
  simp [hasHeader, Text.sameLetters]

namespace Catalog

/-- An operation passes its checks if it satisfies the rules and its path has not been seen. -/
theorem checkEndpoint_eq_ok_iff {taken : List String} {name : String} {e : Endpoint} :
    checkEndpoint taken name e = .ok () ↔ e.path ∉ taken ∧ e.Checked name := by
  have apiKey : e.hasHeader apiKeyHeader = true ↔
      ∃ h ∈ e.requiredHeaders, Text.lowerAscii h = "x-api-key" := Endpoint.hasHeader_iff
  have contentType : e.hasHeader contentTypeHeader = true ↔
      ∃ h ∈ e.requiredHeaders, Text.lowerAscii h = "content-type" := Endpoint.hasHeader_iff
  have fields : (e.payload.names.find? fun field => !TypeScript.isIdentifier field) = none ↔
      ∀ field ∈ e.payload.names, TypeScript.isIdentifier field = true := by simp
  simp only [checkEndpoint, ite_error_eq_ok_iff]
  constructor
  · rintro ⟨hid, hfree, habs, hseen, hkey, hbody, hfields⟩
    refine ⟨by simpa using hseen, by simpa using hid, by simpa using hfree, by simpa using habs,
      apiKey.1 (by simpa using hkey), ?_, fields.1 ?_⟩
    · rw [← contentType, ← Bool.eq_iff_iff]
      simpa using hbody
    · cases hfind : e.payload.names.find? fun field => !TypeScript.isIdentifier field with
      | none => rfl
      | some field => rw [hfind] at hfields; cases hfields
  · rintro ⟨hseen, hid, hfree, habs, hkey, hbody, hfields⟩
    rw [← contentType, ← Bool.eq_iff_iff] at hbody
    refine ⟨by simpa using hid, by simpa using hfree, by simpa using habs, by simpa using hseen,
      by simpa using apiKey.2 hkey, by simpa using hbody, ?_⟩
    rw [fields.2 hfields]

/-- Operations pass their checks if each satisfies the rules and no path is there twice or has been
seen before. -/
theorem checkEndpoints_eq_ok_iff {taken : List String} {l : List (String × Endpoint)} :
    checkEndpoints taken l = .ok () ↔ (∀ p ∈ l, p.2.Checked p.1) ∧
      (l.map fun p => p.2.path).Nodup ∧ ∀ p ∈ l, p.2.path ∉ taken := by
  induction l generalizing taken with
  | nil => simp [checkEndpoints]
  | cons p l ih =>
    obtain ⟨name, e⟩ := p
    have step : checkEndpoints taken ((name, e) :: l) = .ok () ↔
        checkEndpoint taken name e = .ok () ∧ checkEndpoints (e.path :: taken) l = .ok () := by
      rw [checkEndpoints]
      cases checkEndpoint taken name e with
      | error err => simp
      | ok u => simp
    -- what the rest must avoid is what was seen before and the path of this operation
    have avoid : (∀ p ∈ l, p.2.path ∉ e.path :: taken) ↔
        e.path ∉ l.map (fun p => p.2.path) ∧ ∀ p ∈ l, p.2.path ∉ taken := by
      simp only [List.mem_cons, not_or, List.mem_map, not_exists, not_and]
      exact ⟨fun h => ⟨fun p hp => (h p hp).1, fun p hp => (h p hp).2⟩,
        fun h p hp => ⟨h.1 p hp, h.2 p hp⟩⟩
    rw [step, checkEndpoint_eq_ok_iff, ih, avoid, List.map_cons, List.nodup_cons,
      List.forall_mem_cons, List.forall_mem_cons]
    tauto

/-- No domain type is missing if each has a definition. -/
theorem undefined?_eq_none_iff {types : List TypeDefinition} :
    undefined? types = none ↔ ∀ d : DomainType, ∃ t ∈ types, t.domain = d := by
  simp only [undefined?, List.find?_eq_none, LawfulRegistry.mem_all, true_implies]
  simp

/-- What it takes for a draft to become a given catalog, pass by pass. -/
theorem ofDraft_eq_ok_iff_passes {d : CatalogDraft} {c : Catalog} : ofDraft d = .ok c ↔
    List.Forall₂ (Table.Traversed EndpointDraft.resolve) d.endpoints.entries c.endpoints.entries ∧
    List.Forall₂ (fun p t => TypeDraft.resolve p.1 p.2 = .ok t) d.types.entries c.types ∧
    checkEndpoints [] c.endpoints.entries = .ok () ∧ undefined? c.types = none := by
  rw [ofDraft, bind_eq_ok_iff]
  simp only [bind_eq_ok_iff, Table.traverse_eq_ok_iff, mapM_eq_ok_iff]
  constructor
  · rintro ⟨endpoints, he, types, ht, ⟨⟩, hc, h⟩
    cases hu : undefined? types with
    | some domain => rw [hu] at h; cases h
    | none => rw [hu] at h; cases h; exact ⟨he, ht, hc, hu⟩
  · rintro ⟨he, ht, hc, hu⟩
    refine ⟨c.endpoints, he, c.types, ht, (), hc, ?_⟩
    rw [hu]

end Catalog

/-! ## Drafts and what they become -/

section
variable {d : EndpointDraft} {e : Endpoint} {name : String}

/-- A table that is absent or empty has no names. -/
theorem names_eq_nil {α : Type} {o : Option (Table α)} (h : ¬∃ t, o = some t ∧ t.entries ≠ []) :
    o.elim [] Table.names = [] := by
  cases o with
  | none => rfl
  | some t =>
    have ht : t.entries = [] := by_contra fun hne => h ⟨t, rfl, hne⟩
    simp [Table.names, ht]

/-- An operation has the field names that its draft declares. -/
theorem EndpointDraft.Becomes.names_eq (h : d.Becomes e) (hfit : d.PayloadFits) :
    e.payload.names = d.fieldNames := by
  have hs := h.payload
  cases hp : e.payload with
  | none =>
    rw [hp] at hs
    simp [Payload.names, fieldNames, names_eq_nil hs.1, names_eq_nil hs.2]
  | query t =>
    rw [hp] at hs
    have hb : ¬d.HasBody := fun hb => hfit.one ⟨⟨t, hs⟩, hb⟩
    simp [Payload.names, fieldNames, hs.1, names_eq_nil hb]
  | body t =>
    rw [hp] at hs
    have hb : ¬d.HasParams := fun hb => hfit.one ⟨hb, t, hs⟩
    simp [Payload.names, fieldNames, hs.1, names_eq_nil hb]

/-- An operation sends a body if its draft declares one. -/
theorem EndpointDraft.Becomes.isBody_iff (h : d.Becomes e) (hfit : d.PayloadFits) :
    e.payload.isBody = true ↔ d.HasBody := by
  have hs := h.payload
  cases hp : e.payload with
  | none =>
    rw [hp] at hs
    exact ⟨nofun, fun hb => absurd hb hs.2⟩
  | query t =>
    rw [hp] at hs
    exact ⟨nofun, fun hb => absurd ⟨⟨t, hs⟩, hb⟩ hfit.one⟩
  | body t =>
    rw [hp] at hs
    exact ⟨fun _ => ⟨t, hs⟩, fun _ => rfl⟩

/-- The rules for an operation, read off the catalog or off the draft. -/
theorem EndpointDraft.Becomes.wellFormed_iff (h : d.Becomes e) (hfit : d.PayloadFits) :
    d.WellFormed name ↔ e.Checked name := by
  have hbody := h.isBody_iff hfit
  have hnames := h.names_eq hfit
  constructor
  · rintro ⟨-, hid, hfree, habs, hkey, htype, hfields⟩
    rw [← h.path] at habs
    rw [← h.requiredHeaders] at hkey htype
    exact ⟨hid, hfree, habs, hkey, hbody.trans htype, hnames ▸ hfields⟩
  · rintro ⟨hid, hfree, habs, hkey, htype, hfields⟩
    rw [h.path] at habs
    rw [h.requiredHeaders] at hkey htype
    exact ⟨hfit, hid, hfree, habs, hkey, hbody.symm.trans htype, hnames ▸ hfields⟩

end

/-- A type definition is resolved if its name is registered, and keeps everything else. -/
theorem TypeDraft.resolve_eq_ok_iff {d : TypeDraft} {name : String} {t : TypeDefinition} :
    d.resolve name = .ok t ↔
      Registry.name t.domain = name ∧ t.description = d.description ∧ t.fields = d.fields := by
  rw [resolve]
  constructor
  · intro h
    split at h
    · rename_i domain hf
      cases h
      exact ⟨Registry.find?_eq_some_iff.1 hf, rfl, rfl⟩
    · cases h
  · rintro ⟨hn, hd, hf⟩
    rw [Registry.find?_eq_some_iff.2 hn]
    cases t
    cases hd; cases hf
    rfl

namespace Catalog

/-- The first pass succeeds if every payload fits, and records the operations. -/
theorem traversed_resolve_iff {d : CatalogDraft} {endpoints : Table Endpoint} :
    List.Forall₂ (Table.Traversed EndpointDraft.resolve) d.endpoints.entries endpoints.entries ↔
      (∀ p ∈ d.endpoints.entries, p.2.PayloadFits) ∧
      List.Forall₂ (fun p q => q.1 = p.1 ∧ p.2.Becomes q.2) d.endpoints.entries
        endpoints.entries := by
  rw [← List.forall₂_and_left]
  have step : ∀ (p : String × EndpointDraft) (q : String × Endpoint),
      Table.Traversed EndpointDraft.resolve p q ↔
        p.2.PayloadFits ∧ q.1 = p.1 ∧ p.2.Becomes q.2 := fun p q => by
    rw [Table.Traversed, EndpointDraft.resolve_eq_ok_iff]
    exact and_left_comm
  exact ⟨fun h => h.imp fun p q => (step p q).1, fun h => h.imp fun p q => (step p q).2⟩

/-- A catalog that records a draft is checked by the rules for the draft. -/
theorem Records.checkEndpoints_iff {c : Catalog} {d : CatalogDraft} (h : c.Records d)
    (hfit : ∀ p ∈ d.endpoints.entries, p.2.PayloadFits) :
    checkEndpoints [] c.endpoints.entries = .ok () ↔
      (∀ p ∈ d.endpoints.entries, p.2.WellFormed p.1) ∧
        (d.endpoints.entries.map fun p => p.2.path).Nodup := by
  have hrules : (∀ p ∈ d.endpoints.entries, p.2.WellFormed p.1) ↔
      ∀ q ∈ c.endpoints.entries, q.2.Checked q.1 := by
    refine forall_mem_congr_of_forall₂
      (((List.forall₂_and_left _ _).2 ⟨hfit, h.endpoints⟩).imp fun p q hpq => ?_)
    obtain ⟨hp, hn, hb⟩ := hpq
    rw [hn]
    exact hb.wellFormed_iff hp
  have hpaths := map_eq_of_forall₂ (f := fun p : String × EndpointDraft => p.2.path)
    (g := fun q : String × Endpoint => q.2.path)
    (h.endpoints.imp fun p q hpq => hpq.2.path.symm)
  rw [checkEndpoints_eq_ok_iff, hrules, hpaths]
  simp

/-- The names of the type definitions of a draft that is recorded. -/
theorem Records.names_types {c : Catalog} {d : CatalogDraft} (h : c.Records d) :
    d.types.names = c.types.map fun t => Registry.name t.domain :=
  map_eq_of_forall₂ (h.types.imp fun _ _ hpt => hpt.1.symm)

/-- A catalog that records a draft defines the domain types that the draft defines. -/
theorem Records.undefined?_iff {c : Catalog} {d : CatalogDraft} (h : c.Records d) :
    undefined? c.types = none ↔ ∀ t : DomainType, Registry.name t ∈ d.types.names := by
  rw [undefined?_eq_none_iff, h.names_types]
  refine forall_congr' fun D => ?_
  rw [List.mem_map]
  exact exists_congr fun t => and_congr_right fun _ =>
    ⟨fun e => by rw [e], fun e => LawfulRegistry.name_injective _ _ e⟩

/-- A draft becomes a given catalog if it is well-formed and the catalog records it. -/
theorem ofDraft_eq_ok_iff {d : CatalogDraft} {c : Catalog} :
    ofDraft d = .ok c ↔ d.WellFormed ∧ c.Records d := by
  rw [ofDraft_eq_ok_iff_passes, traversed_resolve_iff]
  constructor
  · rintro ⟨⟨hfit, he⟩, ht, hc, hu⟩
    have hrec : c.Records d := ⟨he, ht.imp fun _ _ => TypeDraft.resolve_eq_ok_iff.1⟩
    obtain ⟨hrules, hpaths⟩ := (hrec.checkEndpoints_iff hfit).1 hc
    refine ⟨⟨hrules, hpaths, fun name hn => ?_, hrec.undefined?_iff.1 hu⟩, hrec⟩
    rw [hrec.names_types] at hn
    obtain ⟨t, -, hname⟩ := List.mem_map.1 hn
    exact ⟨t.domain, hname⟩
  · rintro ⟨hwf, hrec⟩
    have hfit : ∀ p ∈ d.endpoints.entries, p.2.PayloadFits := fun p hp =>
      (hwf.endpoints p hp).payload
    exact ⟨⟨hfit, hrec.endpoints⟩, hrec.types.imp fun _ _ => TypeDraft.resolve_eq_ok_iff.2,
      (hrec.checkEndpoints_iff hfit).2 ⟨hwf.endpoints, hwf.paths⟩,
      hrec.undefined?_iff.2 hwf.defined⟩

/-- Some catalog records a draft that is well-formed. -/
theorem exists_records {d : CatalogDraft} (h : d.WellFormed) : ∃ c : Catalog, c.Records d := by
  obtain ⟨endpoints, he⟩ := Table.exists_traverse (f := EndpointDraft.resolve)
    (t := d.endpoints) fun p hp => by
      obtain ⟨payload, hpay⟩ := p.2.exists_sends
      exact ⟨{ p.2 with payload }, EndpointDraft.resolve_eq_ok_iff.2
        ⟨(h.endpoints p hp).payload, rfl, rfl, rfl, hpay, rfl, rfl, rfl⟩⟩
  obtain ⟨types, ht⟩ := exists_forall₂ (R := fun (p : String × TypeDraft) (t : TypeDefinition) =>
    Registry.name t.domain = p.1 ∧ t.description = p.2.description ∧ t.fields = p.2.fields)
    (l := d.types.entries) fun p hp => by
      obtain ⟨domain, hn⟩ := h.registered p.1 (List.mem_map_of_mem hp)
      exact ⟨⟨domain, p.2.description, p.2.fields⟩, hn, rfl, rfl⟩
  exact ⟨⟨endpoints, types⟩, (traversed_resolve_iff.1 (Table.traverse_eq_ok_iff.1 he)).2, ht⟩

/-- The well-formed drafts are those that become catalogs, and a catalog holds the operations and
the type definitions of its draft, in order and with everything that the draft says of them. -/
theorem ofDraft_accepts_wellFormed (d : CatalogDraft) :
    ((∃ c, ofDraft d = .ok c) ↔ d.WellFormed) ∧ ∀ c, ofDraft d = .ok c → c.Records d := by
  refine ⟨⟨?_, fun h => ?_⟩, fun c h => (ofDraft_eq_ok_iff.1 h).2⟩
  · rintro ⟨c, h⟩
    exact (ofDraft_eq_ok_iff.1 h).1
  · obtain ⟨c, hc⟩ := exists_records h
    exact ⟨c, ofDraft_eq_ok_iff.2 ⟨h, hc⟩⟩

/-! ## Accepted catalogs -/

/-- A catalog that some draft became. -/
def Accepted (c : Catalog) : Prop := ∃ d, ofDraft d = .ok c

/-- In an accepted catalog, every operation comes from a draft that satisfies the rules. -/
theorem Accepted.exists_wellFormed {c : Catalog} (hc : c.Accepted) {name : String} {e : Endpoint}
    (he : (name, e) ∈ c.endpoints.entries) :
    ∃ d : EndpointDraft, d.WellFormed name ∧ d.Becomes e := by
  obtain ⟨d, hd⟩ := hc
  obtain ⟨hwf, hrec⟩ := ofDraft_eq_ok_iff.1 hd
  obtain ⟨p, hmem, hname, hbecomes⟩ := exists_mem_of_forall₂ hrec.endpoints he
  have hname : name = p.1 := hname
  exact ⟨p.2, hname ▸ hwf.endpoints p hmem, hbecomes⟩

/-- In an accepted catalog, operations are named by identifiers. -/
theorem Accepted.identifier {c : Catalog} (hc : c.Accepted) {name : String} {e : Endpoint}
    (he : (name, e) ∈ c.endpoints.entries) : TypeScript.isIdentifier name = true := by
  obtain ⟨d, hd, -⟩ := hc.exists_wellFormed he
  exact hd.identifier

/-- In an accepted catalog, paths begin with a slash. -/
theorem Accepted.absolute {c : Catalog} (hc : c.Accepted) {name : String} {e : Endpoint}
    (he : (name, e) ∈ c.endpoints.entries) : e.path.toList.head? = some '/' := by
  obtain ⟨d, hd, hbecomes⟩ := hc.exists_wellFormed he
  exact hbecomes.path ▸ hd.absolute

/-- In an accepted catalog, the paths of the operations are distinct. -/
theorem Accepted.distinct_paths {c : Catalog} (hc : c.Accepted) :
    (c.endpoints.entries.map fun p => p.2.path).Nodup := by
  obtain ⟨d, hd⟩ := hc
  obtain ⟨hwf, hrec⟩ := ofDraft_eq_ok_iff.1 hd
  have hpaths : (d.endpoints.entries.map fun p => p.2.path) =
      c.endpoints.entries.map fun p => p.2.path :=
    map_eq_of_forall₂ (hrec.endpoints.imp fun p q h => h.2.path.symm)
  exact hpaths ▸ hwf.paths

/-- In an accepted catalog, parameters are carried by GET and DELETE alone. -/
theorem Accepted.carries_query {c : Catalog} (hc : c.Accepted) {name : String} {e : Endpoint}
    {params : Table Param} (he : (name, e) ∈ c.endpoints.entries) (hp : e.payload = .query params) :
    e.method = .get ∨ e.method = .delete := by
  obtain ⟨d, hd, hbecomes⟩ := hc.exists_wellFormed he
  have hsends := hbecomes.payload
  rw [hp] at hsends
  have hbody := hd.payload.body
  rw [← hbecomes.method] at hbody
  cases hm : e.method with
  | get | delete => simp
  | post | put => exact absurd ⟨_, hsends⟩ (hbody (by simp [hm]))

/-- In an accepted catalog, a query has parameters, and they are named by identifiers. -/
theorem Accepted.query_params {c : Catalog} (hc : c.Accepted) {name : String} {e : Endpoint}
    {params : Table Param} (he : (name, e) ∈ c.endpoints.entries) (hp : e.payload = .query params) :
    params.entries ≠ [] ∧ ∀ param ∈ params.names, TypeScript.isIdentifier param = true := by
  obtain ⟨d, hd, hbecomes⟩ := hc.exists_wellFormed he
  have hsends := hbecomes.payload
  have hnames := hbecomes.names_eq hd.payload
  rw [hp] at hsends hnames
  exact ⟨hsends.2, fun param hparam => hd.fields param (hnames ▸ hparam)⟩

end Catalog

/-! ## The built-in catalog -/

/-- An operation as it could be written down. -/
def EndpointDraft.of (e : Endpoint) : EndpointDraft where
  path := e.path
  method := e.method
  description := e.description
  params := match e.payload with
    | .query params => some params
    | _ => none
  body := match e.payload with
    | .body fields => some fields
    | _ => none
  response := e.response
  requiredHeaders := e.requiredHeaders
  localizeTimes := e.localizeTimes

/-- A catalog as it could be written down. -/
def CatalogDraft.of (c : Catalog) : CatalogDraft where
  types := .ofList (c.types.map fun t => (Registry.name t.domain, ⟨t.description, t.fields⟩))
  endpoints := .ofList (c.endpoints.entries.map fun p => (p.1, .of p.2))

/-- The built-in catalog is accepted as any other. -/
theorem Catalog.builtin_accepted : Catalog.builtin.Accepted := ⟨.of .builtin, by decide +kernel⟩

end Scaffold
