import Mathlib
import Scaffold.Proofs.Assembly
import Scaffold.Proofs.Catalog.Acceptance
import Scaffold.Proofs.Client.QueryPath
import Scaffold.Proofs.Client.QueryRequest
import Scaffold.Proofs.Route.Argument
import Scaffold.Route.Handlers

/-!
# From the proxy client to the API

A call with parameters goes from the proxy client to a handler and from there, by the direct client,
to the API. The handler takes the object for the second call from the query of the first. The main
statement is `query_call_is_forwarded_iff`: an object that fits the parameters arrives with its
names and values, and is requested from the API with the pairs that it was requested with from the
handler, exactly if the path can be written into the template literal that carries the query.
`detour_call_is_not_forwarded` is a call that is lost on the way.
-/

namespace Scaffold.Route

open Client (Loop Outline QueryRequest isBlank)
open TypeScript (Conversion Numbers StandsInTemplate Value units)

/-! ## The object of a handler -/

section
variable {num : Numbers} {query : Table String} {params : Table Param} {name : String}

/-- The value of the entry under a name as a value of the kind of a parameter. -/
def received (num : Numbers) (query : Table String) (name : String) (p : Param) : Value num :=
  (Conversion.of p.kind).apply num (query.get? name)

/-- The member for a parameter adds its value unless it is optional and absent. -/
theorem added?_of (p : Param) : (Member.of name p).added? num query =
    if p.required ∨ (query.get? name).isSome then some (name, received num query name p)
    else none := by
  rw [Member.of]
  by_cases hrequired : p.required = true
  · simp [hrequired, Member.added?, Access.value, received]
  · simp [hrequired, Member.added?, Access.value, received]

/-- Of pairs that keep their names, those that are left have distinct names. -/
theorem sublist_map_fst_filterMap {α β : Type} {f : String × α → Option (String × β)}
    (hf : ∀ q r, f q = some r → r.1 = q.1) (l : List (String × α)) :
    ((l.filterMap f).map Prod.fst).Sublist (l.map Prod.fst) := by
  induction l with
  | nil => exact .slnil
  | cons q l ih =>
    cases hq : f q with
    | none =>
      rw [List.filterMap_cons_none hq, List.map_cons]
      exact ih.cons _
    | some r =>
      rw [List.filterMap_cons_some hq, List.map_cons, List.map_cons, hf q r hq]
      exact ih.cons_cons _

/-- The object of a handler has an entry for every parameter that is required or present, in
declaration order. -/
theorem entries_evaluate (params : Table Param) :
    (evaluate num query (params.entries.map fun q => .of q.1 q.2)).entries =
      params.entries.filterMap fun q => if q.2.required ∨ (query.get? q.1).isSome then
        some (q.1, received num query q.1 q.2) else none := by
  have hmembers :
      (params.entries.map fun q => Member.of q.1 q.2).filterMap (Member.added? num query) =
      params.entries.filterMap fun q => if q.2.required ∨ (query.get? q.1).isSome then
        some (q.1, received num query q.1 q.2) else none := by
    rw [List.filterMap_map]
    exact List.filterMap_congr fun q _ => added?_of q.2
  rw [evaluate, hmembers, Table.entries_ofList]
  refine (sublist_map_fst_filterMap (fun q r h => ?_) _).nodup params.distinct
  split at h
  · cases h; rfl
  · cases h

/-- What the object of a handler holds. -/
theorem mem_entries_evaluate {v : Value num} :
    (name, v) ∈ (evaluate num query (params.entries.map fun q => .of q.1 q.2)).entries ↔
      ∃ p, (name, p) ∈ params.entries ∧ (p.required = true ∨ (query.get? name).isSome = true) ∧
        v = received num query name p := by
  rw [entries_evaluate, List.mem_filterMap]
  constructor
  · rintro ⟨⟨k, p⟩, hmem, h⟩
    split at h
    · cases h
      exact ⟨p, hmem, ‹_›, rfl⟩
    · cases h
  · rintro ⟨p, hmem, hor, rfl⟩
    exact ⟨(name, p), hmem, if_pos hor⟩

end

/-! ## Arguments that fit -/

/-- An object fits a table of parameters: it has an entry for every required one, and what it has
are values of declared parameters, of their kinds. -/
structure Fits {num : Numbers} (params : Table Param) (argument : Table (Value num)) : Prop where
  required : ∀ q ∈ params.entries, q.2.required = true → q.1 ∈ argument.names
  declared : ∀ q ∈ argument.entries, ∃ p, (q.1, p) ∈ params.entries ∧ q.2.HasKind p.kind

/-- The entries of an object as the pairs of a query. -/
def printed {num : Numbers} (argument : Table (Value num)) : List (String × String) :=
  argument.entries.map fun q => (q.1, q.2.print)

/-- The pairs under some names, in the order of the names. -/
def inOrder (names : List String) (pairs : List (String × String)) : List (String × String) :=
  names.filterMap fun name => (pairs.lookup name).map fun text => (name, text)

section
variable {names : List String} {pairs : List (String × String)} {name text : String}

/-- A pair is listed in order if it is there and its name is one of the names. -/
theorem mem_inOrder (h : (pairs.map Prod.fst).Nodup) :
    (name, text) ∈ inOrder names pairs ↔ name ∈ names ∧ (name, text) ∈ pairs := by
  rw [inOrder, List.mem_filterMap]
  constructor
  · rintro ⟨k, hk, hmap⟩
    obtain ⟨s, hs, heq⟩ := Option.map_eq_some_iff.1 hmap
    cases heq
    exact ⟨hk, (Table.lookup_eq_some_iff h).1 hs⟩
  · rintro ⟨hname, hpair⟩
    exact ⟨name, hname, by rw [(Table.lookup_eq_some_iff h).2 hpair]; rfl⟩

/-- Pairs whose names are among some distinct names can be listed in the order of these. -/
theorem inOrder_perm (hnames : names.Nodup) (h : (pairs.map Prod.fst).Nodup)
    (hsub : ∀ q ∈ pairs, q.1 ∈ names) : (inOrder names pairs).Perm pairs := by
  have hnodup : (inOrder names pairs).Nodup := by
    refine List.Nodup.of_map Prod.fst (List.Sublist.nodup ?_ hnames)
    have hself := sublist_map_fst_filterMap (f := fun q : String × Unit =>
      (pairs.lookup q.1).map fun text => (q.1, text)) (fun q r hq => ?_)
      (names.map fun k => (k, ()))
    · simpa [inOrder, List.filterMap_map, Function.comp_def] using hself
    · obtain ⟨s, -, heq⟩ := Option.map_eq_some_iff.1 hq
      cases heq
      rfl
  rw [List.perm_ext_iff_of_nodup hnodup (List.Nodup.of_map Prod.fst h)]
  rintro ⟨k, s⟩
  rw [mem_inOrder h]
  exact ⟨fun hk => hk.2, fun hk => ⟨hsub _ hk, hk⟩⟩

/-- Pairs that are in order already stay as they are. -/
theorem inOrder_eq_self (hnames : names.Nodup) (h : (pairs.map Prod.fst).Sublist names) :
    inOrder names pairs = pairs := by
  induction names generalizing pairs with
  | nil =>
    rw [List.sublist_nil, List.map_eq_nil_iff] at h
    rw [h]
    rfl
  | cons n names ih =>
    rw [List.nodup_cons] at hnames
    rcases List.sublist_cons_iff.1 h with hskip | ⟨keys, heq, htake⟩
    · have hnone : pairs.lookup n = none := by
        refine List.lookup_eq_none_iff.2 fun q hq => bne_iff_ne.2 ?_
        rintro rfl
        exact hnames.1 (hskip.subset (List.mem_map_of_mem hq))
      rw [inOrder, List.filterMap_cons_none (by rw [hnone]; rfl)]
      exact ih hnames.2 hskip
    · cases pairs with
      | nil => cases heq
      | cons q pairs =>
        obtain ⟨k, text⟩ := q
        obtain ⟨rfl, rfl⟩ := List.cons.inj heq
        have hrest : inOrder names ((k, text) :: pairs) = inOrder names pairs := by
          refine List.filterMap_congr fun name hname => ?_
          have hne : name ≠ k := by
            rintro rfl
            exact hnames.1 hname
          rw [List.lookup_cons, beq_false_of_ne hne]
        rw [inOrder, List.filterMap_cons_some (by rw [List.lookup_cons_self]; rfl)]
        exact congrArg _ (hrest.trans (ih hnames.2 htake))

end

/-! ## There and back -/

section
variable {num : Numbers} {params : Table Param} {argument : Table (Value num)} {name : String}
variable {p : Param} {v : Value num}

/-- What an object has under the name of a parameter is of its kind. -/
theorem Fits.hasKind (h : Fits params argument) (hp : (name, p) ∈ params.entries)
    (hv : (name, v) ∈ argument.entries) : v.HasKind p.kind := by
  obtain ⟨p', hp', hkind⟩ := h.declared _ hv
  rw [Table.eq_of_mem_entries hp hp']
  exact hkind

/-- The pairs of an object have its names. -/
theorem map_fst_printed : (printed argument).map Prod.fst = argument.names := by
  rw [printed, List.map_map]
  rfl

/-- The record of the pairs of an object has the texts of its values. -/
theorem get?_ofList_printed :
    (Table.ofList (printed argument)).get? name = (argument.get? name).map Value.print := by
  rw [Table.get?_ofList (by rw [map_fst_printed]; exact argument.distinct), printed,
    Table.lookup_map_snd, Table.get?]

/-- All entries are appended to the query if none of them is `undefined`. -/
theorem pairs_eq_printed (loop : Loop) (h : ∀ q ∈ argument.entries, q.2.isUndefined = false) :
    loop.pairs argument = printed argument := by
  have happends : ∀ q ∈ argument.entries, loop.appends q.2 = true := fun q hq => by
    cases loop with
    | defined => rw [Loop.appends, h q hq, Bool.not_false]
    | all => rfl
  rw [Loop.pairs, List.filter_eq_self.2 happends, printed]

/-- The value of an entry that went through the query is the value that was sent. -/
theorem Fits.same_received (h : Fits params argument) (hp : (name, p) ∈ params.entries)
    (hv : (name, v) ∈ argument.entries) :
    (received num (Table.ofList (printed argument)) name p).Same v := by
  rw [received, get?_ofList_printed, Table.get?_eq_some_iff.2 hv, Option.map_some]
  exact Conversion.same_apply_print (h.hasKind hp hv)

/-- The object that a handler makes of a query. -/
def rebuilt (num : Numbers) (params : Table Param) (query : Table String) : Table (Value num) :=
  evaluate num query (params.entries.map fun q => .of q.1 q.2)

/-- What the object of the handler holds is what the object of the caller holds. -/
theorem Fits.same_of_mem_rebuilt (h : Fits params argument)
    (hv : (name, v) ∈ (rebuilt num params (Table.ofList (printed argument))).entries) :
    ∃ w, (name, w) ∈ argument.entries ∧ v.Same w := by
  obtain ⟨p, hp, hsent, rfl⟩ := mem_entries_evaluate.1 hv
  have hname : name ∈ argument.names := by
    rcases hsent with hrequired | hsome
    · exact h.required _ hp hrequired
    · rwa [get?_ofList_printed, Option.isSome_map, Table.isSome_get?_iff] at hsome
  obtain ⟨⟨k, w⟩, hw, rfl⟩ := List.mem_map.1 hname
  exact ⟨w, hw, h.same_received hp hw⟩

/-- What the object of the caller holds is what the object of the handler holds. -/
theorem Fits.same_of_mem (h : Fits params argument) (hv : (name, v) ∈ argument.entries) :
    ∃ w, (name, w) ∈ (rebuilt num params (Table.ofList (printed argument))).entries ∧ w.Same v := by
  obtain ⟨p, hp, -⟩ := h.declared _ hv
  refine ⟨_, mem_entries_evaluate.2 ⟨p, hp, .inr ?_, rfl⟩, h.same_received hp hv⟩
  rw [get?_ofList_printed, Table.get?_eq_some_iff.2 hv]
  rfl

/-- The object of the handler has the names of the object of the caller. -/
theorem Fits.mem_names_rebuilt (h : Fits params argument) :
    name ∈ (rebuilt num params (Table.ofList (printed argument))).names ↔
      name ∈ argument.names := by
  constructor
  · intro hname
    obtain ⟨⟨k, v⟩, hv, rfl⟩ := List.mem_map.1 hname
    obtain ⟨w, hw, -⟩ := h.same_of_mem_rebuilt hv
    exact Table.mem_names_of_mem hw
  · intro hname
    obtain ⟨⟨k, v⟩, hv, rfl⟩ := List.mem_map.1 hname
    obtain ⟨w, hw, -⟩ := h.same_of_mem hv
    exact Table.mem_names_of_mem hw

/-- The object of the handler is printed to the pairs of the object of the caller, in declaration
order. -/
theorem Fits.printed_rebuilt (h : Fits params argument) :
    printed (rebuilt num params (Table.ofList (printed argument))) =
      inOrder params.names (printed argument) := by
  rw [printed, rebuilt, entries_evaluate, List.map_filterMap, inOrder, Table.names,
    List.filterMap_map]
  refine List.filterMap_congr fun q hq => ?_
  have hlookup : (printed argument).lookup q.1 = (argument.get? q.1).map Value.print := by
    rw [printed, Table.lookup_map_snd, Table.get?]
  rw [Function.comp_apply, hlookup, get?_ofList_printed]
  cases hget : argument.get? q.1 with
  | none =>
    have hoptional : ¬ q.2.required = true := fun hrequired =>
      Table.get?_eq_none_iff.1 hget (h.required q hq hrequired)
    simp [hoptional]
  | some v =>
    have hsame := h.same_received hq (Table.get?_eq_some_iff.1 hget)
    simp [hsame.print_eq]

end

/-! ## The functions of the clients -/

section
variable {c : Catalog} {name : String} {e : Endpoint}

/-- The direct client has a method for every operation, laid out from its outline. -/
theorem exists_direct_outline (he : (name, e) ∈ c.endpoints.entries) (environment : Environment)
    (baseUrl typesPath : String) : ∃ before text behind,
      Client.direct c environment baseUrl typesPath = .ok (before ++ text ++ behind) ∧
        text ++ "\n" = (Outline.of name e).direct := by
  obtain ⟨before, behind, hdirect⟩ :=
    Client.exists_direct_methodText (p := (name, e)) he environment baseUrl typesPath
  exact ⟨before, _, behind, hdirect,
    (Client.exists_methodText (name, e)).1.symm.trans (Client.method_eq_direct name e)⟩

/-- The proxy client has a function for it, laid out from the same outline. -/
theorem exists_proxy_outline (he : (name, e) ∈ c.endpoints.entries) (typesPath : String) :
    ∃ before behind, Client.proxy c typesPath =
      .ok (before ++ (Outline.of name e).proxied e.localizeTimes ++ behind) := by
  rw [← Client.proxyText_eq_proxied]
  exact Client.exists_proxy_proxyText he typesPath

/-- The statements of either client stand behind blanks. -/
theorem isBlank_of_margin :
    ∀ margin ∈ ["    ", "  "], ∀ c ∈ margin.toList, isBlank c = true := by
  simp only [← List.all_eq_true]
  rfl

end

/-! ## The whole way -/

/-- How a call of an operation goes from the proxy client to the API: `argument` is what the proxy
client is called with, `members` the expression with which the handler calls the direct client. -/
structure Forwards (c : Catalog) (name : String) (e : Endpoint) (params : Table Param)
    {num : Numbers} (argument : Table (Value num)) (members : List Member) : Prop where
  /-- The direct client has a method for the operation, laid out from its outline. -/
  direct : ∀ environment baseUrl typesPath, ∃ before text behind,
    Client.direct c environment baseUrl typesPath = .ok (before ++ text ++ behind) ∧
      text ++ "\n" = (Outline.of name e).direct
  /-- The proxy client has a function for it, laid out from the same outline. -/
  proxied : ∀ typesPath, ∃ before behind, Client.proxy c typesPath =
    .ok (before ++ (Outline.of name e).proxied e.localizeTimes ++ behind)
  /-- Called with the object, both request its pairs by the method of the operation, behind the
  margin of either, exactly if the path can be written into a template literal. -/
  first : ∀ margin ∈ ["    ", "  "], ∀ after,
    (Outline.of name e).request? margin after argument = some (.of e (printed argument)) ↔
      StandsInTemplate e.path.toList
  /-- There is a handler for the operation, and it takes its object from the query. -/
  handled : Binding.of name e ∈ bindings c ∧ (Binding.of name e).input = .query
  read : readArgument? (Binding.of name e).callArgs = some members
  /-- The object of the handler has the names of the object of the caller, -/
  names : ∀ k, k ∈ (evaluate num (.ofList (printed argument)) members).names ↔ k ∈ argument.names
  /-- with the same values. -/
  values : ∀ k v, (k, v) ∈ argument.entries →
    ∃ w, (k, w) ∈ (evaluate num (.ofList (printed argument)) members).entries ∧ w.Same v
  /-- The direct client, called with it, requests the pairs in declaration order, exactly under the
  same condition. -/
  second : ∀ after, (Outline.of name e).request? "    " after
      (evaluate num (.ofList (printed argument)) members) =
        some (.of e (inOrder params.names (printed argument))) ↔ StandsInTemplate e.path.toList
  /-- These are the same pairs, -/
  perm : (inOrder params.names (printed argument)).Perm (printed argument)
  /-- also in the same order if the caller gave them in declaration order. -/
  ordered : argument.names.Sublist params.names →
    inOrder params.names (printed argument) = printed argument

/-- What the caller gives for the parameters of an operation reaches the API as the caller gave it,
exactly if the path of the operation can be written into a template literal as it is. -/
theorem query_call_is_forwarded_iff (num : Numbers) {c : Catalog} (hc : c.Accepted) {name : String}
    {e : Endpoint} {params : Table Param} (he : (name, e) ∈ c.endpoints.entries)
    (hp : e.payload = .query params) {argument : Table (Value num)} (hfit : Fits params argument) :
    ∃ members, Forwards c name e params argument members := by
  obtain ⟨hne, hnames⟩ := hc.query_params he hp
  have hm := hc.carries_query he hp
  have hdistinct : ((printed argument).map Prod.fst).Nodup := by
    rw [map_fst_printed]
    exact argument.distinct
  have hdefined : ∀ q ∈ argument.entries, q.2.isUndefined = false := fun q hq => by
    obtain ⟨p, -, hkind⟩ := hfit.declared q hq
    exact hkind.isUndefined_eq_false
  have hrebuilt : ∀ q ∈ (rebuilt num params (.ofList (printed argument))).entries,
      q.2.isUndefined = false := fun q hq => by
    obtain ⟨w, -, hsame⟩ := hfit.same_of_mem_rebuilt hq
    exact hsame.isUndefined_eq_false
  refine ⟨params.entries.map fun q => .of q.1 q.2, ?_⟩
  exact {
    direct := exists_direct_outline he
    proxied := exists_proxy_outline he
    first := fun margin hmargin after => by
      rw [← pairs_eq_printed (Loop.of e.method) hdefined]
      exact Client.request?_eq_some_iff (isBlank_of_margin margin hmargin) hp hm name after argument
    handled := ⟨List.mem_map.2 ⟨(name, e), he, rfl⟩, by simp only [Binding.of, hp]⟩
    read := readArgument?_callArgs hp hne hnames
    names := fun k => hfit.mem_names_rebuilt
    values := fun k v => hfit.same_of_mem
    second := fun after => by
      rw [← hfit.printed_rebuilt, ← pairs_eq_printed (Loop.of e.method) hrebuilt]
      exact Client.request?_eq_some_iff (isBlank_of_margin "    " (.head _)) hp hm name after _
    perm := by
      refine inOrder_perm params.distinct hdistinct fun q hq => ?_
      obtain ⟨⟨k, v⟩, hv, rfl⟩ := List.mem_map.1 hq
      obtain ⟨p, hp, -⟩ := hfit.declared _ hv
      exact Table.mem_names_of_mem hp
    ordered := fun hsub => inOrder_eq_self params.distinct (by rwa [map_fst_printed]) }

/-! ## A call -/

/-- A natural number, or what is none, as a text. -/
def printNatural (n : Option Nat) : String := n.elim "NaN" Nat.repr

/-- The natural numbers, and what is none. -/
def naturals : Numbers where
  Number := Option Nat
  nan := none
  print := printNatural
  read := String.toNat?
  print_nan := rfl
  print_read_print := by
    rintro (_ | n)
    · have hnan : "NaN".toNat? = none := by cbv
      exact congrArg printNatural hnan
    · exact congrArg printNatural (Nat.toNat?_repr n)

/-- Parameters of each kind. -/
def cancelParams : Table Param :=
  ⟨[("id", ⟨.string, true, ""⟩), ("version", ⟨.number, true, ""⟩),
    ("silent", ⟨.boolean, false, ""⟩)], by simp⟩

/-- The draft of an operation with these parameters. -/
def cancelDraft : EndpointDraft where
  path := "/cancel"
  method := .delete
  params := some cancelParams
  response := ⟨.scalar .string, ""⟩
  requiredHeaders := [apiKeyHeader]

/-- The operation. -/
def cancel : Endpoint where
  path := "/cancel"
  method := .delete
  description := ""
  payload := .query cancelParams
  response := ⟨.scalar .string, ""⟩
  requiredHeaders := [apiKeyHeader]
  localizeTimes := false

/-- The draft of a catalog with that operation alone. -/
def cancelCatalogDraft : CatalogDraft :=
  { Client.probeCatalogDraft cancel.path with endpoints := ⟨[("cancel", cancelDraft)], by simp⟩ }

/-- The catalog with that operation alone. -/
def cancelCatalog : Catalog := ⟨⟨[("cancel", cancel)], by simp⟩, Catalog.Builtin.types⟩

theorem cancelCatalog_accepted : cancelCatalog.Accepted := ⟨cancelCatalogDraft, rfl⟩

theorem standsInTemplate_cancel : StandsInTemplate cancel.path.toList :=
  ⟨by decide, by decide, by decide, by decide⟩

/-- An object with the required parameters, in another order than they are declared in. -/
def cancelArgument : Table (Value naturals) :=
  ⟨[("version", .number (some 3)), ("id", .text "b-1")], by simp⟩

/-- It fits the parameters. -/
theorem fits_cancelArgument : Fits cancelParams cancelArgument where
  required := by simp [cancelParams, cancelArgument, Table.names]
  declared := by
    simp only [cancelArgument, List.forall_mem_cons, List.not_mem_nil, false_implies, implies_true,
      and_true]
    exact ⟨⟨⟨.number, true, ""⟩, by simp [cancelParams], .number _⟩,
      ⟨⟨.string, true, ""⟩, by simp [cancelParams], .text _⟩⟩

/-- A call without the optional parameter, of an ordinary path. -/
theorem cancel_call_is_forwarded :
    cancelCatalog.Accepted ∧ ("cancel", cancel) ∈ cancelCatalog.endpoints.entries ∧
    cancel.payload = .query cancelParams ∧ Fits cancelParams cancelArgument ∧
    printed cancelArgument = [("version", "3"), ("id", "b-1")] ∧
    StandsInTemplate cancel.path.toList ∧
    ∃ members, Forwards cancelCatalog "cancel" cancel cancelParams cancelArgument members := by
  have hmem : ("cancel", cancel) ∈ cancelCatalog.endpoints.entries := .head _
  exact ⟨cancelCatalog_accepted, hmem, rfl, fits_cancelArgument, rfl, standsInTemplate_cancel,
    query_call_is_forwarded_iff naturals cancelCatalog_accepted hmem rfl fits_cancelArgument⟩

/-! ## A path that requests something else -/

/-- A path that ends the template literal and passes a method of its own. -/
def detourPath : String := "/a`, \x7b method: 'PUT' \x7d); (`"

/-- The operation under that path. -/
def detour : Endpoint := { cancel with path := detourPath }

/-- The draft of the catalog with that operation alone. -/
def detourCatalogDraft : CatalogDraft :=
  { cancelCatalogDraft with
    endpoints := ⟨[("cancel", { cancelDraft with path := detourPath })], by simp⟩ }

/-- The catalog with that operation alone. -/
def detourCatalog : Catalog := ⟨⟨[("cancel", detour)], by simp⟩, Catalog.Builtin.types⟩

theorem detourCatalog_accepted : detourCatalog.Accepted := ⟨detourCatalogDraft, rfl⟩

/-- In both clients, a call of an operation of an accepted catalog that declares DELETE requests
`/a` by PUT, and none of its pairs. -/
theorem detour_call_is_not_forwarded :
    detourCatalog.Accepted ∧ ("cancel", detour) ∈ detourCatalog.endpoints.entries ∧
    detour.payload = .query cancelParams ∧ Fits cancelParams cancelArgument ∧
    printed cancelArgument = [("version", "3"), ("id", "b-1")] ∧
    detour.method = .delete ∧
    ∀ margin ∈ ["    ", "  "],
      (Outline.of "cancel" detour).request? margin [] cancelArgument =
        some ⟨units "/a".toList, .put, none, none⟩ :=
  ⟨detourCatalog_accepted, .head _, rfl, fits_cancelArgument, rfl, rfl, by decide +kernel⟩

end Scaffold.Route
