import Scaffold.Proofs.Client.Call

/-!
# What a call with parameters requests

A function with parameters collects a query from the object that it is called with and then calls
its request wrapper once. `Outline.request?` is what it requests: the loop says which pairs are
collected, and the call, read by the lexical rules of the language, says what becomes of them. The
main statement is `request?_eq_some_iff`: in both clients, the path and the method of the operation
are requested with the pairs that the loop appends, exactly if the path can be written into a
template literal as it is.
-/

namespace Scaffold.Client

open TypeScript (Numbers StandsInTemplate Value units)

/-- What a function with parameters requests. -/
structure QueryRequest where
  /-- The code units of the path without the query. -/
  path : List Nat
  verb : HttpMethod
  /-- The keys and texts of the query that the path carries, in order. If there are none, the
  question mark may be missing too. -/
  query : Option (List (String × String))
  /-- The variable that is sent as JSON. -/
  body : Option String
  deriving DecidableEq, Repr

/-- The request that an operation declares, with the pairs of its query. -/
def QueryRequest.of (e : Endpoint) (pairs : List (String × String)) : QueryRequest :=
  ⟨units e.path.toList, e.method, some pairs, none⟩

/-- What a call requests behind statements that leave the text of some pairs in `text`. A query from
elsewhere is not known. -/
def Call.request? (call : Call) (text : String) (pairs : List (String × String)) :
    Option QueryRequest :=
  match call.query with
  | none => some ⟨call.path, call.verb, none, call.body⟩
  | some source =>
    if source = text then some ⟨call.path, call.verb, some pairs, call.body⟩ else none

/-- What is requested by a function of either client if it is called with an object, where `after`
stands behind the call. -/
def Outline.request? {num : Numbers} (margin : String) (o : Outline) (after : List Char)
    (argument : Table (Value num)) : Option QueryRequest := do
  let loop ← Loop.read? o.query
  let text ← loop.queryText? o.query
  let (call, _) ← readCall ((o.callSource margin).toList ++ after)
  call.request? text (loop.pairs argument)

section
variable {e : Endpoint} {params : Table Param} {margin : String} {pairs : List (String × String)}

/-- A request with a query comes from a call that carries what was collected. -/
theorem Call.eq_of_request? {call : Call} {text : String} {request : QueryRequest}
    (h : call.request? text pairs = some request) (hquery : request.query.isSome = true) :
    call.path = request.path ∧ call.query = some text := by
  rw [Call.request?] at h
  split at h
  · cases h
    cases hquery
  · rename_i hsource
    split at h
    · rename_i htext
      cases h
      exact ⟨rfl, htext ▸ hsource⟩
    · cases h

/-- A function for an operation with parameters requests the path and the method of the operation
with the pairs that its loop appends, exactly if the path can be written into a template literal
as it is. -/
theorem request?_eq_some_iff {num : Numbers} (hmargin : ∀ c ∈ margin.toList, isBlank c = true)
    (hp : e.payload = .query params) (hm : e.method = .get ∨ e.method = .delete) (name : String)
    (after : List Char) (argument : Table (Value num)) :
    (Outline.of name e).request? margin after argument =
      some (.of e ((Loop.of e.method).pairs argument)) ↔ StandsInTemplate e.path.toList := by
  obtain ⟨hloop, htext⟩ := read?_queryLines hp
  have hlines : (Outline.of name e).query = queryLines e := rfl
  have hdeclared : (Call.of e).query = some (queryExpression e) := by simp only [Call.of, hp]
  simp only [Outline.request?, hlines, hloop, htext, Option.bind_eq_bind, Option.bind_some]
  constructor
  · intro h
    obtain ⟨⟨call, rest⟩, hread, hrequest⟩ := Option.bind_eq_some_iff.1 h
    obtain ⟨hpath, hquery⟩ := Call.eq_of_request? hrequest rfl
    exact standsInTemplate_of_readCall (fun _ _ => hm) hread hpath
      (hquery.trans hdeclared.symm) params hp
  · intro h
    rw [(readCall_callSource_iff hmargin (fun _ _ => hm) name after).2 fun _ _ => h,
      Option.bind_some, Call.request?, hdeclared]
    simp only [if_true, Call.of, hp, QueryRequest.of]

end

end Scaffold.Client
