import Scaffold.Proofs.Client.Call
import Scaffold.Proofs.Route.Serving

/-!
# Calls and their handlers

An operation says by which method it is called and what a call sends. The main statement is
`calls_are_declared_iff`: both clients collect a query and pass a method and a body as the operation
says, and in every framework its handler is registered for the same method. Nothing but a path that
does not stand in a template literal can make a call another one; `path_passes_method` is such a
path.
-/

namespace Scaffold.Route

open Client (Call Outline readCall)
open TypeScript (StandsInTemplate units)

/-- How an operation is called, and how it is served. -/
structure CalledAndServed (c : Catalog) (name : String) (e : Endpoint) : Prop where
  /-- The direct client has the method of the operation. -/
  direct : ∀ environment baseUrl typesPath, ∃ before text behind,
    Client.direct c environment baseUrl typesPath = .ok (before ++ text ++ behind) ∧
      text ++ "\n" = (Outline.of name e).direct
  /-- The proxy client has its function. -/
  proxied : ∀ typesPath, ∃ before behind, Client.proxy c typesPath =
    .ok (before ++ (Outline.of name e).proxied e.localizeTimes ++ behind)
  /-- In front of the call, both collect the query that the operation declares. -/
  collected : (Outline.of name e).collected? = (Call.of e).query
  /-- Behind the margin of either, the call is read as the one that the operation declares, exactly
  if its path, should it carry a query, can be written into a template literal. -/
  called : ∀ margin ∈ ["    ", "  "], ∀ after,
    readCall (((Outline.of name e).callSource margin).toList ++ after) = some (Call.of e, after) ↔
      ∀ params, e.payload = .query params → StandsInTemplate e.path.toList
  /-- In every framework, one handler calls the operation, and it is registered for the method by
  which the operation is called. -/
  served : ∀ framework clientPath, ∃ a hs steps, handlers c framework clientPath = .ok a ∧
    (Dialect.of framework).readFiles? a = some hs ∧ hs.filter (·.any (Step.calls name)) = [steps] ∧
      steps.filterMap Step.registered? = [(Call.of e).verb]

section
variable {c : Catalog} {name : String} {e : Endpoint}

/-- In every framework, the handler of an operation is registered for its method. -/
theorem exists_registered (hc : c.Accepted) (he : (name, e) ∈ c.endpoints.entries)
    (framework : Framework) (clientPath : String) :
    ∃ a hs steps, handlers c framework clientPath = .ok a ∧
      (Dialect.of framework).readFiles? a = some hs ∧
      hs.filter (·.any (Step.calls name)) = [steps] ∧
      steps.filterMap Step.registered? = [e.method] := by
  obtain ⟨a, hs, ha, hread, hperm⟩ := exists_readFiles? hc clientPath framework
  rw [map_steps_bindings] at hperm
  exact ⟨a, hs, handlerSteps name e, ha, hread,
    filter_calls hperm (fun p => any_calls_handlerSteps p.1 p.2) he, registered_handlerSteps name e⟩

/-- For an accepted catalog, both clients call an operation as it declares, and all frameworks serve
it for the method by which it is called, exactly if its path can be written into the template
literal that carries its query. -/
theorem calls_are_declared_iff (hc : c.Accepted) (he : (name, e) ∈ c.endpoints.entries) :
    CalledAndServed c name e where
  direct := exists_direct_outline he
  proxied := exists_proxy_outline he
  collected := Client.collected?_of name e
  called margin hmargin after := Client.readCall_callSource_iff (isBlank_of_margin margin hmargin)
    (fun _ => hc.carries_query he) name after
  served := exists_registered hc he

end

/-- An ordinary path. -/
theorem cancel_is_called_and_served :
    cancelCatalog.Accepted ∧ ("cancel", cancel) ∈ cancelCatalog.endpoints.entries ∧
    Call.of cancel = ⟨units "/cancel".toList, some "query.toString()", .delete, none⟩ ∧
    StandsInTemplate cancel.path.toList ∧ CalledAndServed cancelCatalog "cancel" cancel := by
  have hmem : ("cancel", cancel) ∈ cancelCatalog.endpoints.entries := .head _
  exact ⟨cancelCatalog_accepted, hmem, rfl, standsInTemplate_cancel,
    calls_are_declared_iff cancelCatalog_accepted hmem⟩

/-! ## A path that passes a method -/

/-- An operation of an accepted catalog that declares DELETE and a query is called by PUT and
without a query, and served for DELETE. -/
theorem path_passes_method :
    detourCatalog.Accepted ∧ ("cancel", detour) ∈ detourCatalog.endpoints.entries ∧
    Call.of detour = ⟨units detourPath.toList, some "query.toString()", .delete, none⟩ ∧
    Client.method "cancel" detour = (Outline.of "cancel" detour).direct ∧
    readCall ((Outline.of "cancel" detour).callSource "    ").toList =
      some (⟨units "/a".toList, none, .put, none⟩,
        " (`?$\x7bquery.toString()\x7d`, \x7b method: 'DELETE' \x7d);".toList) ∧
    (handlerSteps "cancel" detour).filterMap Step.registered? = [.delete] := by
  exact ⟨detourCatalog_accepted, .head _, rfl, Client.method_eq_direct _ _, by decide +kernel,
    registered_handlerSteps "cancel" detour⟩

end Scaffold.Route
