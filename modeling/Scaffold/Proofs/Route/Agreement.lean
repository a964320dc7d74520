import Scaffold.Proofs.Route.Argument
import Scaffold.Proofs.Route.Forwarding
import Scaffold.Proofs.Route.Groups
import Scaffold.Proofs.Route.Handler

/-!
# The same handler in every framework

The handlers of an operation are written in the syntax of their framework. Read back, they take the
same steps: `frameworks_share_handlers`. The argument of a call is read as well, for the variables
that it uses; they are those that the handler binds (`variables?_callArgs`).
-/

namespace Scaffold.Route

open TypeScript (isIdentifier)

/-! ## What is wanted of a handler -/

/-- The dialect of the handlers for a framework. -/
def Dialect.of : Framework → Dialect
  | .nextjs => nextjs
  | .express => express
  | .fastify => fastify
  | .nestjs => controller

/-- The names under which a handler has what it takes from a request. -/
def boundNames : Payload → List String
  | .none => []
  | .query _ => ["query"]
  | .body _ => ["body"]

/-- The steps of the handler of an operation. -/
def handlerSteps (name : String) (e : Endpoint) : List Step :=
  .register e.method :: ((boundNames e.payload).map .bind ++ [
    .call name (Binding.of name e).callArgs,
    .onFailure,
    .answer "\x7b error: errorMessage(error) \x7d" 500])

/-- The steps of the method of the service: it hands on the argument of the method of the client, if
that takes one. -/
def forwardSteps (name : String) (e : Endpoint) : List Step :=
  if Client.signature e = "" then [.declare name "", .call name ""]
  else [.declare name ("args: Parameters<SchedulingClient['" ++ name ++ "']>[0]"),
    .call name "args"]

/-- Reads a variable that is used as what the method of the client takes. -/
def readVariable : Reader String := do
  let name ← readName
  expect " as Parameters<SchedulingClient['"
  let _ ← readName
  expect "']>[0]"
  return name

/-- The variables in the argument of a call. The members of an object take their values from
the query. -/
def variables? (argument : String) : Option (List String) :=
  if argument = "" then some []
  else match readArgument? argument, readVariable argument.toList with
    | some members, _ => some (if members = [] then [] else ["query"])
    | none, some (name, []) => some [name]
    | none, _ => none

/-- Among handlers, exactly one calls an operation; it takes its steps, and has for its call what
that needs. -/
structure HandledOnce (hs : List (List Step)) (name : String) (e : Endpoint) : Prop where
  one : hs.filter (·.any (Step.calls name)) = [handlerSteps name e]
  bound : variables? (Binding.of name e).callArgs = some (boundNames e.payload)
  argument : (Binding.of name e).callArgs = "" ↔ Client.signature e = ""

/-! ## Arguments -/

section
variable {name : String} {e : Endpoint}

theorem boundNames_payload (name : String) (e : Endpoint) :
    boundNames e.payload = (Binding.of name e).input.names := by
  simp only [Binding.of]
  cases e.payload <;> rfl

theorem steps_of (name : String) (e : Endpoint) :
    (Binding.of name e).steps = handlerSteps name e := by
  rw [Binding.steps, handlerSteps, boundNames_payload name e]
  rfl

/-- An operation takes no argument exactly if it has no payload. -/
theorem signature_eq_empty_iff : Client.signature e = "" ↔ e.payload = .none := by
  have hmethod : Client.signature e = "" ↔ Client.Shape.of e = .noArgs := by
    rw [Client.signature]
    cases Client.Shape.of e <;> simp
  rw [hmethod, Client.Shape.of]
  cases e.payload <;> cases e.method <;> simp

/-- The call of an operation has no argument exactly if there is no payload. -/
theorem callArgs_eq_empty_iff : (Binding.of name e).callArgs = "" ↔ e.payload = .none := by
  simp only [Binding.of]
  cases e.payload <;> simp

/-- A body is read as a variable. -/
theorem readVariable_callArgs {fields : Table Field} (hname : isIdentifier name = true)
    (hp : e.payload = .body fields) :
    readVariable (Binding.of name e).callArgs.toList = some ("body", []) := by
  have hcall : (Binding.of name e).callArgs.toList = "body".toList ++
      (" as Parameters<SchedulingClient['".toList ++ (name.toList ++ ("']>[0]".toList ++ []))) := by
    have hbody : "body as Parameters<SchedulingClient['" =
        "body" ++ " as Parameters<SchedulingClient['" := rfl
    simp only [Binding.of, hp, hbody, String.toList_append, List.append_assoc, List.append_nil]
  have hidentifier : isIdentifier "body" = true := by decide
  rw [hcall]
  exact bind_reads (readName_reads hidentifier (by simp; decide))
    (bind_reads (expect_eq_some_iff.2 rfl) (bind_reads (readName_reads hname (by simp; decide))
      (bind_reads (expect_eq_some_iff.2 rfl) rfl)))

/-- The variables of an argument are those that the handler binds. -/
theorem variables?_callArgs {c : Catalog} (hc : c.Accepted) (he : (name, e) ∈ c.endpoints.entries) :
    variables? (Binding.of name e).callArgs = some (boundNames e.payload) := by
  rw [variables?]
  cases hp : e.payload with
  | none => rw [if_pos (callArgs_eq_empty_iff.2 hp)]; rfl
  | query params =>
    obtain ⟨hne, hnames⟩ := hc.query_params he hp
    have hread : readArgument? (Binding.of name e).callArgs = _ :=
      readArgument?_callArgs hp hne hnames
    rw [if_neg (by simp [callArgs_eq_empty_iff, hp]), hread]
    simp [boundNames, hne]
  | body fields =>
    have hbrace : readArgument? (Binding.of name e).callArgs = none := by
      have hfirst : (Binding.of name e).callArgs.toList.head? = some 'b' := by
        simp only [Binding.of, hp, String.toList_append]
        rfl
      have hopening : expect "\x7b " (Binding.of name e).callArgs.toList = none :=
        expect_eq_none (c := '\x7b') rfl hfirst (by decide)
      rw [readArgument?, hopening]
      rfl
    rw [if_neg (by simp [callArgs_eq_empty_iff, hp]), hbrace,
      readVariable_callArgs (hc.identifier he) hp]
    rfl

end

/-! ## Files -/

/-- Among the handlers of a catalog, one calls an operation. -/
theorem filter_calls {c : Catalog} {steps : String × Endpoint → List Step} {hs : List (List Step)}
    (hperm : hs.Perm (c.endpoints.entries.map steps)) {name : String} {e : Endpoint}
    (hcalls : ∀ p, (steps p).any (Step.calls name) = (p.1 == name))
    (he : (name, e) ∈ c.endpoints.entries) :
    hs.filter (·.any (Step.calls name)) = [steps (name, e)] := by
  have hentries : (c.endpoints.entries.map steps).filter (·.any (Step.calls name)) =
      [steps (name, e)] := by
    have hname : ((·.any (Step.calls name)) ∘ steps) = fun p : String × Endpoint => p.1 == name :=
      funext hcalls
    rw [List.filter_map, hname, Table.filter_name c.endpoints.distinct he, List.map_singleton]
  exact List.perm_singleton.1 (hentries ▸ hperm.filter _)

/-- The bindings of a catalog take the steps of their operations. -/
theorem map_steps_bindings (c : Catalog) :
    (bindings c).map Binding.steps = c.endpoints.entries.map fun p => handlerSteps p.1 p.2 := by
  rw [bindings, List.map_map]
  exact List.map_congr_left fun p _ => steps_of p.1 p.2

/-- A handler calls its operation and no other one. -/
theorem any_calls_handlerSteps (name : String) (e : Endpoint) {operation : String} :
    (handlerSteps name e).any (Step.calls operation) = (name == operation) := by
  rw [handlerSteps]
  cases e.payload <;> simp [boundNames, Step.calls]

/-- So operations of distinct names have distinct handlers. -/
theorem eq_of_handlerSteps {name other : String} {e e' : Endpoint}
    (h : handlerSteps name e = handlerSteps other e') : name = other := by
  have hcalls := congrArg (·.any (Step.calls other)) h
  simp only [any_calls_handlerSteps, beq_self_eq_true] at hcalls
  exact eq_of_beq hcalls

/-- A method of the service forwards to the client. -/
theorem serviceSteps_of (name : String) (e : Endpoint) :
    (Binding.of name e).serviceSteps = forwardSteps name e := by
  rw [forwardSteps]
  by_cases hp : e.payload = .none
  · rw [if_pos (signature_eq_empty_iff.2 hp)]
    simp only [Binding.serviceSteps, serviceParameters, Binding.of, hp]
  · rw [if_neg (by rwa [signature_eq_empty_iff])]
    simp only [Binding.serviceSteps, serviceParameters, Binding.of]
    cases h : e.payload with
    | none => exact absurd h hp
    | query | body => rfl

theorem map_serviceSteps_bindings (c : Catalog) :
    (bindings c).map Binding.serviceSteps =
    c.endpoints.entries.map fun p => forwardSteps p.1 p.2 := by
  rw [bindings, List.map_map]
  exact List.map_congr_left fun p _ => serviceSteps_of p.1 p.2

theorem any_calls_forwardSteps (name : String) (e : Endpoint) {operation : String} :
    (forwardSteps name e).any (Step.calls operation) = (name == operation) := by
  rw [forwardSteps]
  split <;> simp [Step.calls]

section
variable {c : Catalog} (hc : c.Accepted) (clientPath : String)
include hc

/-- What is generated for an accepted catalog can be read. -/
theorem readable_of_mem_bindings : ∀ b ∈ bindings c, b.Readable := by
  rw [bindings, List.forall_mem_map]
  exact fun p he => ⟨oneLine_of hc he, fun hbracket =>
    absurd ((forall_isIdentifierPart (hc.identifier he)).2 _ hbracket) (by decide)⟩

/-- In the file for a group, the handlers of the group are read. -/
theorem readText?_group {p : String × List Binding} (hp : p ∈ (groups (bindings c)).entries) :
    Dialect.nextjs.readText? (Layout.nextjs.text clientPath p.2) = some (p.2.map Binding.steps) :=
  readIn_nextjs.readText?_text clientPath fun b hb =>
    readable_of_mem_bindings hc b (List.mem_of_mem_filter (eq_filter_of_mem_groups hp ▸ hb))

/-- For every framework, the handlers of all operations are read, and no others. -/
theorem exists_readFiles? (framework : Framework) :
    ∃ a hs, handlers c framework clientPath = .ok a ∧
    (Dialect.of framework).readFiles? a = some hs ∧ hs.Perm ((bindings c).map Binding.steps) := by
  have hreadable := readable_of_mem_bindings hc
  cases framework with
  | nextjs =>
    rw [Dialect.of]
    obtain ⟨a, ha, hentries⟩ := exists_handlers_nextjs c clientPath
    have hread : a.entries.map (fun p => Dialect.nextjs.readText? p.2) =
        ((groups (bindings c)).entries.map fun p => p.2.map Binding.steps).map some := by
      rw [hentries, List.map_map, List.map_map]
      refine List.map_congr_left fun p hp => ?_
      rw [Function.comp_apply, Function.comp_apply, readText?_group hc clientPath hp]
    refine ⟨a, _, ha, Dialect.readFiles?_eq_some hread, ?_⟩
    rw [← List.flatMap_def, ← List.map_flatMap]
    exact (flatMap_groups_perm (bindings c)).map Binding.steps
  | express =>
    rw [Dialect.of]
    have hread := readIn_express.readText?_text clientPath hreadable
    exact ⟨_, _, handlers_express c clientPath, Dialect.readFiles?_single hread, .refl _⟩
  | fastify =>
    rw [Dialect.of]
    have hread := readIn_fastify.readText?_text clientPath hreadable
    exact ⟨_, _, handlers_fastify c clientPath, Dialect.readFiles?_single hread, .refl _⟩
  | nestjs =>
    rw [Dialect.of]
    obtain ⟨a, ha, hentries⟩ := exists_handlers_nestjs c clientPath
    have hread : a.entries.map (fun p => Dialect.controller.readText? p.2) =
        [(bindings c).map Binding.steps, [], []].map some := by
      simp only [hentries, List.map_cons, List.map_nil,
        readIn_controller.readText?_text clientPath hreadable,
        readText?_service clientPath fun b hb => (hreadable b hb).lines, readText?_module]
    exact ⟨a, _, ha, Dialect.readFiles?_eq_some hread, by simp⟩

end

/-! ## All frameworks -/

/-- Whatever the framework, what is generated for an accepted catalog has the handlers of its
operations and no others: each operation has exactly one, and it takes the same steps in all of
them. In NestJS, where handlers call the service, the service has exactly one method for each
operation, and it forwards to the client. -/
theorem frameworks_share_handlers {c : Catalog} (hc : c.Accepted) (framework : Framework)
    (clientPath : String) : ∃ a hs, handlers c framework clientPath = .ok a ∧
      (Dialect.of framework).readFiles? a = some hs ∧
      hs.Perm (c.endpoints.entries.map fun p => handlerSteps p.1 p.2) ∧
      (∀ name e, (name, e) ∈ c.endpoints.entries → HandledOnce hs name e) ∧
      (framework = .nestjs → ∃ text methods, a.get? "scheduling.service.ts" = some text ∧
        Dialect.service.readText? text = some methods ∧
        ∀ name e, (name, e) ∈ c.endpoints.entries →
          methods.filter (·.any (Step.calls name)) = [forwardSteps name e]) := by
  obtain ⟨a, hs, ha, hread, hperm⟩ := exists_readFiles? hc clientPath framework
  rw [map_steps_bindings] at hperm
  refine ⟨a, hs, ha, hread, hperm, fun name e he => ?_, ?_⟩
  · exact {
      one := filter_calls hperm (fun p => any_calls_handlerSteps p.1 p.2) he
      bound := variables?_callArgs hc he
      argument := by rw [callArgs_eq_empty_iff, signature_eq_empty_iff] }
  · rintro rfl
    obtain ⟨b, hb, hentries⟩ := exists_handlers_nestjs c clientPath
    cases ha.symm.trans hb
    have hmethods := readIn_service.readText?_text clientPath (readable_of_mem_bindings hc)
    rw [map_serviceSteps_bindings] at hmethods
    refine ⟨_, _, ?_, hmethods, fun name e he => ?_⟩
    · rw [Artifact.get?, hentries]
      simp [List.lookup_cons]
    · exact filter_calls (.refl _) (fun p => any_calls_forwardSteps p.1 p.2) he

/-- An operation with parameters. -/
theorem cancel_is_handled_alike :
    cancelCatalog.Accepted ∧ ("cancel", cancel) ∈ cancelCatalog.endpoints.entries ∧
    handlerSteps "cancel" cancel = [
      .register .delete,
      .bind "query",
      .call "cancel" ("\x7b id: query.id as string, version: Number(query.version), " ++
        "...(query.silent !== undefined ? \x7b silent: query.silent === 'true' \x7d : " ++
        "\x7b\x7d) \x7d"),
      .onFailure,
      .answer "\x7b error: errorMessage(error) \x7d" 500] ∧
    ∃ a hs, handlers cancelCatalog .nestjs "./scheduling-client" = .ok a ∧
      Dialect.controller.readFiles? a = some hs ∧ HandledOnce hs "cancel" cancel := by
  have hmem : ("cancel", cancel) ∈ cancelCatalog.endpoints.entries := .head _
  obtain ⟨a, hs, ha, hread, -, honce, -⟩ :=
    frameworks_share_handlers cancelCatalog_accepted .nestjs "./scheduling-client"
  exact ⟨cancelCatalog_accepted, hmem, by rfl, a, hs, ha, hread, honce "cancel" cancel hmem⟩

end Scaffold.Route
