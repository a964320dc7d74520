import Scaffold.Proofs.Route.Forwarding

/-!
# Parameters that the query does not have

A handler spreads an optional parameter in only if the query has it, and takes a required one
unconditionally: the value is then what the expression makes of `undefined`. Whether the API sees it
depends on the loop of the direct client. The main statement is `absent_param_reaches_api_iff`,
which says for every kind, flag and method what is sent; `absence_reaches_api_as_text` is a call
that sends the texts `undefined` and `NaN`.
-/

namespace Scaffold.Route

open Client (Loop Outline QueryRequest)
open TypeScript (Conversion Numbers StandsInTemplate Value units)

/-- The text that the API gets for a parameter if the query does not have it. -/
def absentText? (m : HttpMethod) (p : Param) : Option String :=
  if p.required then
    match p.kind with
    | .string => if m = .delete then some "undefined" else none
    | .number => some "NaN"
    | .boolean => some "false"
  else none

section
variable {num : Numbers} {params : Table Param} {query : Table String} {name text : String}
variable {p : Param} {m : HttpMethod}

/-- What the object of a handler holds for a parameter that the query does not have. -/
theorem mem_rebuilt_of_absent (hp : (name, p) ∈ params.entries) (habsent : query.get? name = none)
    {v : Value num} : (name, v) ∈ (rebuilt num params query).entries ↔
      p.required = true ∧ v = (Conversion.of p.kind).apply num none := by
  rw [rebuilt, mem_entries_evaluate]
  constructor
  · rintro ⟨p', hp', hsent, rfl⟩
    cases Table.eq_of_mem_entries hp hp'
    rw [received, habsent]
    exact ⟨hsent.resolve_right (by rw [habsent]; exact Bool.false_ne_true), rfl⟩
  · rintro ⟨hrequired, rfl⟩
    exact ⟨p, hp, .inl hrequired, by rw [received, habsent]⟩

/-- What is appended for a parameter that the query does not have. -/
theorem mem_pairs_rebuilt_of_absent (hp : (name, p) ∈ params.entries)
    (habsent : query.get? name = none) :
    (name, text) ∈ (Loop.of m).pairs (rebuilt num params query) ↔
      absentText? m p = some text := by
  have hvalue : (name, text) ∈ (Loop.of m).pairs (rebuilt num params query) ↔ p.required = true ∧
      (Loop.of m).appends ((Conversion.of p.kind).apply num none) = true ∧
      ((Conversion.of p.kind).apply num none).print = text := by
    rw [Loop.mem_pairs]
    simp only [mem_rebuilt_of_absent hp habsent, and_assoc, exists_and_left, exists_eq_left]
  rw [hvalue, Loop.appends_of, absentText?]
  cases hrequired : p.required with
  | false => simp
  | true =>
    cases p.kind with
    | string => simp [Conversion.of, Conversion.apply, Value.isUndefined, Value.print]
    | number => simp [Conversion.of, Conversion.apply, Value.isUndefined, Value.print,
      num.print_nan]
    | boolean => simp [Conversion.of, Conversion.apply, Value.isUndefined, Value.print]

/-- Which absences have no text. -/
theorem absentText?_iff (hm : m = .get ∨ m = .delete) :
    (absentText? m p ≠ some "undefined" ∧ absentText? m p ≠ some "NaN") ↔
      p.required = false ∨ p.kind = .boolean ∨ (p.kind = .string ∧ m = .get) := by
  obtain ⟨kind, required, description⟩ := p
  rcases hm with rfl | rfl <;> cases required <;> cases kind <;> simp [absentText?]

end

/-- What becomes of a parameter that the query does not have: the handler makes its object with
`members`, and the direct client requests `pairs` with it. -/
structure Absent (num : Numbers) (query : Table String) (name : String) (e : Endpoint)
    (param : String) (p : Param) (members : List Member) (pairs : List (String × String)) :
    Prop where
  /-- The handler evaluates the members, -/
  read : readArgument? (Binding.of name e).callArgs = some members
  /-- and calls the method of the direct client. -/
  direct : Client.method name e = (Outline.of name e).direct
  request : ∀ after, (Outline.of name e).request? "    " after (evaluate num query members) =
    some (.of e pairs)
  /-- What the API gets under the name of the parameter. -/
  text : ∀ text, (param, text) ∈ pairs ↔ absentText? e.method p = some text
  /-- When that is neither `undefined` nor `NaN`. -/
  unseen : (param, "undefined") ∉ pairs ∧ (param, "NaN") ∉ pairs ↔
    p.required = false ∨ p.kind = .boolean ∨ (p.kind = .string ∧ e.method = .get)

end Scaffold.Route
