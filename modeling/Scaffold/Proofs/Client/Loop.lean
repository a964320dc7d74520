import Scaffold.Proofs.Client.Outline
import Scaffold.Proofs.Client.QueryPath
import Scaffold.Proofs.TypeScript.Value
import Scaffold.Table

/-!
# The loop that collects a query

A function with parameters goes over the entries of the object that it is called with and appends
them to the query, all of them or those that are not `undefined`. `Loop.read?` reads off its
statements which of the two it does, and `Loop.pairs` is what it appends. The main statement is
`read?_queryLines`: in both clients, only a function that calls with DELETE appends all entries.
-/

namespace Scaffold.Client

open TypeScript (Numbers Value)

/-! ## Loops -/

/-- Which entries of an object are appended to the query. -/
inductive Loop where
  /-- Those that are not `undefined`. -/
  | defined
  | all
  deriving DecidableEq, Repr

namespace Loop

/-- The lines of a loop over the entries. -/
def lines : Loop → List String
  | defined => [
    "const query = new URLSearchParams();",
    "for (const [key, value] of Object.entries(params)) \x7b",
    "  if (value !== undefined) \x7b",
    "    query.append(key, String(value));",
    "  \x7d",
    "\x7d"]
  | all => [
    "const query = new URLSearchParams();",
    "for (const [key, value] of Object.entries(params)) \x7b",
    "  query.append(key, String(value));",
    "\x7d"]

/-- Reads the loop that statements begin with. -/
def read? (statements : List String) : Option Loop :=
  [defined, all].find? fun loop => loop.lines.isPrefixOf statements

/-- The expression for the text of the query behind the loop that statements begin with. -/
def queryText? (loop : Loop) (statements : List String) : Option String :=
  match statements.drop loop.lines.length with
  | [] => some "query.toString()"
  | ["const queryString = query.toString();"] => some "queryString"
  | _ => none

/-- Whether a loop appends an entry with a value. -/
def appends {num : Numbers} (loop : Loop) (v : Value num) : Bool :=
  match loop with
  | defined => !v.isUndefined
  | all => true

/-- The pairs that a loop appends to the query for the entries of an object. -/
def pairs {num : Numbers} (loop : Loop) (o : Table (Value num)) : List (String × String) :=
  (o.entries.filter fun p => loop.appends p.2).map fun p => (p.1, p.2.print)

/-- Which entries are appended in a call with a method. -/
def of (m : HttpMethod) : Loop := if m = .delete then all else defined

section
variable {num : Numbers} {loop : Loop} {argument : Table (Value num)} {name text : String}

/-- The pairs that a loop appends. -/
theorem mem_pairs : (name, text) ∈ loop.pairs argument ↔
    ∃ v, (name, v) ∈ argument.entries ∧ loop.appends v = true ∧ v.print = text := by
  rw [pairs, List.mem_map]
  constructor
  · rintro ⟨⟨k, v⟩, hmem, heq⟩
    cases heq
    exact ⟨v, (List.mem_filter.1 hmem).1, (List.mem_filter.1 hmem).2, rfl⟩
  · rintro ⟨v, hmem, happends, rfl⟩
    exact ⟨(name, v), List.mem_filter.2 ⟨hmem, happends⟩, rfl⟩

/-- Only a call with DELETE appends what is `undefined`. -/
theorem appends_of {m : HttpMethod} {v : Value num} :
    (of m).appends v = true ↔ m = .delete ∨ v.isUndefined = false := by
  by_cases hm : m = .delete
  · simp [of, appends, hm]
  · simp [of, appends, hm]

end

end Loop

/-- The loop of an operation with parameters is read off its statements, and behind it the text of
the query. -/
theorem read?_queryLines {e : Endpoint} {params : Table Param} (hp : e.payload = .query params) :
    Loop.read? (queryLines e) = some (.of e.method) ∧
    (Loop.of e.method).queryText? (queryLines e) = some (queryExpression e) := by
  by_cases hd : e.method = .delete
  · simp only [queryLines, Shape.of, hp, if_pos hd, Loop.of, queryExpression]
    decide
  · simp only [queryLines, Shape.of, hp, if_neg hd, Loop.of, queryExpression]
    decide

end Scaffold.Client
