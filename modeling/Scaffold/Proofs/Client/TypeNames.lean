import Scaffold.Proofs.Assembly
import Scaffold.Proofs.Client.Outline
import Scaffold.Proofs.Client.QueryPath

/-!
# The names of types in the clients

Both clients import the module of domain types as `Types`, so a name that the module declares means
something in them only if it is qualified. Which ones are is a rule on type expressions: a domain
type is qualified below at most one array layer (`QualifiesInResponse`), and in a body an
enumeration is below exactly one (`QualifiesInBody`). Every other expression keeps its spelling. No
text is both a qualified name and a bare one below array layers, since only the former has a dot in
it. The main statement is `registered_names_are_qualified_iff`: in the functions of both clients, a
registered name is qualified exactly by that rule.
-/

namespace Scaffold

/-! ## Names below array layers -/

namespace TypeExpr

/-- A text with array layers around it, the outermost first. -/
def wrap : List ArrayStyle → String → String
  | [], t => t
  | .suffix :: styles, t => wrap styles t ++ "[]"
  | .generic :: styles, t => "Array<" ++ wrap styles t ++ ">"

/-- An expression that the module of domain types declares, and its name there. -/
inductive Names : TypeExpr → String → Prop
  | domain (d : DomainType) : Names (.domain d) (Registry.name d)
  | enum (t : EnumType) : Names (.enum t) (Registry.name t)

/-- A name of the module of domain types as it is seen from outside, below array layers. -/
def Qualified (n s : String) : Prop := ∃ styles, s = wrap styles (TypeScript.qualify n true)

/-- A name as it is seen from inside of the module, below array layers. -/
def Bare (n s : String) : Prop := ∃ styles, s = wrap styles n

variable {e b : TypeExpr} {n s : String}

/-- The text of an expression is that of what is below its array layers, with the layers
around it. -/
theorem text_eq_wrap (e : TypeExpr) : e.text = wrap e.layers e.base.text := by
  induction e with
  | array e style ih => cases style <;> rw [text, layers, base, wrap, ih]
  | scalar | domain | enum | named | inline => rfl

/-- Array layers have no dot. -/
theorem dot_mem_wrap_iff (styles : List ArrayStyle) :
    '.' ∈ (wrap styles s).toList ↔ '.' ∈ s.toList := by
  induction styles with
  | nil => rfl
  | cons style styles ih => cases style <;> simp [wrap, ih]

/-- Neither has a name. -/
theorem Names.dot_not_mem (h : Names b n) : '.' ∉ n.toList := by
  cases h with
  | domain d => cases d <;> decide
  | enum t => cases t; decide

theorem Names.text_eq (h : Names b n) : b.text = n := by cases h <;> rfl

/-- A text in which a name is qualified does not have it bare. -/
theorem Names.not_bare_of_qualified (h : Names b n) (hs : Qualified n s) : ¬Bare n s := by
  rintro ⟨styles, rfl⟩
  obtain ⟨styles', hs⟩ := hs
  have hdot : '.' ∈ (wrap styles' (TypeScript.qualify n true)).toList := by
    rw [dot_mem_wrap_iff]
    simp [TypeScript.qualify]
  rw [← hs, dot_mem_wrap_iff] at hdot
  exact h.dot_not_mem hdot

end TypeExpr

open TypeExpr (Bare Names Qualified wrap)

/-! ## The rule -/

namespace TypeScript

/-- In the answer of an operation, a domain type is qualified below at most one array layer. -/
def QualifiesInResponse (e : TypeExpr) : Prop := (∃ d, e.base = .domain d) ∧ e.layers.length ≤ 1

/-- In a body, an enumeration is qualified too, below exactly one array layer. -/
def QualifiesInBody (e : TypeExpr) : Prop :=
  QualifiesInResponse e ∨ (∃ t, e.base = .enum t) ∧ e.layers.length = 1

/-- A text for an expression in a place where names are qualified under a condition: a registered
name below array layers is qualified under that condition and bare otherwise. -/
structure WrittenBy (condition : Prop) (e : TypeExpr) (s : String) : Prop where
  qualified : ∀ n, Names e.base n → (Qualified n s ↔ condition)
  bare : ∀ n, Names e.base n → (Bare n s ↔ ¬condition)
  /-- Where no name is qualified, the spelling is kept. -/
  verbatim : ¬condition → s = e.text

variable {e : TypeExpr} {condition : Prop} {s : String}

/-- It takes a qualified name under the condition, and the spelling otherwise. -/
theorem WrittenBy.of (hqualified : condition → ∀ n, Names e.base n → Qualified n s)
    (hverbatim : ¬condition → s = e.text) : WrittenBy condition e s := by
  have hbare (h : ¬condition) {n : String} (hn : Names e.base n) : Bare n s :=
    ⟨e.layers, by rw [hverbatim h, TypeExpr.text_eq_wrap, hn.text_eq]⟩
  refine ⟨fun n hn => ⟨fun hs => ?_, fun h => hqualified h n hn⟩,
    fun n hn => ⟨fun hs h => ?_, fun h => ?_⟩, hverbatim⟩
  · by_contra h
    exact hn.not_bare_of_qualified hs (hbare h hn)
  · exact hn.not_bare_of_qualified (hqualified h n hn) hs
  · exact hbare h hn

/-- The projection qualifies domain types below at most one array layer. -/
theorem writtenBy_projectType (e : TypeExpr) :
    WrittenBy (QualifiesInResponse e) e (projectType true e) := by
  refine .of (fun h n hn => ?_) fun h => ?_
  · obtain ⟨⟨d, hd⟩, hlayers⟩ := h
    rw [hd] at hn
    cases hn
    cases e with
    | domain d' => cases hd; exact ⟨[], rfl⟩
    | array element style =>
      cases element with
      | domain d' => cases hd; exact ⟨[.suffix], rfl⟩
      | array element style' => simp [TypeExpr.layers] at hlayers
      | scalar | enum | named | inline => cases hd
    | scalar | enum | named | inline => cases hd
  · cases e with
    | domain d => exact absurd ⟨⟨d, rfl⟩, Nat.zero_le 1⟩ h
    | array element style =>
      cases element with
      | domain d => exact absurd ⟨⟨d, rfl⟩, Nat.le_refl 1⟩ h
      | array | scalar | enum | named | inline => rfl
    | scalar | enum | named | inline => rfl

/-- The type of a field is projected, unless it is an array of an enumeration. -/
theorem fieldType_eq_projectType (h : ¬∃ t style, e = .array (.enum t) style) :
    fieldType true true e = projectType true e := by
  rw [fieldType]
  · rfl
  · exact fun t style he => h ⟨t, style, he⟩

/-- The type of a body field also qualifies enumerations below exactly one. -/
theorem writtenBy_fieldType (e : TypeExpr) :
    WrittenBy (QualifiesInBody e) e (fieldType true true e) := by
  by_cases henum : ∃ t style, e = .array (.enum t) style
  · obtain ⟨t, style, rfl⟩ := henum
    have hrule : QualifiesInBody (.array (.enum t) style) := .inr ⟨⟨t, rfl⟩, rfl⟩
    refine .of (fun _ n hn => ?_) fun h => absurd hrule h
    cases hn
    exact ⟨[.suffix], rfl⟩
  · have hrule : QualifiesInBody e ↔ QualifiesInResponse e := by
      refine or_iff_left fun ⟨⟨t, ht⟩, hlayers⟩ => henum ?_
      cases e with
      | array element style =>
        cases element with
        | enum t' => exact ⟨t', style, rfl⟩
        | array => simp [TypeExpr.layers] at hlayers
        | scalar | domain | named | inline => cases ht
      | scalar | domain | enum | named | inline => simp [TypeExpr.layers] at hlayers
    rw [hrule, fieldType_eq_projectType henum]
    exact writtenBy_projectType e

end TypeScript

/-! ## The functions of the clients -/

namespace Client

open TypeScript

/-- The types in the functions of the two clients for an operation: that of the answer, and those of
the body fields in the parameter list. -/
structure DeclaresTypes (c : Catalog) (environment : Environment) (baseUrl typesPath name : String)
    (e : Endpoint) : Prop where
  direct : ∃ before behind, Client.direct c environment baseUrl typesPath =
    .ok (before ++ "async " ++ name ++ "(" ++ signature e ++ "): Promise<" ++ returnType e ++
      "> \x7b\n" ++ behind)
  proxied : ∃ before behind, proxy c typesPath =
    .ok (before ++ "export async function " ++ name ++ "(" ++ signature e ++ "): Promise<" ++
      returnType e ++ "> \x7b\n" ++ behind)
  response : WrittenBy (QualifiesInResponse e.response.type) e.response.type (returnType e)
  field : ∀ fields, e.payload = .body fields → ∀ p ∈ fields.entries, ∃ type,
    (∃ before behind, signature e =
      before ++ member p.1 p.2.required (orUndefined p.2.required type) ++ behind) ∧
    WrittenBy (QualifiesInBody p.2.type) p.2.type type

/-- A body field stands in the parameter list with its type. -/
theorem exists_signature_member {e : Endpoint} {fields : Table Field}
    (hp : e.payload = .body fields) {p : String × Field} (h : p ∈ fields.entries) :
    ∃ before behind, signature e = before ++
      member p.1 p.2.required (orUndefined p.2.required (fieldType true true p.2.type)) ++
        behind := by
  have hshape : Shape.of e = .body fields := by rw [Shape.of, hp]
  have htype : bodyType true p.2 = orUndefined p.2.required (fieldType true true p.2.type) := by
    rw [bodyType]
    cases p.2.type with
    | array element style => cases element <;> rfl
    | scalar | domain | enum | named | inline => rfl
  obtain ⟨l, r, hsplit⟩ := List.append_of_mem h
  let text (q : String × Field) : String := member q.1 q.2.required (bodyType true q.2)
  have hstretch := Text.intercalate_stretch "; " text l r (List.cons_ne_nil p [])
  rw [List.append_assoc, List.singleton_append, ← hsplit, List.map_singleton,
    String.intercalate_singleton] at hstretch
  rw [← htype]
  refine ⟨"data: \x7b " ++ String.join (l.map fun q => text q ++ "; "),
    String.join (r.map fun q => "; " ++ text q) ++ " \x7d", ?_⟩
  have hsignature : signature e =
      "data: " ++ ("\x7b " ++ "; ".intercalate (fields.entries.map text) ++ " \x7d") := by
    rw [signature, hshape]
    rfl
  rw [hsignature, hstretch, show "data: \x7b " = "data: " ++ "\x7b " from rfl]
  simp only [String.append_assoc, text]

/-- In the functions of both clients, a registered name below array layers is qualified exactly as
follows: a domain type below at most one layer, and an enumeration below exactly one if it is that
of a body field. Else it is bare. -/
theorem registered_names_are_qualified_iff (c : Catalog) (environment : Environment)
    (baseUrl typesPath : String) :
    ∀ p ∈ operations c, DeclaresTypes c environment baseUrl typesPath p.1 p.2 := by
  intro p hp
  exact {
    direct := by
      obtain ⟨before, behind, hdirect⟩ := exists_direct_methodText hp environment baseUrl typesPath
      obtain ⟨hmethod, -⟩ := exists_methodText p
      have htext : methodText p ++ "\n" =
          docComment p.2.description 2 ++ "  " ++ ("async " ++ p.1 ++ "(" ++
          signature p.2 ++ "): Promise<" ++ returnType p.2 ++ "> \x7b\n" ++ statements p.2 ++
          "  \x7d") ++ "\n" := by
        rw [← hmethod, method, show "  async " = "  " ++ "async " from rfl,
          show "  \x7d\n" = "  \x7d" ++ "\n" from rfl]
        simp only [String.append_assoc]
      rw [String.append_left_inj] at htext
      refine ⟨before ++ docComment p.2.description 2 ++ "  ",
        statements p.2 ++ "  \x7d" ++ behind, ?_⟩
      rw [hdirect, htext]
      simp only [String.append_assoc]
    proxied := by
      obtain ⟨before, behind, hproxy⟩ := exists_proxy_proxyText hp typesPath
      refine ⟨before ++ docComment p.2.description 0, proxyStatements p.2 ++
        (if p.2.localizeTimes then "\n  return localizeTimes(result);" else "\n  return result;") ++
        "\n\x7d" ++ behind, ?_⟩
      rw [hproxy, proxyText]
      simp only [String.append_assoc]
    response := writtenBy_projectType p.2.response.type
    field := fun fields hbody q hq =>
      ⟨_, exists_signature_member hbody hq, writtenBy_fieldType q.2.type⟩ }

/-! ## An operation on arrays -/

/-- Arrays of registered names: of a domain type and of an enumeration, each below one layer, and
below two. -/
def planFields : Table Field := ⟨[
  ("days", ⟨.array (.enum .dayOfWeek) .suffix, true, ""⟩),
  ("guests", ⟨.array (.domain .user) .generic, false, ""⟩),
  ("day", ⟨.enum .dayOfWeek, true, ""⟩),
  ("rounds", ⟨.array (.array (.domain .user) .suffix) .suffix, true, ""⟩)], by simp⟩

/-- An operation that takes them, and answers with an array of an enumeration. -/
def plan : Endpoint where
  path := "/plan"
  method := .post
  description := ""
  payload := .body planFields
  response := ⟨.array (.enum .dayOfWeek) .generic, ""⟩
  requiredHeaders := [apiKeyHeader, contentTypeHeader]
  localizeTimes := false

/-- The catalog with that operation alone. -/
def planCatalog : Catalog := ⟨⟨[("plan", plan)], by simp⟩, Catalog.Builtin.types⟩

theorem planCatalog_accepted : planCatalog.Accepted := ⟨.of planCatalog, by decide +kernel⟩

/-- What the clients write for that operation. -/
theorem plan_declares_types :
    planCatalog.Accepted ∧ ("plan", plan) ∈ operations planCatalog ∧
    DeclaresTypes planCatalog .production "https://api.schedulingapi.com/v1" "./types" "plan"
      plan := by
  have hmem : ("plan", plan) ∈ operations planCatalog := .head _
  exact ⟨planCatalog_accepted, hmem,
    registered_names_are_qualified_iff planCatalog .production _ "./types" _ hmem⟩

/-- A registered name stands bare in the functions of both clients: an enumeration by itself and a
domain type below two array layers in the body, and an array of an enumeration in the answer. -/
theorem nested_names_stand_bare :
    planCatalog.Accepted ∧ ("plan", plan) ∈ operations planCatalog ∧
    signature plan = "data: \x7b days: Types.DayOfWeek[]; guests?: Types.User[] | undefined; " ++
      "day: DayOfWeek; rounds: User[][] \x7d" ∧
    returnType plan = "Array<DayOfWeek>" ∧ Names plan.response.type.base "DayOfWeek" ∧
    ¬Qualified "DayOfWeek" (returnType plan) := by
  have hname : Names plan.response.type.base "DayOfWeek" := .enum .dayOfWeek
  have htype : returnType plan = "Array<DayOfWeek>" := by decide +kernel
  refine ⟨planCatalog_accepted, .head _, by decide +kernel, htype, hname, fun hqualified => ?_⟩
  exact hname.not_bare_of_qualified hqualified ⟨[.generic], htype⟩

end Client

end Scaffold
