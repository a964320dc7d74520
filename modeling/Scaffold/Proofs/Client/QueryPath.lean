import Scaffold.Catalog.Builtin
import Scaffold.Proofs.Catalog.Acceptance
import Scaffold.Proofs.Client.Request
import Scaffold.Proofs.TypeScript.TemplateLiteral

/-!
# The path of a query call

A call with query parameters names its path twice: raw, in the template literal that carries the
query, and quoted, for the case that there is no query. The main statement is
`query_call_requests_path_iff`: both clients write the same call, the quoted path is always read as
the path of the operation, and the template literal exactly if the path can be written into one as
it is. The rules for catalogs do not ask for that, so there are calls that request another path, or
that are not even calls: see `backtick_ends_query_call`.
-/

namespace Scaffold.Client

open TypeScript

/-! ## The call -/

/-- The expression whose value is the query. -/
def queryExpression (e : Endpoint) : String :=
  if e.method = .delete then "query.toString()" else "queryString"

/-- What stands between the backticks. -/
def querySource (e : Endpoint) : String := e.path ++ "?$\x7b" ++ queryExpression e ++ "\x7d"

/-- A call of a request wrapper up to the first backtick. -/
def callOpening (wrapper : String) (e : Endpoint) : String :=
  wrapper ++ "<" ++ returnType e ++ ">(" ++ (if e.method = .delete then "" else "queryString ? ") ++
    "`"

/-- A call of a request wrapper from behind the last backtick. -/
def callEnd (e : Endpoint) : String :=
  if e.method = .delete then ", \x7b method: 'DELETE' \x7d);" else " : " ++ quote e.path ++ ");"

/-- The call of a request wrapper for an operation with query parameters. -/
def queryCall (wrapper : String) (e : Endpoint) : String :=
  callOpening wrapper e ++ querySource e ++ "`" ++ callEnd e

section
variable {e : Endpoint} {params : Table Param}

/-- The arguments of the call are those that the clients write. -/
theorem queryCall_eq (hp : e.payload = .query params) (wrapper margin : String) :
    queryCall wrapper e = wrapper ++ "<" ++ returnType e ++ ">(" ++ arguments margin e ++ ");" := by
  by_cases hd : e.method = .delete
  · simp only [queryCall, callOpening, querySource, queryExpression, callEnd, arguments,
      Shape.of, hp, if_pos hd, String.append_assoc]
    simp only [← String.append_assoc, String.reduceAppend]
  · simp only [queryCall, callOpening, querySource, queryExpression, callEnd, arguments,
      Shape.of, hp, if_neg hd, String.append_assoc]
    simp only [← String.append_assoc, String.reduceAppend]

/-- The method of the direct client makes the call. -/
theorem exists_method_queryCall (hp : e.payload = .query params) (name : String) :
    ∃ front, method name e = front ++ "return " ++ queryCall "this.request" e ++ "\n  \x7d\n" := by
  refine ⟨docComment e.description 2 ++ "  async " ++ name ++ "(" ++ signature e ++
    "): Promise<" ++ returnType e ++ "> \x7b\n" ++ queryStatements "    " e ++ "    ", ?_⟩
  simp only [method, statements, queryCall_eq hp "this.request" "    ", String.append_assoc]
  simp only [← String.append_assoc, String.reduceAppend]

/-- The function of the proxy client makes the call. -/
theorem exists_proxyText_queryCall (hp : e.payload = .query params) (name : String) :
    ∃ front back, proxyText name e =
      front ++ "const result = " ++ queryCall "await proxyRequest" e ++ "\n  return " ++ back := by
  refine ⟨docComment e.description 0 ++ "export async function " ++ name ++ "(" ++ signature e ++
    "): Promise<" ++ returnType e ++ "> \x7b\n" ++ queryStatements "  " e ++ "  ",
    (if e.localizeTimes then "localizeTimes(result);" else "result;") ++ "\n\x7d", ?_⟩
  simp only [proxyText, proxyStatements, queryCall_eq hp "await proxyRequest" "  ",
    String.append_assoc]
  cases e.localizeTimes
  · simp only [Bool.false_eq_true, if_false, ← String.append_assoc, String.reduceAppend]
  · simp only [if_true, ← String.append_assoc, String.reduceAppend]

/-- The function of an operation stands in the module of the proxy client. -/
theorem exists_proxy_proxyText {c : Catalog} {name : String} (he : (name, e) ∈ c.endpoints.entries)
    (typesPath : String) :
    ∃ before behind, proxy c typesPath = .ok (before ++ proxyText name e ++ behind) := by
  obtain ⟨head, hproxy⟩ := exists_proxy typesPath
  obtain ⟨l, r, hsplit⟩ := List.append_of_mem he
  refine ⟨head ++ String.join (l.map fun p => "\n\n" ++ proxyText p.1 p.2) ++ "\n\n",
    String.join (r.map fun p => "\n\n" ++ proxyText p.1 p.2) ++ "\n", ?_⟩
  rw [hproxy, hsplit, List.map_append, List.map_cons, String.join_append, String.join_cons]
  simp only [String.append_assoc]

/-! ## How the call is read -/

/-- The expression has no braces, literals, comments or quotients in it. -/
theorem plain_queryExpression (e : Endpoint) :
    ∀ c ∈ (queryExpression e).toList, isPlainSource c = true := by
  rw [← List.all_eq_true, queryExpression]
  split <;> rfl

/-- The template literal of the call is read as it was meant exactly if the path can be written into
one as it is. -/
theorem readTemplate?_querySource_iff {after : List Char} :
    readTemplate? ((querySource e).toList ++ '`' :: after) =
      some (⟨units (e.path.toList ++ ['?']), [((queryExpression e).toList, [])]⟩, after) ↔
    StandsInTemplate e.path.toList := by
  have hsource : (querySource e).toList ++ '`' :: after = (e.path.toList ++ ['?']) ++
      '$' :: '\x7b' :: ((queryExpression e).toList ++ '\x7d' :: '`' :: after) := by
    simp [querySource]
  rw [hsource, readTemplate?_substitution_iff (plain_queryExpression e)]
  exact standsInTemplate_concat_iff (by decide) (by decide) (by decide) (by decide)

end

/-- What the clients of a catalog request for an operation with query parameters. -/
structure QueryCallReads (c : Catalog) (name : String) (e : Endpoint) (typesPath : String) :
    Prop where
  /-- The method of the direct client makes the call. -/
  direct : ∃ front, method name e =
    front ++ "return " ++ queryCall "this.request" e ++ "\n  \x7d\n"
  /-- So does the function of the proxy client. -/
  proxied : ∃ front back, proxyText name e =
    front ++ "const result = " ++ queryCall "await proxyRequest" e ++ "\n  return " ++ back
  /-- The module of the proxy client has that function. -/
  exported : ∃ before behind, proxy c typesPath = .ok (before ++ proxyText name e ++ behind)
  /-- The query is that of a GET or a DELETE call. -/
  carried : e.method = .get ∨ e.method = .delete
  /-- The quoted path is read as the path. -/
  quoted : ∀ after, readLiteral? ((quote e.path).toList ++ after) =
    some (units e.path.toList, after)
  /-- The template literal is read as the path, a question mark and the query, and ends with the
  second backtick of the call, exactly if the path can be written into it as it is. -/
  template : ∀ after, readTemplate? ((querySource e).toList ++ '`' :: after) =
      some (⟨units (e.path.toList ++ ['?']), [((queryExpression e).toList, [])]⟩, after) ↔
    StandsInTemplate e.path.toList

/-- In both clients, a call with query parameters requests the path of the operation exactly if the
path has no backtick, no backslash, no carriage return and no opening of a substitution. -/
theorem query_call_requests_path_iff {c : Catalog} (hc : c.Accepted) {name : String} {e : Endpoint}
    {params : Table Param} (he : (name, e) ∈ c.endpoints.entries) (hp : e.payload = .query params)
    (typesPath : String) : QueryCallReads c name e typesPath where
  direct := exists_method_queryCall hp name
  proxied := exists_proxyText_queryCall hp name
  exported := exists_proxy_proxyText he typesPath
  carried := hc.carries_query he hp
  quoted := readLiteral?_quote e.path
  template := fun _ => readTemplate?_querySource_iff

/-! ## A path that ends its literal -/

/-- The draft of an operation with one parameter. -/
def probeDraft (path : String) : EndpointDraft where
  path := path
  method := .get
  params := some ⟨[("id", ⟨.string, false, ""⟩)], by simp⟩
  response := ⟨.scalar .string, ""⟩
  requiredHeaders := [apiKeyHeader]

/-- The operation. -/
def probe (path : String) : Endpoint where
  path := path
  method := .get
  description := ""
  payload := .query ⟨[("id", ⟨.string, false, ""⟩)], by simp⟩
  response := ⟨.scalar .string, ""⟩
  requiredHeaders := [apiKeyHeader]
  localizeTimes := false

/-- The draft of a catalog with that operation alone. -/
def probeCatalogDraft (path : String) : CatalogDraft where
  types := ⟨Catalog.Builtin.types.map fun t => (Registry.name t.domain, ⟨t.description, t.fields⟩),
    by decide⟩
  endpoints := ⟨[("probe", probeDraft path)], by simp⟩

/-- The catalog with that operation alone. -/
def probeCatalog (path : String) : Catalog :=
  ⟨⟨[("probe", probe path)], by simp⟩, Catalog.Builtin.types⟩

/-- The call of an ordinary path. -/
theorem query_call_reads_slots :
    (probeCatalog "/slots").Accepted ∧
    ("probe", probe "/slots") ∈ (probeCatalog "/slots").endpoints.entries ∧
    (probe "/slots").payload = .query ⟨[("id", ⟨.string, false, ""⟩)], by simp⟩ ∧
    QueryCallReads (probeCatalog "/slots") "probe" (probe "/slots") "./types" := by
  have haccepted : (probeCatalog "/slots").Accepted := ⟨probeCatalogDraft "/slots", rfl⟩
  have hmem : ("probe", probe "/slots") ∈ (probeCatalog "/slots").endpoints.entries := .head _
  exact ⟨haccepted, hmem, rfl, query_call_requests_path_iff haccepted hmem rfl "./types"⟩

/-- A backtick in the path of an accepted catalog ends the template literal of the call. The text is
read up to there, and no expression follows. -/
theorem backtick_ends_query_call :
    (probeCatalog "/a`b").Accepted ∧
    ("probe", probe "/a`b") ∈ (probeCatalog "/a`b").endpoints.entries ∧
    method "probe" (probe "/a`b") =
      "  async probe(params: \x7b id?: string | undefined \x7d = \x7b\x7d)" ++
      ": Promise<string> \x7b\n" ++ queryStatements "    " (probe "/a`b") ++
      "    return this.request<string>(queryString ? `" ++
      querySource (probe "/a`b") ++ "`" ++ callEnd (probe "/a`b") ++ "\n  \x7d\n" ∧
    readTemplate? (querySource (probe "/a`b") ++ "`" ++ callEnd (probe "/a`b")).toList =
      some (⟨units ['/', 'a'], []⟩,
        ("b?$\x7bqueryString\x7d`" ++ callEnd (probe "/a`b")).toList) :=
  ⟨⟨probeCatalogDraft "/a`b", rfl⟩, .head _, by decide +kernel, by decide +kernel⟩

end Scaffold.Client
