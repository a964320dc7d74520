import Scaffold.Proofs.Client.Request

/-!
# Outlines of client functions

Both clients have a function for every operation, one put together from texts and the other rendered
from a template. An `Outline` is what the two have in common: the comment, the parameters, the
return type, the statements that collect the query and the arguments of the request wrapper, line by
line. `Outline.direct` and `Outline.proxied` lay it out; they differ in the keywords, the wrapper,
the margin and the last statement. The main statement is `clients_share_outlines`: every function of
either client is laid out from the outline of its operation.
-/

namespace Scaffold.Client

/-! ## Layouts -/

/-- What the functions of the two clients for an operation have in common. -/
structure Outline where
  name : String
  /-- The text of the documentation comment; if it is empty there is none. -/
  comment : String
  parameters : String
  returnType : String
  /-- The lines of the statements that collect the query. -/
  query : List String
  /-- The lines of what is passed on to the request wrapper. -/
  arguments : List String

namespace Outline

/-- The documentation comment behind a margin. -/
def commentLine (margin : String) (o : Outline) : String :=
  if o.comment = "" then "" else margin ++ "/** " ++ o.comment ++ " */\n"

/-- The declaration of a function from its name to the brace that opens its body. -/
def declaration (o : Outline) : String :=
  o.name ++ "(" ++ o.parameters ++ "): Promise<" ++ o.returnType ++ "> \x7b\n"

/-- The statements that collect the query, every line behind a margin. -/
def collection (margin : String) (o : Outline) : String :=
  String.join (o.query.map fun line => margin ++ line ++ "\n")

/-- A call of a request wrapper, every line but the first behind a margin. -/
def call (wrapper margin : String) (o : Outline) : String :=
  wrapper ++ "<" ++ o.returnType ++ ">(" ++ ("\n" ++ margin).intercalate o.arguments ++ ");"

/-- The method of the direct client. -/
def direct (o : Outline) : String :=
  o.commentLine "  " ++ "  async " ++ o.declaration ++ o.collection "    " ++
    "    return " ++ o.call "this.request" "    " ++ "\n  \x7d\n"

/-- The last statement of a function of the proxy client, with what stands around it. -/
def ending (localize : Bool) : String :=
  (if localize then "\n  return localizeTimes(result);" else "\n  return result;") ++ "\n\x7d"

/-- The function of the proxy client. -/
def proxied (localize : Bool) (o : Outline) : String :=
  o.commentLine "" ++ "export async function " ++ o.declaration ++ o.collection "  " ++
    "  const result = await " ++ o.call "proxyRequest" "  " ++ ending localize

end Outline

/-! ## The outline of an operation -/

/-- The lines of the statements that collect the query. -/
def queryLines (e : Endpoint) : List String :=
  match Shape.of e with
  | .queryGet _ => [
    "const query = new URLSearchParams();",
    "for (const [key, value] of Object.entries(params)) \x7b",
    "  if (value !== undefined) \x7b",
    "    query.append(key, String(value));",
    "  \x7d",
    "\x7d",
    "const queryString = query.toString();"]
  | .queryDelete _ => [
    "const query = new URLSearchParams();",
    "for (const [key, value] of Object.entries(params)) \x7b",
    "  query.append(key, String(value));",
    "\x7d"]
  | .body _ | .noArgs => []

/-- The lines of what is passed on to the request wrapper. Only a body takes more than one. -/
def argumentLines (e : Endpoint) : List String :=
  match Shape.of e with
  | .queryGet _ =>
    ["queryString ? `" ++ e.path ++ "?$\x7bqueryString\x7d` : " ++ TypeScript.quote e.path]
  | .queryDelete _ =>
    ["`" ++ e.path ++ "?$\x7bquery.toString()\x7d`, \x7b method: 'DELETE' \x7d"]
  | .body _ => [
    TypeScript.quote e.path ++ ", \x7b",
    "  method: '" ++ Registry.name e.method ++ "',",
    "  body: JSON.stringify(data),",
    "\x7d"]
  | .noArgs =>
    if e.method = .get then [TypeScript.quote e.path]
    else [TypeScript.quote e.path ++ ", \x7b method: '" ++ Registry.name e.method ++ "' \x7d"]

/-- The outline of the functions for an operation. -/
def Outline.of (name : String) (e : Endpoint) : Outline where
  name := name
  comment := TypeScript.commentText e.description
  parameters := signature e
  returnType := Client.returnType e
  query := queryLines e
  arguments := argumentLines e

section
variable (margin name : String) (e : Endpoint)

/-- A documentation comment stands behind as many blanks as its margin has. -/
theorem commentLine_of (indent : Nat) :
    (Outline.of name e).commentLine (String.ofList (List.replicate indent ' ')) =
      TypeScript.docComment e.description indent := by
  rw [Outline.commentLine, Outline.of, TypeScript.docComment]
  by_cases hempty : TypeScript.commentText e.description = ""
  · simp only [hempty, if_true]
    rfl
  · simp only [if_neg hempty, String.isEmpty_iff]

/-- The statements that collect the query are their lines. -/
theorem collection_of : (Outline.of name e).collection margin = queryStatements margin e := by
  simp only [Outline.collection, Outline.of, queryLines, queryStatements]
  cases Shape.of e with
  | queryGet | queryDelete =>
    simp only [List.map_cons, List.map_nil, String.join_cons, String.join_nil, String.append_assoc,
      String.append_empty]
    simp only [← String.append_assoc, String.reduceAppend]
  | body | noArgs => rfl

/-- The arguments of the request wrapper are their lines. -/
theorem intercalate_argumentLines :
    ("\n" ++ margin).intercalate (argumentLines e) = arguments margin e := by
  simp only [argumentLines, arguments]
  cases Shape.of e with
  | queryGet | queryDelete => rw [String.intercalate_singleton]
  | body =>
    simp only [String.intercalate_cons_cons, String.intercalate_singleton, String.append_assoc]
    simp only [← String.append_assoc, String.reduceAppend]
  | noArgs =>
    by_cases h : e.method = .get
    · simp only [if_pos h, String.intercalate_singleton]
    · simp only [if_neg h, String.intercalate_singleton]

/-- A method of the direct client is laid out from the outline of its operation. -/
theorem method_eq_direct : method name e = (Outline.of name e).direct := by
  have hcomment : (Outline.of name e).commentLine "  " = _ := commentLine_of name e 2
  rw [Outline.direct, hcomment, collection_of]
  simp only [method, statements, Outline.declaration, Outline.call, Outline.of,
    intercalate_argumentLines, String.append_assoc]
  simp only [← String.append_assoc, String.reduceAppend]

/-- So is a function of the proxy client. -/
theorem proxyText_eq_proxied :
    proxyText name e = (Outline.of name e).proxied e.localizeTimes := by
  have hcomment : (Outline.of name e).commentLine "" = _ := commentLine_of name e 0
  rw [Outline.proxied, hcomment, collection_of]
  simp only [proxyText, proxyStatements, Outline.declaration, Outline.call, Outline.ending,
    Outline.of, intercalate_argumentLines, String.append_assoc]
  simp only [← String.append_assoc, String.reduceAppend]

end

/-! ## Both clients -/

/-- The last statement of a function of the proxy client tells whether times are localized. -/
theorem Outline.ends_iff (o : Outline) (localize localize' : Bool) :
    (∃ front, o.proxied localize = front ++ ending localize') ↔ localize = localize' := by
  constructor
  · rintro ⟨front, h⟩
    have hsuffix : (ending localize').toList <:+ (o.proxied localize).toList := by
      rw [h, String.toList_append]
      exact List.suffix_append _ _
    rw [proxied, String.toList_append] at hsuffix
    -- the two endings are of different length, and the shorter one does not end the longer one
    cases localize <;> cases localize'
    · rfl
    · exact absurd (List.suffix_of_suffix_length_le (List.suffix_append _ _) hsuffix (by decide))
        (by decide)
    · exact absurd (List.suffix_of_suffix_length_le hsuffix (List.suffix_append _ _) (by decide))
        (by decide)
    · rfl
  · rintro rfl
    exact ⟨_, rfl⟩

/-- Every function of either client is laid out from the outline of its operation: the functions of
the proxy client stand one behind the other, in the order of the catalog, behind a text that depends
on the import path alone, and end by localizing times exactly if the operation asks for that. -/
theorem clients_share_outlines (typesPath : String) :
    (∀ name e, method name e = (Outline.of name e).direct) ∧
    (∃ head, ∀ c : Catalog, proxy c typesPath = .ok (head ++ String.join (c.endpoints.entries.map
      fun p => "\n\n" ++ (Outline.of p.1 p.2).proxied p.2.localizeTimes) ++ "\n")) ∧
    ∀ (o : Outline) (localize : Bool),
      ((∃ front, o.proxied localize = front ++ "\n  return localizeTimes(result);\n\x7d") ↔
        localize = true) ∧
      ((∃ front, o.proxied localize = front ++ "\n  return result;\n\x7d") ↔
        localize = false) := by
  refine ⟨method_eq_direct, ?_,
    fun o localize => ⟨o.ends_iff localize true, o.ends_iff localize false⟩⟩
  obtain ⟨head, hproxy⟩ := exists_proxy typesPath
  refine ⟨head, fun c => ?_⟩
  simp only [hproxy c, proxyText_eq_proxied]

end Scaffold.Client
