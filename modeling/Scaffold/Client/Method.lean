import Scaffold.TypeScript.Comment
import Scaffold.TypeScript.Projection
import Scaffold.TypeScript.StringLiteral

/-!
# Client methods

An operation becomes one method of the direct client and one function of the proxy client. Its
shape says what it takes and how the request is put together: from query parameters that may be
left out, from query parameters that are all sent, from a body, or from nothing.
-/

namespace Scaffold.Client

/-- What a method takes. -/
inductive Shape where
  /-- Parameters of which the absent ones are left out of the query. -/
  | queryGet (params : Table Param)
  /-- Parameters that are all sent. -/
  | queryDelete (params : Table Param)
  | body (fields : Table Field)
  | noArgs
  deriving DecidableEq

namespace Shape

/-- The shape of the method for an operation. -/
def of (e : Endpoint) : Shape :=
  match e.payload with
  | .query params => if e.method = .delete then queryDelete params else queryGet params
  | .body fields => body fields
  | .none => noArgs

/-- The name of a shape in templates. -/
def name : Shape → String
  | queryGet _ => "query-get"
  | queryDelete _ => "query-delete"
  | body _ => "body"
  | noArgs => "no-args"

end Shape

/-- The parameter list of a method. An object of parameters that may all be left out may be left
out itself, unless all are sent. -/
def signature (e : Endpoint) : String :=
  match Shape.of e with
  | .queryGet params =>
    "params: " ++ TypeScript.paramsObjectType params ++
      (if params.values.all fun p => !p.required then " = \x7b\x7d" else "")
  | .queryDelete params => "params: " ++ TypeScript.paramsObjectType params
  | .body fields => "data: " ++ TypeScript.bodyObjectType fields
  | .noArgs => ""

/-- What a method answers. -/
def returnType (e : Endpoint) : String := TypeScript.projectType true e.response.type

/-- The statements that collect the query, each behind a margin and ended. -/
def queryStatements (margin : String) (e : Endpoint) : String :=
  match Shape.of e with
  | .queryGet _ =>
    margin ++ "const query = new URLSearchParams();\n" ++
    margin ++ "for (const [key, value] of Object.entries(params)) \x7b\n" ++
    margin ++ "  if (value !== undefined) \x7b\n" ++
    margin ++ "    query.append(key, String(value));\n" ++
    margin ++ "  \x7d\n" ++
    margin ++ "\x7d\n" ++
    margin ++ "const queryString = query.toString();\n"
  | .queryDelete _ =>
    margin ++ "const query = new URLSearchParams();\n" ++
    margin ++ "for (const [key, value] of Object.entries(params)) \x7b\n" ++
    margin ++ "  query.append(key, String(value));\n" ++
    margin ++ "\x7d\n"
  | .body _ | .noArgs => ""

/-- What is passed on to the request wrapper. New lines stand behind a margin. -/
def arguments (margin : String) (e : Endpoint) : String :=
  let literal := TypeScript.quote e.path
  match Shape.of e with
  | .queryGet _ => "queryString ? `" ++ e.path ++ "?$\x7bqueryString\x7d` : " ++ literal
  | .queryDelete _ => "`" ++ e.path ++ "?$\x7bquery.toString()\x7d`, \x7b method: 'DELETE' \x7d"
  | .body _ =>
    literal ++ ", \x7b\n" ++
    margin ++ "  method: '" ++ Registry.name e.method ++ "',\n" ++
    margin ++ "  body: JSON.stringify(data),\n" ++
    margin ++ "\x7d"
  | .noArgs =>
    if e.method = .get then literal
    else literal ++ ", \x7b method: '" ++ Registry.name e.method ++ "' \x7d"

/-- The statements of a method, each line indented and ended. -/
def statements (e : Endpoint) : String :=
  queryStatements "    " e ++
    "    return this.request<" ++ returnType e ++ ">(" ++ arguments "    " e ++ ");\n"

/-- The method of the direct client for an operation. -/
def method (name : String) (e : Endpoint) : String :=
  TypeScript.docComment e.description 2 ++
    "  async " ++ name ++ "(" ++ signature e ++ "): Promise<" ++ returnType e ++ "> \x7b\n" ++
    statements e ++
    "  \x7d\n"

end Scaffold.Client
