import Scaffold.Catalog.Endpoint
import Scaffold.Json.Basic
import Scaffold.TypeScript.Comment
import Scaffold.TypeScript.Path
import Scaffold.TypeScript.StringLiteral

/-!
# Route bindings

A binding says what the handler of an operation does, whatever the framework: what it extracts
from the request and with which argument it calls the client. Templates differ in syntax only.
-/

namespace Scaffold.Route

/-- What a handler extracts from the request. -/
inductive Input where
  | none
  | query
  | body
  deriving DecidableEq, Repr

/-- The name of an input in templates. -/
def Input.name : Input → String
  | none => "none"
  | query => "query"
  | body => "body"

/-- The handler of an operation. -/
structure Binding where
  operation : String
  description : String
  method : HttpMethod
  path : String
  input : Input
  /-- The argument of the call of the client; empty if the method takes none. -/
  callArgs : String
  deriving DecidableEq, Repr

/-- The expression for a value of the query as a value of the kind of its parameter. -/
def queryValue (name : String) (p : Param) : String :=
  let raw := "query." ++ name
  match p.kind with
  | .string => if p.required then raw ++ " as string" else raw
  | .number => "Number(" ++ raw ++ ")"
  | .boolean => raw ++ " === 'true'"

/-- The member of the argument for a parameter. An optional one is spread in only if the query
has it. -/
def queryMember (name : String) (p : Param) : String :=
  if p.required then name ++ ": " ++ queryValue name p
  else
    "...(query." ++ name ++ " !== undefined ? \x7b " ++ name ++ ": " ++ queryValue name p ++
      " \x7d : \x7b\x7d)"

namespace Binding

/-- The handler of an operation. -/
def of (operation : String) (e : Endpoint) : Binding where
  operation := operation
  description := TypeScript.commentText e.description
  method := e.method
  path := e.path
  input :=
    match e.payload with
    | .none => .none
    | .query _ => .query
    | .body _ => .body
  callArgs :=
    match e.payload with
    | .none => ""
    | .query params =>
      "\x7b " ++ ", ".intercalate (params.entries.map fun (name, p) => queryMember name p) ++
        " \x7d"
    | .body _ => "body as Parameters<SchedulingClient['" ++ operation ++ "']>[0]"

/-- The path without the slashes in front. -/
def relativePath (b : Binding) : String := TypeScript.relativePath b.path

/-- A binding in the context of a template. -/
def toJson (b : Binding) : Json := .object [
  ("operation", .string b.operation),
  ("description", .string b.description),
  ("method", .string (Registry.name b.method)),
  ("verb", .string b.method.verb),
  ("decorator", .string b.method.decorator),
  ("path", .string b.path),
  ("relative_path", .string b.relativePath),
  ("path_literal", .string (TypeScript.quote b.path)),
  ("relative_path_literal", .string (TypeScript.quote b.relativePath)),
  ("input", .string b.input.name),
  ("call_args", .string b.callArgs)]

end Binding

end Scaffold.Route
