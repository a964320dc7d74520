import Scaffold.Catalog.Basic
import Scaffold.Client.Method
import Scaffold.Settings.Environment
import Scaffold.Template.Builtin

/-!
# Modules of the clients

The context of each of the three client templates: the direct client, the proxy client, and the
module of domain types that both import.
-/

namespace Scaffold.Client

open Template (Scope)

/-- The first line of every generated file. -/
def generatedHeader : String :=
  "// Generated by schedgen from the scheduling API catalog. Do not edit by hand."

/-- The path below which route handlers are served and the proxy client calls them. -/
def routePrefix : String := "/api/scheduling"

/-- The methods of the direct client in one text, which ends with its last brace. -/
def methods (c : Catalog) : String :=
  Text.trimEnd ("\n".intercalate (c.endpoints.entries.map fun (name, e) => method name e))

/-- The context of the direct client. -/
def directContext (c : Catalog) (environment : Environment) (baseUrl typesPath : String) :
    Scope := [
  ("header", .string generatedHeader),
  ("types_import_path", .string (TypeScript.quote typesPath)),
  ("environment", .string (Registry.name environment)),
  ("default_base_url", .string (TypeScript.quote baseUrl)),
  ("base_url_env", .string baseUrlVariable),
  ("api_key_header", .string apiKeyHeader),
  ("methods", .string (methods c))]

/-- The module of the direct client. -/
def direct (c : Catalog) (environment : Environment) (baseUrl typesPath : String) :
    Except Template.RenderError String :=
  Template.Name.directClient.render (directContext c environment baseUrl typesPath)

/-- What the proxy client has to know of an operation. -/
def proxyFunction (name : String) (e : Endpoint) : Json := .object [
  ("name", .string name),
  ("description", .string (TypeScript.commentText e.description)),
  ("signature", .string (signature e)),
  ("return_type", .string (returnType e)),
  ("shape", .string (Shape.of e).name),
  ("method", .string (Registry.name e.method)),
  ("path", .string e.path),
  ("path_literal", .string (TypeScript.quote e.path)),
  ("localize_times", .bool e.localizeTimes)]

/-- The context of the proxy client. -/
def proxyContext (c : Catalog) (typesPath : String) : Scope := [
  ("header", .string generatedHeader),
  ("types_import_path", .string (TypeScript.quote typesPath)),
  ("route_prefix", .string (TypeScript.quote routePrefix)),
  ("functions", .array (c.endpoints.entries.map fun (name, e) => proxyFunction name e))]

/-- The module of the proxy client. -/
def proxy (c : Catalog) (typesPath : String) : Except Template.RenderError String :=
  Template.Name.proxyClient.render (proxyContext c typesPath)

/-- The union of the members of an enumeration. -/
def enumAlias (e : EnumType) : Json := .object [
  ("name", .string (Registry.name e)),
  ("union", .string (" | ".intercalate (e.members.map TypeScript.quote)))]

/-- A line of an interface. -/
def interfaceLine (name : String) (f : Field) : Json := .object [
  ("description", .string (TypeScript.commentText f.description)),
  ("line", .string (TypeScript.interfaceMember name f))]

/-- The interface of a domain type. -/
def interface (t : TypeDefinition) : Json := .object [
  ("name", .string (Registry.name t.domain)),
  ("description", .string (TypeScript.commentText t.description)),
  ("members", .array (t.fields.entries.map fun (name, f) => interfaceLine name f))]

/-- The context of the module of domain types. -/
def typesContext (c : Catalog) : Scope := [
  ("header", .string generatedHeader),
  ("enums", .array ((Registry.all (α := EnumType)).map enumAlias)),
  ("interfaces", .array (c.types.map interface))]

/-- The module of domain types. -/
def types (c : Catalog) : Except Template.RenderError String :=
  Template.Name.typesModule.render (typesContext c)

end Scaffold.Client
