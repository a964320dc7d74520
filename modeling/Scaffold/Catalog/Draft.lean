import Scaffold.Catalog.Basic
import Scaffold.Catalog.Error
import Scaffold.TypeScript.Identifier

/-!
# Drafts of catalogs

A draft is a catalog as it is written down: parameters and body side by side, type definitions
under any name. `Catalog.ofDraft` accepts the well-formed ones. An empty table of parameters or
body fields counts as absent. Of several faults the first in this order is reported: the payloads
in the order of the operations, the names of the type definitions, the other rules operation by
operation, and last the domain types without a definition.
-/

namespace Scaffold

/-- An operation as it is written down. -/
structure EndpointDraft where
  path : String
  method : HttpMethod
  description : String := ""
  params : Option (Table Param) := none
  body : Option (Table Field) := none
  response : Response
  requiredHeaders : List String := []
  localizeTimes : Bool := false

/-- The definition of a type as it is written down. -/
structure TypeDraft where
  description : String := ""
  fields : Table Field

/-- A catalog as it is written down. -/
structure CatalogDraft where
  types : Table TypeDraft
  endpoints : Table EndpointDraft

namespace EndpointDraft

/-- A table unless it is empty. -/
def present {α : Type} : Option (Table α) → Option (Table α)
  | some t => if t.isEmpty then none else some t
  | none => none

/-- The payload of the operation called `name`: parameters with a method that carries a query, a
body with the others, never both. -/
def payload (name : String) (d : EndpointDraft) : Except CatalogError Payload :=
  match d.method.usesQuery, present d.params, present d.body with
  | _, some _, some _ => .error (.paramsAndBody name)
  | true, some params, none => .ok (.query params)
  | false, none, some fields => .ok (.body fields)
  | true, none, some _ => .error (.bodyNotCarried name d.method)
  | false, some _, none => .error (.paramsNotCarried name d.method)
  | _, none, none => .ok .none

/-- The operation called `name`. -/
def resolve (name : String) (d : EndpointDraft) : Except CatalogError Endpoint :=
  (d.payload name).map fun payload =>
    { path := d.path
      method := d.method
      description := d.description
      payload := payload
      response := d.response
      requiredHeaders := d.requiredHeaders
      localizeTimes := d.localizeTimes }

end EndpointDraft

/-- The definition of the domain type called `name`. -/
def TypeDraft.resolve (name : String) (d : TypeDraft) : Except CatalogError TypeDefinition :=
  match (Registry.find? name : Option DomainType) with
  | some domain => .ok ⟨domain, d.description, d.fields⟩
  | none => .error (.unknownDomain name)

namespace Catalog

/-- The names that generated modules define or use next to the operations. -/
def memberNames : List String := [
  "constructor", "request", "apiKey", "baseUrl", "proxyRequest", "localizeTimes",
  "toLocalIsoString", "pad", "PROXY_PREFIX", "ISO_UTC_TIMESTAMP", "SchedulingProxyError", "Types",
  "client", "schedulingService"]

/-- Checks an operation, given the paths of those before it. -/
def checkEndpoint (taken : List String) (name : String) (e : Endpoint) :
    Except CatalogError Unit :=
  if !TypeScript.isIdentifier name then .error (.invalidName name)
  else if memberNames.contains name then .error (.memberName name)
  else if e.path.toList.head? != some '/' then .error (.relativePath name e.path)
  else if taken.contains e.path then .error (.pathTaken e.path name)
  else if !e.hasHeader apiKeyHeader then .error (.missingApiKey name)
  else if e.payload.isBody != e.hasHeader contentTypeHeader then
    .error (.contentTypeMismatch name)
  else
    match e.payload.names.find? fun field => !TypeScript.isIdentifier field with
    | some field => .error (.invalidField field name)
    | none => .ok ()

/-- Checks operations in order, given the paths of those before them. -/
def checkEndpoints (taken : List String) : List (String × Endpoint) → Except CatalogError Unit
  | [] => .ok ()
  | (name, e) :: rest =>
    match checkEndpoint taken name e with
    | .error err => .error err
    | .ok () => checkEndpoints (e.path :: taken) rest

/-- The first domain type without a definition. -/
def undefined? (types : List TypeDefinition) : Option DomainType :=
  Registry.all.find? fun d => !(types.any fun t => t.domain == d)

/-- The catalog of a well-formed draft. -/
def ofDraft (d : CatalogDraft) : Except CatalogError Catalog := do
  let endpoints ← d.endpoints.traverse EndpointDraft.resolve
  let types ← d.types.entries.mapM fun e => TypeDraft.resolve e.1 e.2
  checkEndpoints [] endpoints.entries
  match undefined? types with
  | some domain => .error (.undefinedDomain domain)
  | none => .ok ⟨endpoints, types⟩

end Catalog

end Scaffold
