import Scaffold.Catalog.Endpoint

/-!
# Catalogs

A catalog holds the operations of the API under their names and the definitions of the domain
types. The order of the operations is the order of everything that is generated from them.
-/

namespace Scaffold

/-- The fields of a domain type. -/
structure TypeDefinition where
  domain : DomainType
  description : String
  fields : Table Field
  deriving DecidableEq

/-- The operations of the API and its domain types. -/
structure Catalog where
  endpoints : Table Endpoint
  types : List TypeDefinition
  deriving DecidableEq

/-- A row of the listing of a catalog. -/
structure EndpointSummary where
  name : String
  method : HttpMethod
  path : String
  description : String
  parameters : List String
  response : String
  deriving DecidableEq, Repr

namespace Catalog

/-- The operation called `name`. -/
def get? (c : Catalog) (name : String) : Option Endpoint := c.endpoints.get? name

/-- The names of the operations, in order. -/
def names (c : Catalog) : List String := c.endpoints.names

/-- The number of operations. -/
def size (c : Catalog) : Nat := c.endpoints.size

/-- The row of an operation in the listing. -/
def summary (name : String) (e : Endpoint) : EndpointSummary where
  name := name
  method := e.method
  path := e.path
  description := e.description
  parameters := e.payload.names
  response := e.response.description

/-- The listing of the operations, in order. -/
def summaries (c : Catalog) : List EndpointSummary :=
  c.endpoints.entries.map fun e => summary e.1 e.2

end Catalog

end Scaffold
