import Scaffold.Catalog.Method
import Scaffold.Table
import Scaffold.TypeExpr.Basic

/-!
# Endpoints

An endpoint describes one operation of the API: where it is called, what a call sends besides its
path, what comes back, and which headers it needs.
-/

namespace Scaffold

/-- A query parameter. -/
structure Param where
  kind : Scalar
  required : Bool := false
  description : String := ""
  deriving DecidableEq, Repr

/-- A field of a body or of a domain type. -/
structure Field where
  type : TypeExpr
  required : Bool := false
  description : String := ""
  deriving DecidableEq, Repr

/-- What an operation answers. -/
structure Response where
  type : TypeExpr
  description : String := ""
  deriving DecidableEq, Repr

/-- What a call sends besides its path. -/
inductive Payload where
  | none
  | query (params : Table Param)
  | body (fields : Table Field)
  deriving DecidableEq

/-- The names of the parameters or fields, in declaration order. -/
def Payload.names : Payload → List String
  | .none => []
  | .query params => params.names
  | .body fields => fields.names

/-- Whether a JSON body is sent. -/
def Payload.isBody : Payload → Bool
  | .body _ => true
  | _ => false

/-- The header that carries the credential of the caller. -/
def apiKeyHeader : String := "x-api-key"

/-- The header that has to stand with a JSON body. -/
def contentTypeHeader : String := "Content-Type"

/-- An operation of the API. -/
structure Endpoint where
  path : String
  method : HttpMethod
  description : String
  payload : Payload
  response : Response
  requiredHeaders : List String
  /-- Whether answers pass through the time zone localization of the proxy client. -/
  localizeTimes : Bool
  deriving DecidableEq

/-- Whether a header is required; header names are equal up to the case of ASCII letters. -/
def Endpoint.hasHeader (e : Endpoint) (header : String) : Bool :=
  e.requiredHeaders.any fun h => Text.sameLetters h header

end Scaffold
