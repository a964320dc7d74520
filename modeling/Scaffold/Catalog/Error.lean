import Scaffold.Catalog.Endpoint

/-!
# Ill-formed catalogs

The reasons for which a catalog that can be read is refused, and their wording.
-/

namespace Scaffold

/-- Why a catalog is refused. -/
inductive CatalogError where
  /-- An operation has both parameters and a body. -/
  | paramsAndBody (operation : String)
  /-- A body stands with a method that carries parameters. -/
  | bodyNotCarried (operation : String) (method : HttpMethod)
  /-- Parameters stand with a method that carries a body. -/
  | paramsNotCarried (operation : String) (method : HttpMethod)
  /-- A type definition is not for a domain type. -/
  | unknownDomain (name : String)
  /-- The name of an operation is no identifier. -/
  | invalidName (name : String)
  /-- The name of an operation is taken by the code around the operations. -/
  | memberName (name : String)
  /-- A path does not begin with a slash. -/
  | relativePath (operation path : String)
  /-- An earlier operation has the same path. -/
  | pathTaken (path operation : String)
  /-- The credential is not among the required headers. -/
  | missingApiKey (operation : String)
  /-- The content type is required without a body, or a body is sent without it. -/
  | contentTypeMismatch (operation : String)
  /-- The name of a parameter or field is no identifier. -/
  | invalidField (field operation : String)
  /-- A domain type has no definition. -/
  | undefinedDomain (domain : DomainType)
  deriving DecidableEq, Repr

/-- The wording of an error. -/
def CatalogError.message : CatalogError → String
  | .paramsAndBody op => "operation '" ++ op ++ "' declares both params and body"
  | .bodyNotCarried op m =>
    "operation '" ++ op ++ "' is a " ++ Registry.name m ++ " and cannot carry a body"
  | .paramsNotCarried op m =>
    "operation '" ++ op ++ "' is a " ++ Registry.name m ++ " and cannot carry query params"
  | .unknownDomain name => "Unknown domain type: " ++ name
  | .invalidName name => "operation name '" ++ name ++ "' is not a valid identifier"
  | .memberName name =>
    "operation name '" ++ name ++ "' clashes with a member of the generated code"
  | .relativePath op path =>
    "operation '" ++ op ++ "' has path '" ++ path ++ "' without a leading '/'"
  | .pathTaken path op =>
    "path '" ++ path ++ "' of operation '" ++ op ++ "' is already used by another operation"
  | .missingApiKey op => "operation '" ++ op ++ "' must require the " ++ apiKeyHeader ++ " header"
  | .contentTypeMismatch op =>
    "operation '" ++ op ++ "' must require " ++ contentTypeHeader ++
      " exactly when it sends a body"
  | .invalidField field op =>
    "field '" ++ field ++ "' of operation '" ++ op ++ "' is not a valid identifier"
  | .undefinedDomain d => "domain type '" ++ Registry.name d ++ "' has no definition"

end Scaffold
