import Scaffold.Catalog.Endpoint

/-!
# Types of the catalog in generated code

Domain types live in a module that clients import as `Types`, so `projectType` qualifies them and
arrays of them; every other expression keeps its spelling in the catalog. A body field qualifies
arrays of enumerations as well. What is optional also admits `undefined`.
-/

namespace Scaffold.TypeScript

/-- The name under which clients import the module of domain types. -/
def typesNamespace : String := "Types"

/-- A name of the module of domain types, as seen from outside or from inside of it. -/
def qualify (name : String) (namespaced : Bool) : String :=
  if namespaced then typesNamespace ++ "." ++ name else name

/-- A type expression in generated code. -/
def projectType (namespaced : Bool) : TypeExpr → String
  | .domain d => qualify (Registry.name d) namespaced
  | .array (.domain d) _ => qualify (Registry.name d) namespaced ++ "[]"
  | e => e.text

/-- A type that admits `undefined` unless it is required. -/
def orUndefined (required : Bool) (type : String) : String :=
  if required then type else type ++ " | undefined"

/-- The type of a field. -/
def fieldType (namespaced : Bool) (required : Bool) : TypeExpr → String
  | .array (.enum e) _ => orUndefined required (qualify (Registry.name e) namespaced ++ "[]")
  | e => orUndefined required (projectType namespaced e)

/-- The type of a query parameter. -/
def paramType (p : Param) : String := orUndefined p.required (Registry.name p.kind)

/-- The type of a body field. -/
def bodyType (namespaced : Bool) (f : Field) : String := fieldType namespaced f.required f.type

/-- A member of an object type. -/
def member (name : String) (required : Bool) (type : String) : String :=
  name ++ (if required then "" else "?") ++ ": " ++ type

/-- An object type on one line. -/
def objectType (members : List String) : String :=
  "\x7b " ++ "; ".intercalate members ++ " \x7d"

/-- The object type of a table of parameters. -/
def paramsObjectType (params : Table Param) : String :=
  objectType (params.entries.map fun (name, p) => member name p.required (paramType p))

/-- The object type of a table of body fields. -/
def bodyObjectType (fields : Table Field) : String :=
  objectType (fields.entries.map fun (name, f) => member name f.required (bodyType true f))

/-- A member of an interface in the module of domain types. -/
def interfaceMember (name : String) (f : Field) : String :=
  member name f.required (fieldType false true f.type) ++ ";"

end Scaffold.TypeScript
