import Scaffold.Registry

/-!
# Type expressions

The types that a catalog may give to a field or a response: the three scalars, the registered
domain types and enumerations, arrays in two spellings, and two forms that are carried verbatim,
bare names and inline structural literals.
-/

namespace Scaffold

/-- The business entities that generated code refers to by name. -/
inductive DomainType where
  | user
  | availability
  | recurringAvailability
  | availabilityException
  | booking
  | account
  deriving DecidableEq, Repr

instance : Registry DomainType where
  all := [.user, .availability, .recurringAvailability, .availabilityException, .booking, .account]
  name
    | .user => "User"
    | .availability => "Availability"
    | .recurringAvailability => "RecurringAvailability"
    | .availabilityException => "AvailabilityException"
    | .booking => "Booking"
    | .account => "Account"

/-- The unions of string literals that are exported next to the domain types. -/
inductive EnumType where
  | dayOfWeek
  deriving DecidableEq, Repr

instance : Registry EnumType where
  all := [.dayOfWeek]
  name
    | .dayOfWeek => "DayOfWeek"

/-- The members of the union, in declaration order. -/
def EnumType.members : EnumType → List String
  | .dayOfWeek =>
    ["monday", "tuesday", "wednesday", "thursday", "friday", "saturday", "sunday"]

/-- The primitive types. -/
inductive Scalar where
  | string
  | number
  | boolean
  deriving DecidableEq, Repr

instance : Registry Scalar where
  all := [.string, .number, .boolean]
  name
    | .string => "string"
    | .number => "number"
    | .boolean => "boolean"

/-- The spelling of an array type: `Element[]` or `Array<Element>`. -/
inductive ArrayStyle where
  | suffix
  | generic
  deriving DecidableEq, Repr

/-- A type expression of the catalog. -/
inductive TypeExpr where
  | scalar (s : Scalar)
  | domain (d : DomainType)
  | enum (e : EnumType)
  /-- Any other name or union, carried verbatim. -/
  | named (text : String)
  | array (element : TypeExpr) (style : ArrayStyle)
  /-- A structural literal in braces, carried verbatim. -/
  | inline (text : String)
  deriving DecidableEq, Repr

namespace TypeExpr

/-- The spelling of an expression in the catalog, without superfluous blanks. -/
def text : TypeExpr → String
  | scalar s => Registry.name s
  | domain d => Registry.name d
  | enum e => Registry.name e
  | named t => t
  | inline t => t
  | array e .suffix => e.text ++ "[]"
  | array e .generic => "Array<" ++ e.text ++ ">"

/-- The domain type that an expression is, or is an array of. -/
def domain? : TypeExpr → Option DomainType
  | domain d => some d
  | array (domain d) _ => some d
  | _ => none

/-- The styles of the array layers, outermost first. -/
def layers : TypeExpr → List ArrayStyle
  | array e style => style :: e.layers
  | _ => []

/-- The expression below every array layer. -/
def base : TypeExpr → TypeExpr
  | array e _ => e.base
  | e => e

end TypeExpr

end Scaffold
