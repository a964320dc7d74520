/-!
# Registries

A registry is a closed family of values with names: the values in the order in which they are
listed everywhere, and the name of each. `find?` reads a name back.
-/

namespace Scaffold

/-- The values of a closed family in listing order, and their names. -/
class Registry (α : Type) where
  /-- Every value, in listing order. -/
  all : List α
  /-- The name of a value. -/
  name : α → String

namespace Registry

variable {α : Type} [Registry α]

/-- The value called `s`. -/
def find? (s : String) : Option α := all.find? fun a => name a == s

variable (α) in
/-- The names in listing order, separated by commas. -/
def nameList : String := ", ".intercalate ((all (α := α)).map name)

theorem name_of_find? {s : String} {a : α} (h : find? s = some a) : name a = s := by
  simpa using List.find?_some h

end Registry

end Scaffold
