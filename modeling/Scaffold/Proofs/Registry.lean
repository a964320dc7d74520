import Scaffold.Catalog.Method
import Scaffold.Settings.Environment
import Scaffold.Settings.Framework
import Scaffold.TypeExpr.Basic

/-!
# Registries whose names can be read back

A registry is lawful if it lists every value and no two values share a name. Then reading a name
back (`Registry.find?`) finds the one value of that name, which `Registry.find?_eq_some_iff` states
for all lawful registries at once.
-/

namespace Scaffold

/-- A registry that lists all values, under names of their own. -/
class LawfulRegistry (α : Type) [Registry α] : Prop where
  mem_all : ∀ a : α, a ∈ Registry.all
  name_injective : ∀ a b : α, Registry.name a = Registry.name b → a = b

instance : LawfulRegistry DomainType where
  mem_all a := by cases a <;> decide
  name_injective a b := by cases a <;> cases b <;> decide

instance : LawfulRegistry EnumType where
  mem_all a := by cases a; decide
  name_injective a b _ := by cases a; cases b; rfl

instance : LawfulRegistry Scalar where
  mem_all a := by cases a <;> decide
  name_injective a b := by cases a <;> cases b <;> decide

instance : LawfulRegistry HttpMethod where
  mem_all m := by cases m <;> decide
  name_injective m n := by cases m <;> cases n <;> decide

instance : LawfulRegistry Environment where
  mem_all e := by cases e <;> decide
  name_injective e f := by cases e <;> cases f <;> decide

instance : LawfulRegistry Framework where
  mem_all f := by cases f <;> decide
  name_injective f g := by cases f <;> cases g <;> decide

namespace Registry

variable {α : Type} [Registry α] [LawfulRegistry α]

/-- A text is read as the value that it names. -/
theorem find?_eq_some_iff {s : String} {a : α} : find? s = some a ↔ name a = s := by
  refine ⟨name_of_find?, ?_⟩
  rintro rfl
  cases h : (find? (name a) : Option α) with
  | none =>
    have hn := List.find?_eq_none.1 h a (LawfulRegistry.mem_all a)
    simp at hn
  | some b => rw [LawfulRegistry.name_injective b a (name_of_find? h)]

/-- A text that names no value is not read. -/
theorem find?_eq_none_iff {s : String} : (find? s : Option α) = none ↔ ∀ a : α, name a ≠ s := by
  rw [Option.eq_none_iff_forall_ne_some]
  exact forall_congr' fun a => not_congr find?_eq_some_iff

end Registry

end Scaffold
