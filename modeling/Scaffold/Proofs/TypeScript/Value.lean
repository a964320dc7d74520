import Scaffold.Catalog.Endpoint

/-!
# Values at run time

What generated code computes with when it calls the API: texts, numbers, booleans and `undefined`.
Of numbers only their printing and reading matters, so these are given by a `Numbers`. An object is
a table of values: it has the entries that it lists and inherits none.
-/

namespace Scaffold.TypeScript

/-- Numbers with the functions `String` and `Number`. A printed number is read as one that prints
the same, and what is no number is `nan`. -/
structure Numbers where
  Number : Type
  nan : Number
  print : Number → String
  read : String → Number
  print_nan : print nan = "NaN"
  print_read_print : ∀ n, print (read (print n)) = print n

/-- A value. -/
inductive Value (num : Numbers) where
  | undefined
  | text (s : String)
  | number (n : num.Number)
  | boolean (b : Bool)

namespace Value

variable {num : Numbers}

/-- The text of a value, as the function `String` gives it. -/
def print : Value num → String
  | undefined => "undefined"
  | text s => s
  | number n => num.print n
  | boolean true => "true"
  | boolean false => "false"

/-- Whether a value is `undefined`. -/
def isUndefined : Value num → Bool
  | undefined => true
  | _ => false

/-- The values of a kind. -/
inductive HasKind : Value num → Scalar → Prop
  | text (s : String) : HasKind (text s) .string
  | number (n : num.Number) : HasKind (number n) .number
  | boolean (b : Bool) : HasKind (boolean b) .boolean

/-- The same value; numbers are the same if they print the same. -/
inductive Same : Value num → Value num → Prop
  | text (s : String) : Same (text s) (text s)
  | number {m n : num.Number} : num.print m = num.print n → Same (number m) (number n)
  | boolean (b : Bool) : Same (boolean b) (boolean b)

/-- A value of some kind is not `undefined`. -/
theorem HasKind.isUndefined_eq_false {v : Value num} {kind : Scalar} (h : v.HasKind kind) :
    v.isUndefined = false := by
  cases h <;> rfl

/-- The same values have the same text. -/
theorem Same.print_eq {v w : Value num} (h : v.Same w) : v.print = w.print := by
  cases h with
  | text | boolean => rfl
  | number h => exact h

/-- The same value is not `undefined`. -/
theorem Same.isUndefined_eq_false {v w : Value num} (h : v.Same w) : v.isUndefined = false := by
  cases h <;> rfl

end Value

/-! ## Values of a query -/

/-- What an expression makes of an entry of a query. -/
inductive Conversion where
  /-- The entry itself. -/
  | plain
  /-- The number that the entry is read as. -/
  | number
  /-- Whether the entry is the text `true`. -/
  | isTrue
  deriving DecidableEq, Repr

/-- The value that an expression makes of an entry, or of its absence. -/
def Conversion.apply (num : Numbers) : Conversion → Option String → Value num
  | plain, some s => .text s
  | plain, none => .undefined
  | number, some s => .number (num.read s)
  | number, none => .number num.nan
  | isTrue, entry => .boolean (entry == some "true")

/-- The conversion of entries to values of a kind. -/
def Conversion.of : Scalar → Conversion
  | .string => plain
  | .number => number
  | .boolean => isTrue

/-- An entry that a value was printed to is converted back to that value. -/
theorem Conversion.same_apply_print {num : Numbers} {v : Value num} {kind : Scalar}
    (h : v.HasKind kind) : ((Conversion.of kind).apply num (some v.print)).Same v := by
  cases h with
  | text s => exact .text s
  | number n => exact .number (num.print_read_print n)
  | boolean b => cases b <;> exact .boolean _

end Scaffold.TypeScript
