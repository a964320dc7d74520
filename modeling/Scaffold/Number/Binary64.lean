/-!
# Binary floating point of 64 bits

A finite double is a sign, a mantissa of at most 53 bits and a power of two. `ofDecimal?` gives
the double nearest to a decimal number, a tie going to the even mantissa; `shortest` gives the
decimal number with the fewest digits among those that are read back as the same double, and of
these the nearest one.
-/

namespace Scaffold

/-- The number `± mantissa · 2 ^ exponent`. -/
structure Binary64 where
  negative : Bool
  mantissa : Nat
  exponent : Int
  deriving DecidableEq, Repr

namespace Binary64

/-- The quotient rounded to the nearest natural number, a tie going to the even one. -/
def roundDiv (num den : Nat) : Nat :=
  let q := num / den
  let r := num % den
  if 2 * r < den then q else if den < 2 * r then q + 1 else if q % 2 = 0 then q else q + 1

/-- The least mantissa of 53 bits. -/
def leastFull : Nat := 0x10000000000000

/-- The fraction `num / den` times a power of `b`, as a fraction. -/
def scale (b : Nat) (num den : Nat) (e : Int) : Nat × Nat :=
  if 0 ≤ e then (num * Nat.pow b e.toNat, den) else (num, den * Nat.pow b (-e).toNat)

/-- The number of decimal digits. -/
def decimalLength (n : Nat) : Nat := (Nat.toDigits 10 n).length

/-- The least exponent of a double, and the greatest. -/
def minExponent : Int := -1074
def maxExponent : Int := 971

/-- The double nearest to a positive fraction; nothing beyond the greatest double. -/
def ofFraction? (negative : Bool) (num den : Nat) : Option Binary64 :=
  let magnitude : Int := (Nat.log2 num : Int) - (Nat.log2 den : Int)
  let lower := max (magnitude - 53) minExponent
  let (n₀, d₀) := scale 2 num den (-lower)
  let exponent := if 2 * leastFull ≤ n₀ / d₀ then lower + 1 else lower
  let (n, d) := scale 2 num den (-exponent)
  let mantissa := roundDiv n d
  let (mantissa, exponent) :=
    if mantissa = 2 * leastFull then (leastFull, exponent + 1) else (mantissa, exponent)
  if maxExponent < exponent then none else some ⟨negative, mantissa, exponent⟩

/-- The double nearest to `digits · 10 ^ exponent`; nothing beyond the greatest double. -/
def ofDecimal? (negative : Bool) (digits : Nat) (exponent : Int) : Option Binary64 :=
  let order : Int := (decimalLength digits : Int) + exponent
  if digits = 0 ∨ order < -330 then some ⟨negative, 0, minExponent⟩
  else if 310 < order then none
  else
    let (num, den) := scale 10 digits 1 exponent
    ofFraction? negative num den

/-- Whether the number is zero, of either sign. -/
def isZero (x : Binary64) : Bool := x.mantissa == 0

/-- The least power of ten above a positive fraction, as its exponent. -/
def decimalOrder (num den : Nat) : Int :=
  let k : Int := (decimalLength num : Int) - (decimalLength den : Int)
  let (n, d) := scale 10 num den (-k)
  if d ≤ n then k + 1 else k

/-- Whether `digits · 10 ^ place` is read back as `x`: it lies between the points halfway to the
neighbours of `x`, which belong to `x` exactly when its mantissa is even. -/
def reads (x : Binary64) (digits : Nat) (place : Int) : Bool :=
  let below := if x.mantissa = leastFull ∧ minExponent < x.exponent then 1 else 2
  let (lowNum, lowDen) := scale 2 (4 * x.mantissa - below) 1 (x.exponent - 2)
  let (highNum, highDen) := scale 2 (4 * x.mantissa + 2) 1 (x.exponent - 2)
  let (n, d) := scale 10 digits 1 place
  if x.mantissa % 2 = 0 then lowNum * d ≤ n * lowDen && n * highDen ≤ highNum * d
  else lowNum * d < n * lowDen && n * highDen < highNum * d

/-- The one of the two neighbours of `x` on the grid of step `10 ^ place` that is read back as
`x`, the nearer one if both are. -/
def onGrid? (x : Binary64) (num den : Nat) (place : Int) : Option (Nat × Int) :=
  let (n, d) := scale 10 num den (-place)
  let c := n / d
  let low := reads x c place
  let high := reads x (c + 1) place
  if low && high then some (roundDiv n d, place)
  else if low then some (c, place)
  else if high then some (c + 1, place)
  else none

/-- The shortest decimal number that is read back as `x`, as digits and a power of ten. -/
def shortest (x : Binary64) : Nat × Int :=
  if x.mantissa = 0 then (0, 0)
  else
    let (num, den) := scale 2 x.mantissa 1 x.exponent
    let order := decimalOrder num den
    ((List.range 17).findSome? fun i : Nat => onGrid? x num den (order - (i + 1))).getD (0, 0)

/-- The shortest decimal number in positional notation: no exponent, and a point only where digits
follow it. -/
def plain (x : Binary64) : String :=
  let (digits, place) := x.shortest
  let text := toString digits
  let body :=
    if 0 ≤ place then
      if digits = 0 then "0" else text ++ String.ofList (List.replicate place.toNat '0')
    else
      let behind := (-place).toNat
      let padded := List.replicate (behind + 1 - text.length) '0' ++ text.toList
      let whole := padded.take (padded.length - behind)
      let fraction := padded.drop (padded.length - behind)
      let kept := (fraction.reverse.dropWhile (· == '0')).reverse
      if kept.isEmpty then String.ofList whole
      else String.ofList whole ++ "." ++ String.ofList kept
  if x.negative then "-" ++ body else body

end Binary64

end Scaffold
