/-!
# Double precision

Real numbers in a document are held in double precision.  A `Binary64` is given by its sign, an
integer significand of at most 53 bits and a power of two, so everything about it is exact
arithmetic on integers.

* **Rounding** — `nearestRatio?` takes a ratio to the nearest significand and exponent; of two that
  are equally near it takes the one with the even significand.  A ratio past the largest finite
  number has none.
* **Arithmetic** — a product and a quotient are the nearest numbers to the exact ones.
* **Scaling** — `scale?` multiplies a number by a power of ten.  The power is itself a number in
  double precision, and one too small for that is taken in several steps, so that each step rounds.
-/

namespace ParseTree.Decimal

/-- The number `± significand * 2 ^ exponent`. -/
structure Binary64 where
  negative : Bool
  significand : Nat
  exponent : Int
deriving Repr, DecidableEq

/-- The least exponent. -/
def minExponent : Int := -1074

/-- The greatest exponent. -/
def maxExponent : Int := 971

/-- The integer nearest to `num / den`; a half goes to the even neighbour. -/
def roundRatio (num den : Nat) : Nat :=
  let whole := num / den
  let rest := num % den
  if 2 * rest < den then whole
  else if den < 2 * rest then whole + 1
  else whole + whole % 2

/-- The ratio `num / den / 2 ^ exponent` as a numerator and a denominator. -/
def scaleRatio (num den : Nat) (exponent : Int) : Nat × Nat :=
  (num * Nat.pow 2 (-exponent).toNat, den * Nat.pow 2 exponent.toNat)

/-- The significand and the exponent nearest to `num / den`, if they are in range. -/
def nearestRatio? (num den : Nat) : Option (Nat × Int) :=
  if num = 0 then some (0, minExponent)
  else
    -- The quotient lies between `2 ^ (order - 1)` and `2 ^ (order + 1)`.
    let order : Int := (num.log2 : Int) - den.log2
    let low := max (order - 53) minExponent
    let scaled := scaleRatio num den low
    let exponent := if scaled.1 / scaled.2 < Nat.pow 2 53 then low else low + 1
    let scaled := scaleRatio num den exponent
    let significand := roundRatio scaled.1 scaled.2
    let nearest :=
      if significand = Nat.pow 2 53 then (Nat.pow 2 52, exponent + 1) else (significand, exponent)
    if maxExponent < nearest.2 then none else some nearest

/-! ## Arithmetic -/

namespace Binary64

/-- The numerator of the magnitude of a number. -/
def num (x : Binary64) : Nat :=
  x.significand * Nat.pow 2 x.exponent.toNat

/-- The denominator of the magnitude of a number. -/
def den (x : Binary64) : Nat :=
  Nat.pow 2 (-x.exponent).toNat

/-- The number nearest to `± num / den`, unless it exceeds them all. -/
def ofRatio? (negative : Bool) (num den : Nat) : Option Binary64 :=
  match nearestRatio? num den with
  | none => none
  | some (significand, exponent) => some ⟨negative, significand, exponent⟩

/-- The number nearest to the product of `x` and the magnitude of `y`. -/
def times? (x y : Binary64) : Option Binary64 :=
  ofRatio? x.negative (x.num * y.num) (x.den * y.den)

/-- The number nearest to the quotient of `x` by the magnitude of `y`. -/
def over? (x y : Binary64) : Option Binary64 :=
  ofRatio? x.negative (x.num * y.den) (x.den * y.num)

/-! ## Scaling -/

/-- The number nearest to a power of ten. -/
def powerOfTen? (power : Nat) : Option Binary64 :=
  ofRatio? false (Nat.pow 10 power) 1

/-- The greatest power of ten that is in range. -/
def maxPower : Nat := 308

/-- The number nearest to `x * 10 ^ power`, for a power that is in range in one direction or the
other. -/
def scaleOnce? (x : Binary64) (power : Int) : Option Binary64 :=
  match powerOfTen? power.natAbs with
  | none => none
  | some ten => if 0 ≤ power then x.times? ten else x.over? ten

/-- The number `x * 10 ^ power`, or `none` if it is out of range.  Zero stays zero whatever the
power. -/
def scale? (x : Binary64) (power : Int) : Option Binary64 :=
  if power.natAbs ≤ maxPower then x.scaleOnce? power
  else if x.significand = 0 then some x
  else if 0 ≤ power then none
  else (x.scaleOnce? (-maxPower)).bind fun y => scale? y (power + maxPower)
termination_by power.natAbs
decreasing_by
  have hmax : maxPower = 308 := rfl
  omega

end Binary64

end ParseTree.Decimal
