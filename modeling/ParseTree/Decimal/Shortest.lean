import ParseTree.Decimal.Binary64

/-!
# Shortest decimals

A number in double precision is shown with the fewest digits that read back as it, and of the
decimals with so few digits the nearest one is taken.

* **The interval** — the reals that round to a number lie between the middles to its neighbours; the
  middles belong to it if its significand is even.
* **The search** — `shortest` tries grids of ever smaller powers of ten.  On each it looks at the
  two points around the number; the first grid with a point in the interval wins.
* **The spelling** — `spell` writes the digits with a point or with an exponent, as a `Spelling`
  says.
-/

namespace ParseTree.Decimal

/-- The number `digits * 10 ^ power`. -/
structure Scaled where
  digits : Nat
  power : Int
deriving Repr, DecidableEq

/-! ## The search -/

/-- The ends of the interval of a number and the number itself, in quarters of a unit of the last
place.  Below a power of two the neighbour is nearer. -/
def Binary64.quarters (x : Binary64) : Nat × Nat × Nat :=
  let m := x.significand
  let below := if m = Nat.pow 2 52 && minExponent < x.exponent then 1 else 2
  (4 * m - below, 4 * m, 4 * m + 2)

/-- The point of the grid of multiples of `10 ^ power` that is in the interval of `x` and nearest to
it. -/
def gridPoint? (x : Binary64) (power : Int) : Option Nat :=
  let (low, value, high) := x.quarters
  let unit := x.exponent - 2
  -- A quarter is `num / den` steps of the grid.
  let num := Nat.pow 2 unit.toNat * Nat.pow 10 (-power).toNat
  let den := Nat.pow 2 (-unit).toNat * Nat.pow 10 power.toNat
  let inside (d : Nat) : Bool :=
    if x.significand % 2 = 0 then low * num ≤ d * den && d * den ≤ high * num
    else low * num < d * den && d * den < high * num
  let floor := value * num / den
  match inside floor, inside (floor + 1) with
  | true, false => some floor
  | false, true => some (floor + 1)
  | false, false => none
  | true, true =>
    let double := 2 * (value * num)
    let middle := (2 * floor + 1) * den
    if double < middle then some floor
    else if middle < double then some (floor + 1)
    else some (floor + floor % 2)

/-- Tries the grids from `power` on downwards. -/
def searchGrids (x : Binary64) (power : Int) : Nat → Scaled
  | 0 => ⟨0, 0⟩
  | grids + 1 =>
    match gridPoint? x power with
    | some digits => ⟨digits, power⟩
    | none => searchGrids x (power - 1) grids

/-- The shortest decimal that reads back as the magnitude of `x`.  The first grid tried is wider
than the number, and seventeen digits always suffice. -/
def shortest (x : Binary64) : Scaled :=
  if x.significand = 0 then ⟨0, 0⟩
  else
    let order : Int := (x.significand.log2 : Int) + x.exponent
    searchGrids x (order * 30103 / 100000 + 2) 22

/-! ## The spelling -/

/-- Which decimals are written with a point; the others have an exponent. -/
structure Spelling where
  /-- The least power of ten of the first digit that is written with a point. -/
  pointFrom : Int
  /-- The least power of ten of the first digit that is too large to be written with a point. -/
  pointBelow : Int
deriving Repr, DecidableEq

/-- The digits of a decimal with a point in the place it belongs. -/
def withPoint (digits : List Char) (power : Int) : List Char :=
  if 0 ≤ power then digits ++ List.replicate power.toNat '0' ++ ['.', '0']
  else
    let places := (-power).toNat
    let digits := List.replicate (places + 1 - digits.length) '0' ++ digits
    digits.take (digits.length - places) ++ '.' :: digits.drop (digits.length - places)

/-- The digits of a decimal with an exponent, which always has a sign; `first` is the power of ten
of the first digit. -/
def withExponent (digits : List Char) (first : Int) : List Char :=
  let point := if digits.length ≤ 1 then digits else digits.take 1 ++ '.' :: digits.drop 1
  point ++ ['e', if first < 0 then '-' else '+'] ++ Nat.toDigits 10 first.natAbs

/-- A number in double precision, in the given style. -/
def spell (style : Spelling) (x : Binary64) : String :=
  let decimal := shortest x
  let digits := Nat.toDigits 10 decimal.digits
  let first := decimal.power + digits.length - 1
  let sign := if x.negative then ['-'] else []
  String.ofList <| sign ++
    if style.pointFrom ≤ first && first < style.pointBelow then withPoint digits decimal.power
    else withExponent digits first

end ParseTree.Decimal
