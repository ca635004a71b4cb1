import PaperFilter.Decimal.Double
import PaperFilter.Text

/-!
# The shortest decimal of a double

Among the decimals that round to a double the one with the fewest digits stands for it, and of those
the one nearest to it.  Decimals are tried on coarser grids before finer ones; on each grid only the
two neighbours of the double can be nearest.
-/

namespace PaperFilter

/-- The number `digits * 10 ^ exponent`. -/
structure Decimal where
  digits : Nat
  exponent : Int
deriving Repr, DecidableEq

namespace Double

/-- The finest grid is that of the multiples of `10 ^ -324`. -/
def finestGrid : Nat := 324

/-- The number of grids from the finest one up to one that is coarser than the double itself: the
decimal digits of its units, with `1233 / 4096` for the logarithm of two, and some to spare. -/
def gridCount (x : Double) : Nat :=
  (Nat.log2 x.units + 1) * 1233 / 4096 + 4

/-- The double in quarters of a unit. -/
def quarters (x : Double) : Nat :=
  4 * x.units

/-- In quarters of a unit, the distance up to which larger numbers round to the double. -/
def reachAbove (x : Double) : Nat :=
  2 <<< x.scale

/-- In quarters of a unit, the distance down to which smaller numbers round to the double.  Below a
power of two the doubles lie twice as close. -/
def reachBelow (x : Double) : Nat :=
  if x.mantissa = 1 <<< (precision - 1) && 0 < x.scale then 1 <<< x.scale else 2 <<< x.scale

/-- A number of quarters of a unit, over a denominator, rounds to the double.  A number half way
between two doubles rounds to the one with the even mantissa. -/
def isNear (x : Double) (numerator denominator : Nat) : Bool :=
  let low := (x.quarters - x.reachBelow) * denominator
  let high := (x.quarters + x.reachAbove) * denominator
  if x.mantissa % 2 = 0 then low ≤ numerator && numerator ≤ high
  else low < numerator && numerator < high

/-- A number of quarters of a unit over a denominator, away from the double. -/
def distance (x : Double) (numerator denominator : Nat) : Nat :=
  let exact := x.quarters * denominator
  if exact ≤ numerator then numerator - exact else exact - numerator

/-- The multiple of `10 ^ exponent` that stands for the double, if one rounds to it. -/
def onGrid? (x : Double) (exponent : Int) : Option Nat :=
  let step := (4 <<< unitBits) * powerOfTen exponent.toNat
  let denominator := powerOfTen (-exponent).toNat
  let lower := x.quarters * denominator / step
  let upper := lower + 1
  match x.isNear (lower * step) denominator, x.isNear (upper * step) denominator with
  | false, false => none
  | true, false => some lower
  | false, true => some upper
  | true, true =>
      let below := x.distance (lower * step) denominator
      let above := x.distance (upper * step) denominator
      if below < above then some lower
      else if above < below then some upper
      else if lower % 2 = 0 then some lower
      else some upper

/-- The first hit on the grids from number `count - 1` down to the finest one, number zero. -/
def shortestFrom (x : Double) : Nat → Decimal
  | 0 => ⟨0, 0⟩
  | count + 1 =>
      let exponent : Int := count - finestGrid
      match x.onGrid? exponent with
      | some digits => ⟨digits, exponent⟩
      | none => shortestFrom x count

/-- The shortest decimal that rounds to a double. -/
def shortest (x : Double) : Decimal :=
  if x.isZero then ⟨0, 0⟩ else shortestFrom x x.gridCount

end Double

end PaperFilter
