/-!
# Double precision numbers

A double is a mantissa times a power of two.  All of them are multiples of one unit, the smallest
positive double, so that every operation is exact arithmetic on natural numbers followed by one
rounding to the nearest double, where a tie goes to the even mantissa.  The sign of a number is kept
apart from its magnitude.
-/

namespace PaperFilter

/-- The magnitude `mantissa * 2 ^ scale` in units of `2 ^ -1074`.  The mantissa has 53 bits, or
fewer where the scale is zero. -/
structure Double where
  mantissa : Nat
  scale : Nat
deriving Repr, DecidableEq

/-- The quotient rounded to the nearest natural number, a tie to the even one. -/
def roundQuotient (numerator denominator : Nat) : Nat :=
  let floor := numerator / denominator
  let twice := 2 * (numerator % denominator)
  if twice < denominator then floor
  else if denominator < twice then floor + 1
  else if floor % 2 = 0 then floor
  else floor + 1

/-- `10 ^ exponent`. -/
def powerOfTen (exponent : Nat) : Nat :=
  Nat.pow 10 exponent

namespace Double

def precision : Nat := 53

/-- A magnitude of one is this power of two in units. -/
def unitBits : Nat := 1074

def maxScale : Nat := 2045

def units (x : Double) : Nat :=
  x.mantissa <<< x.scale

def isZero (x : Double) : Bool :=
  x.mantissa = 0

/-- The double nearest to a quotient of units, if it is in range. -/
def ofUnitQuotient (numerator denominator : Nat) : Option Double :=
  let bits := Nat.log2 (numerator / denominator) + 1
  let scale := bits - precision
  let mantissa := roundQuotient numerator (denominator <<< scale)
  let rounded : Double :=
    if mantissa = 1 <<< precision then ⟨1 <<< (precision - 1), scale + 1⟩ else ⟨mantissa, scale⟩
  if rounded.scale ≤ maxScale then some rounded else none

def ofNat? (n : Nat) : Option Double :=
  ofUnitQuotient (n <<< unitBits) 1

/-- The product, if it is in range. -/
def times (x y : Double) : Option Double :=
  ofUnitQuotient (x.units * y.units) (1 <<< unitBits)

/-- The quotient by a number that is not zero, if it is in range. -/
def dividedBy (x y : Double) : Option Double :=
  ofUnitQuotient (x.units <<< unitBits) y.units

/-! ## Decimals -/

/-- The greatest power of ten that is in range. -/
def maxPower : Nat := 308

def powerOfTen? (exponent : Nat) : Option Double :=
  ofNat? (powerOfTen exponent)

/-- Divide by the powers of ten up to an exponent, by the greatest power while there is more. -/
def overPowerOfTen (x : Double) (exponent : Nat) : Option Double :=
  if exponent ≤ maxPower then do
    x.dividedBy (← powerOfTen? exponent)
  else if x.isZero then some x
  else do
    let smaller ← x.dividedBy (← powerOfTen? maxPower)
    overPowerOfTen smaller (exponent - maxPower)
termination_by exponent
decreasing_by
  simp only [maxPower] at *
  omega

/-- The double for `significand * 10 ^ exponent`: the significand is rounded first, and then every
product or quotient by a power of ten. -/
def ofDecimal? (significand : Nat) (exponent : Int) : Option Double := do
  let x ← ofNat? significand
  match exponent with
  | .ofNat power =>
      if x.isZero then some x
      else if power ≤ maxPower then x.times (← powerOfTen? power)
      else none
  | .negSucc power => overPowerOfTen x (power + 1)

end Double

end PaperFilter
