/-!
# Doubles from a whole number and a power of ten

A decimal text becomes a double by one multiplication or division with a power of ten that is
itself a double. This is one rounding more than the nearest double would need, so the last bit can
differ from it; the stored texts of other writers are read with this same rule.
-/

namespace StorefrontLoad.Decimal

/-- The powers of ten that are finite doubles end here. -/
def largestPower : Nat := 308

def powerOfTen (exponent : Nat) : Float := OfScientific.ofScientific 1 false exponent

/-- Divides by `10 ^ exponent` in steps a double can hold, and stops early at zero. -/
def divideDown : Nat → Float → Nat → Float
  | 0, x, _ => x
  | fuel + 1, x, exponent =>
    if exponent ≤ largestPower then x / powerOfTen exponent
    else if x == 0 then x
    else divideDown fuel (x / powerOfTen largestPower) (exponent - largestPower)

/-- `none` when the magnitude is beyond every finite double. -/
def scaled? (significand : UInt64) (exponent : Int) : Option Float :=
  let x := significand.toFloat
  if exponent < 0 then
    let shift := (-exponent).toNat
    some (divideDown (shift / largestPower + 1) x shift)
  else if exponent.toNat ≤ largestPower then
    let y := x * powerOfTen exponent.toNat
    if y.isInf then none else some y
  else if x == 0 then some x
  else none

end StorefrontLoad.Decimal
