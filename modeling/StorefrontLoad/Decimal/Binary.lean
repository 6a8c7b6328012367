/-!
# The exact value of a double

A finite double is a whole number times a power of two. Everything that turns a double into decimal
text starts from this form and goes on in exact arithmetic on natural numbers.
-/

namespace StorefrontLoad.Decimal

/-- Stands for `mantissa * 2 ^ exponent`, negated when `negative`. -/
structure Binary where
  negative : Bool
  mantissa : Nat
  exponent : Int
  /-- The next double towards zero is only half as far away as the next one outwards. -/
  narrowBelow : Bool
  deriving Repr, DecidableEq

namespace Binary

/-- Two to the power 52, the least mantissa of a normal double. -/
def leastMantissa : Nat := 0x10000000000000

def ofBits (bits : UInt64) : Binary :=
  let fraction := bits.toNat % leastMantissa
  let scale : Nat := bits.toNat / leastMantissa % 2048
  let negative : Bool := bits.toNat / leastMantissa / 2048 = 1
  if scale = 0 then ⟨negative, fraction, -1074, false⟩
  else ⟨negative, fraction + leastMantissa, scale - 1075, fraction = 0 ∧ 1 < scale⟩

def ofFloat (x : Float) : Binary := ofBits x.toBits

/-- Numerator and denominator of the magnitude. -/
def ratio (b : Binary) : Nat × Nat :=
  if 0 ≤ b.exponent then (b.mantissa * Nat.pow 2 b.exponent.toNat, 1)
  else (b.mantissa, Nat.pow 2 (-b.exponent).toNat)

end Binary

end StorefrontLoad.Decimal
