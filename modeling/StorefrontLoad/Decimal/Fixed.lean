import StorefrontLoad.Decimal.Binary

/-!
# Decimals with a fixed number of places

The exact value of the double is rounded, so a tie is a true tie; it goes to the even neighbour.
-/

namespace StorefrontLoad.Decimal

/-- The whole number nearest to `numerator / denominator`, a tie going to the even one. -/
def roundHalfEven (numerator denominator : Nat) : Nat :=
  let below := numerator / denominator
  let twice := 2 * (numerator % denominator)
  if denominator < twice ∨ (twice = denominator ∧ below % 2 = 1) then below + 1 else below

/-- Writes `count / 10 ^ places` with exactly `places` digits behind the point. -/
def pointed (places count : Nat) : List Char :=
  let digits := Nat.toDigits 10 count
  let padded := List.replicate (places + 1 - digits.length) '0' ++ digits
  let whole := padded.length - places
  padded.take whole ++ '.' :: padded.drop whole

def fixed (places : Nat) (x : Float) : String :=
  if x.isNaN then "NaN"
  else
    let b := Binary.ofFloat x
    let sign := if b.negative then ['-'] else []
    if x.isInf then String.ofList (sign ++ ['i', 'n', 'f'])
    else
      let (numerator, denominator) := b.ratio
      let rounded := roundHalfEven (numerator * Nat.pow 10 places) denominator
      String.ofList (sign ++ pointed places rounded)

end StorefrontLoad.Decimal
