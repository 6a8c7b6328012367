import StorefrontLoad.Decimal.Binary

/-!
# The shortest decimal that reads back

Every real number in an interval around a double rounds to that double. The shortest decimal is the
one with the fewest digits inside this interval; of two such decimals with equally many digits the
nearer one is taken, and of two equally near ones the one whose last digit is even.
-/

namespace StorefrontLoad.Decimal

/-- Stands for `digits * 10 ^ exponent`. -/
structure Scientific where
  digits : Nat
  exponent : Int
  deriving Repr, DecidableEq

namespace Scientific

def digitChars (d : Scientific) : List Char := Nat.toDigits 10 d.digits

/-- The decimal exponent of the first digit. -/
def magnitude (d : Scientific) : Int := d.exponent + d.digitChars.length - 1

/-- Removes trailing zeros; there are at most `fuel` of them. -/
def stripZeros : Nat → Scientific → Scientific
  | 0, d => d
  | fuel + 1, d =>
    if d.digits ≠ 0 ∧ d.digits % 10 = 0 then stripZeros fuel ⟨d.digits / 10, d.exponent + 1⟩ else d

end Scientific

/-- The open or closed interval of the reals that round to a double, over a common denominator. -/
structure Interval where
  low : Nat
  high : Nat
  denominator : Nat
  closed : Bool

namespace Interval

def ofBinary (b : Binary) : Interval :=
  let (numerator, denominator) := { b with exponent := b.exponent - 2 }.ratio
  let unit := numerator / b.mantissa
  { low := 4 * numerator - (if b.narrowBelow then unit else 2 * unit)
    high := 4 * numerator + 2 * unit
    denominator := denominator
    closed := b.mantissa % 2 = 0 }

/-- Whether `point / divisor` lies in the interval. -/
def contains (i : Interval) (point divisor : Nat) : Bool :=
  let scaled := point * i.denominator
  let low := i.low * divisor
  let high := i.high * divisor
  if i.closed then low ≤ scaled ∧ scaled ≤ high else low < scaled ∧ scaled < high

end Interval

/-- `⌊log₁₀ (numerator / denominator)⌋` for a positive ratio. -/
def log10 (numerator denominator : Nat) : Int :=
  if denominator ≤ numerator then (Nat.toDigits 10 (numerator / denominator)).length - 1
  else -((Nat.toDigits 10 ((denominator + numerator - 1) / numerator - 1)).length : Int)

/-- The better of the two neighbours of `numerator / denominator` on the grid of width
`10 ^ exponent`, if the interval holds one. -/
def onGrid? (interval : Interval) (numerator denominator : Nat) (exponent : Int) :
    Option Scientific :=
  let (step, divisor) : Nat × Nat :=
    if 0 ≤ exponent then (Nat.pow 10 exponent.toNat, 1) else (1, Nat.pow 10 (-exponent).toNat)
  let below := numerator * divisor / (denominator * step)
  let twice := 2 * (numerator * divisor - below * denominator * step)
  let nearerAbove : Bool :=
    denominator * step < twice ∨ (twice = denominator * step ∧ below % 2 = 1)
  let inside (count : Nat) : Bool := interval.contains (count * step) divisor
  if inside below ∧ ¬ (nearerAbove ∧ inside (below + 1)) then some ⟨below, exponent⟩
  else if inside (below + 1) then some ⟨below + 1, exponent⟩
  else none

/-- Seventeen digits tell all doubles apart, so the search never runs past them. -/
def shortest (b : Binary) : Scientific :=
  if b.mantissa = 0 then ⟨0, 0⟩
  else
    let interval := Interval.ofBinary b
    let (numerator, denominator) := b.ratio
    let top := log10 numerator denominator
    let found := (List.range 17).findSome? fun (extra : Nat) ↦
      onGrid? interval numerator denominator (top - extra)
    (found.getD ⟨0, 0⟩).stripZeros 20

end StorefrontLoad.Decimal
