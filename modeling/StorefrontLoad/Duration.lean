/-!
# Durations

A duration is a whole number of nanoseconds. Where one is kept in a 64-bit word of a larger unit it
is cut off to a whole number of that unit, and a duration too long for the word becomes the largest
word.
-/

namespace StorefrontLoad

structure Duration where
  nanoseconds : Nat
  deriving DecidableEq, Repr

namespace Duration

def perSecond : Nat := 1000000000

def zero : Duration := ⟨0⟩

def ofSeconds (n : Nat) : Duration := ⟨n * perSecond⟩

def ofMilliseconds (n : Nat) : Duration := ⟨n * 1000000⟩

def seconds (d : Duration) : Nat := d.nanoseconds / perSecond

/-- What is left beside the whole seconds, in nanoseconds. -/
def fraction (d : Duration) : Nat := d.nanoseconds % perSecond

def isZero (d : Duration) : Bool := d.nanoseconds = 0

instance : LT Duration := ⟨fun a b ↦ a.nanoseconds < b.nanoseconds⟩

instance (a b : Duration) : Decidable (a < b) := Nat.decLt _ _

def min (a b : Duration) : Duration := if b < a then b else a

theorem nanoseconds_min (a b : Duration) :
    (a.min b).nanoseconds = Min.min a.nanoseconds b.nanoseconds := by
  have hLess : (b < a) = (b.nanoseconds < a.nanoseconds) := rfl
  simp only [min, hLess]
  split <;> omega

def max (a b : Duration) : Duration := if a < b then b else a

def add (a b : Duration) : Duration := ⟨a.nanoseconds + b.nanoseconds⟩

def saturated (n : Nat) : UInt64 :=
  if n < UInt64.size then n.toUInt64 else 0xFFFFFFFFFFFFFFFF

theorem toNat_saturated (n : Nat) : (saturated n).toNat = Min.min n (UInt64.size - 1) := by
  unfold saturated
  split
  · next hFits =>
    have hLe : n ≤ UInt64.size - 1 := Nat.le_sub_one_of_lt hFits
    rw [UInt64.toNat_ofNat_of_lt' hFits, Nat.min_eq_left hLe]
  · next hLong =>
    have hLe : UInt64.size - 1 ≤ n := Nat.le_trans (by decide) (Nat.not_lt.1 hLong)
    rw [Nat.min_eq_right hLe]
    rfl

def milliseconds (d : Duration) : UInt64 := saturated (d.nanoseconds / 1000000)

theorem toNat_milliseconds (d : Duration) :
    d.milliseconds.toNat = Min.min (d.nanoseconds / 1000000) (UInt64.size - 1) :=
  toNat_saturated _

def microseconds (d : Duration) : UInt64 := saturated (d.nanoseconds / 1000)

theorem toNat_microseconds (d : Duration) :
    d.microseconds.toNat = Min.min (d.nanoseconds / 1000) (UInt64.size - 1) :=
  toNat_saturated _

/-- The digits behind the point, without the zeros at their end. -/
def fractionDigits (places part : Nat) : List Char :=
  let digits := Nat.toDigits 10 part
  let padded := List.replicate (places - digits.length) '0' ++ digits
  (padded.reverse.dropWhile (· = '0')).reverse

def inUnit (d : Duration) (unit places : Nat) (name : String) : String :=
  let digits := fractionDigits places (d.nanoseconds % unit)
  toString (d.nanoseconds / unit) ++
    (if digits = [] then "" else "." ++ String.ofList digits) ++ name

/-- Shown in the largest unit of which there is at least one. -/
def text (d : Duration) : String :=
  if perSecond ≤ d.nanoseconds then d.inUnit perSecond 9 "s"
  else if 1000000 ≤ d.nanoseconds then d.inUnit 1000000 6 "ms"
  else if 1000 ≤ d.nanoseconds then d.inUnit 1000 3 "µs"
  else d.inUnit 1 0 "ns"

end Duration

end StorefrontLoad
