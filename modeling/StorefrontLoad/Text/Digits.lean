/-!
# Numbers written in digits
-/

namespace StorefrontLoad.Text

def digitValue? (radix : Nat) (c : Char) : Option Nat :=
  let value :=
    if '0' ≤ c ∧ c ≤ '9' then c.toNat - '0'.toNat
    else if 'a' ≤ c ∧ c ≤ 'f' then c.toNat - 'a'.toNat + 10
    else if 'A' ≤ c ∧ c ≤ 'F' then c.toNat - 'A'.toNat + 10
    else radix
  if value < radix then some value else none

/-- No digits stand for zero. -/
def natOfRadix? (radix : Nat) (digits : List Char) : Option Nat :=
  (digits.mapM (digitValue? radix)).map (·.foldl (fun n d ↦ n * radix + d) 0)

end StorefrontLoad.Text
