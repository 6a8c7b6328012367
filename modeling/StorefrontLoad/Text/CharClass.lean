/-!
# Character classes

A class is stored as the increasing list of the code points at which membership changes, starting
outside the class. A character belongs to it when it has passed an odd number of them.
-/

namespace StorefrontLoad.Text

def inClass (boundaries : List Nat) (c : Char) : Bool :=
  (boundaries.takeWhile (· ≤ c.toNat)).length % 2 = 1

end StorefrontLoad.Text
