import StorefrontLoad.Text.CombiningClass
import StorefrontLoad.Text.Composite

/-!
# Canonical text

Texts that look alike may be made of different characters: of a letter and a mark, or of their
composite, with marks in this order or in that. Of all these forms the canonical one is composed as
far as possible.
-/

namespace StorefrontLoad.Text

/-! ## Taking apart -/

def partsOf (c : Char) : List Char :=
  match parts? c with
  | some (a, b) => [a, b]
  | none => [c]

/-- No composite has parts within parts more than four deep. -/
def decomposed (text : List Char) : List Char := Nat.repeat (·.flatMap partsOf) 4 text

/-! ## Order of marks -/

/-- Puts a mark before the marks of its class or of a higher one. -/
def placeMark (c : Char) : List Char → List Char
  | [] => [c]
  | d :: rest =>
    if 0 < combiningClass d ∧ combiningClass d < combiningClass c then d :: placeMark c rest
    else c :: d :: rest

def ordered (text : List Char) : List Char := text.foldr placeMark []

/-! ## Putting together -/

/-- Whether a mark between a letter and a character keeps the two apart. -/
def isBlocked (between : List Char) (c : Char) : Bool :=
  match between with
  | [] => false
  | last :: _ => combiningClass c ≤ combiningClass last

/-- Goes on from a letter and the marks behind it, the last one first, that it was not composed
with. -/
def composeFrom (letter : Char) (marks : List Char) : List Char → List Char
  | [] => letter :: marks.reverse
  | c :: rest =>
    match if isBlocked marks c then none else composite? letter c with
    | some both => composeFrom both marks rest
    | none =>
      if combiningClass c = 0 then letter :: marks.reverse ++ composeFrom c [] rest
      else composeFrom letter (c :: marks) rest

def composed : List Char → List Char
  | [] => []
  | c :: rest => if combiningClass c = 0 then composeFrom c [] rest else c :: composed rest

/-- A text in ASCII is canonical. -/
def canonical (text : List Char) : List Char :=
  if text.all (·.toNat < 0x80) then text else composed (ordered (decomposed text))

end StorefrontLoad.Text
