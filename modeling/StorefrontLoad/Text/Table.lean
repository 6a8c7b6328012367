import StorefrontLoad.Text.Digits
import StorefrontLoad.Text.Split

/-!
# Tables of characters

A long table is written as a text of hexadecimal code points, which blanks and line breaks part.
-/

namespace StorefrontLoad.Text

def numbersOf (text : List Char) : List Nat :=
  let flat := text.map fun c ↦ if c = '\n' then ' ' else c
  ((splitOn ' ' flat).filter (· ≠ [])).filterMap (natOfRadix? 16)

def numbers (text : String) : List Nat := numbersOf text.toList

/-! ## Blocks -/

/-- An entry for each code point from `start` on. -/
structure Block where
  start : Nat
  entries : List (List Nat)

namespace Block

/-- A colon follows the start of a block, and commas part the entries. -/
def ofText (text : List Char) : Block :=
  match splitOn ':' text with
  | [start, entries] => ⟨(numbersOf start).headD 0, (splitOn ',' entries).map numbersOf⟩
  | _ => ⟨0, []⟩

def value? (n : Nat) (b : Block) : Option (List Nat) :=
  if b.start ≤ n then b.entries[n - b.start]? else none

/-- The first code point with the given entry. -/
def keyOf? (entry : List Nat) (b : Block) : Option Nat :=
  (b.entries.findIdx? (· = entry)).map (b.start + ·)

end Block

/-- Semicolons part the blocks of a table. -/
def blocks (text : String) : List Block := (splitOn ';' text.toList).map Block.ofText

def value? (table : List Block) (c : Char) : Option (List Nat) :=
  table.findSome? (·.value? c.toNat)

def keyOf? (table : List Block) (entry : List Nat) : Option Nat :=
  table.findSome? (·.keyOf? entry)

/-! ## Runs -/

/-- Each `step`th code point of a range, and where the first of them is taken; the others are taken
as far from it as they are from the first. -/
structure Run where
  first : Nat
  last : Nat
  step : Nat
  target : Nat

namespace Run

def ofNumbers : List Nat → Option Run
  | [first, last, step, target] => some ⟨first, last, step, target⟩
  | _ => none

def image? (n : Nat) (r : Run) : Option Nat :=
  if r.first ≤ n ∧ n ≤ r.last ∧ (n - r.first) % r.step = 0 then some (r.target + (n - r.first))
  else none

end Run

/-- Commas part the runs of a table. -/
def runs (text : String) : List Run :=
  (splitOn ',' text.toList).filterMap fun run ↦ Run.ofNumbers (numbersOf run)

def image? (table : List Run) (c : Char) : Option Nat := table.findSome? (·.image? c.toNat)

end StorefrontLoad.Text
