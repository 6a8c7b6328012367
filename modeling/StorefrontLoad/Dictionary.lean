/-!
# Dictionaries in key order

A dictionary is a list of entries whose keys increase in code point order, the order in which every
report and every stored text lists them. The operations below keep that order, so two dictionaries
with the same entries are the same list.
-/

namespace StorefrontLoad

abbrev Dictionary (α : Type) := List (String × α)

namespace Dictionary

variable {α : Type}

def find? (key : String) : Dictionary α → Option α
  | [] => none
  | (k, v) :: rest => if k = key then some v else find? key rest

/-- A key that is already there keeps its place and takes the new value. -/
def insert (key : String) (value : α) : Dictionary α → Dictionary α
  | [] => [(key, value)]
  | (k, v) :: rest =>
    if key < k then (key, value) :: (k, v) :: rest
    else if key = k then (key, value) :: rest
    else (k, v) :: insert key value rest

@[simp] theorem find?_insert (key k : String) (value : α) (entries : Dictionary α) :
    (entries.insert key value).find? k = if key = k then some value else entries.find? k := by
  induction entries with
  | nil => simp [insert, find?]
  | cons entry rest ih =>
    simp only [insert]
    split
    · simp [find?]
    · split
      · next h => by_cases hk : key = k <;> simp [find?, ← h, hk]
      · next h =>
        by_cases hk : entry.1 = k
        · simp [find?, hk, show key ≠ k from fun e ↦ h (e.trans hk.symm)]
        · simp [find?, hk, ih]

/-- An absent key counts as holding `fresh`. -/
def update (key : String) (fresh : α) (change : α → α) (entries : Dictionary α) : Dictionary α :=
  entries.insert key (change ((entries.find? key).getD fresh))

@[simp] theorem find?_update (key k : String) (fresh : α) (change : α → α)
    (entries : Dictionary α) :
    (entries.update key fresh change).find? k =
      if key = k then some (change ((entries.find? key).getD fresh)) else entries.find? k :=
  find?_insert key k _ entries

def erase (key : String) (entries : Dictionary α) : Dictionary α :=
  entries.filter fun entry ↦ entry.1 ≠ key

def keys (entries : Dictionary α) : List String := entries.map Prod.fst

end Dictionary

end StorefrontLoad
