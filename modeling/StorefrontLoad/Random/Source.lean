import StorefrontLoad.Random.ChaCha

/-!
# Sources of random words

A source is an endless stream of 32-bit words and a position in it. Every choice takes words from
the position on, so what a source gives next depends only on its stream and on how many words were
used.
-/

namespace StorefrontLoad.Random

structure Source where
  word : Nat → UInt32
  /-- A search through this many words in a row that has found nothing finds nothing at all. -/
  span : Nat
  used : Nat

namespace Source

/-- The given words, then zeroes for ever. -/
def ofWords (words : Array UInt32) : Source :=
  ⟨fun i ↦ words.getD i 0, words.size + 1, 0⟩

def multiplier : UInt64 := 6364136223846793005

def increment : UInt64 := 11634580027462260723

def rotateRight (x : UInt32) (amount : UInt32) : UInt32 :=
  x >>> amount ||| x <<< ((32 - amount) % 32)

/-- One output word of the generator that spreads a seed over a key. -/
def seedWord (state : UInt64) : UInt32 :=
  rotateRight (((state >>> 18) ^^^ state) >>> 27).toUInt32 (state >>> 59).toUInt32

/-- The generator's state after `count` steps. -/
def seedState (seed : UInt64) : Nat → UInt64
  | 0 => seed
  | count + 1 => seedState seed count * multiplier + increment

def keyOfSeed (seed : UInt64) : ChaCha.Key :=
  Vector.ofFn fun i : Fin 8 ↦ seedWord (seedState seed (i + 1))

/-- The block counter has 64 bits, so the stream comes round after 2^68 words. -/
def ofSeed (seed : UInt64) : Source :=
  let key := keyOfSeed seed
  ⟨ChaCha.word key, 16 * UInt64.size, 0⟩

def next (source : Source) : UInt32 × Source :=
  (source.word source.used, { source with used := source.used + 1 })

end Source

/-! ## Choosing an index -/

/-- A word is accepted when the low half of its product with the number of choices is at most this,
which leaves every index the same number of accepted words. -/
def acceptanceZone (choices : Nat) : Nat := choices * Nat.pow 2 (31 - choices.log2) - 1

/-- The index a word stands for, or `none` when it has to be passed over. -/
def indexOfWord? (choices : Nat) (w : UInt32) : Option Nat :=
  let product := w.toNat * choices
  if product % UInt32.size ≤ acceptanceZone choices then some (product / UInt32.size) else none

/-- Takes words until one is accepted. -/
def searchIndex (choices : Nat) : Nat → Source → Nat × Source
  | 0, source => (0, source)
  | turns + 1, source =>
    let (w, source) := source.next
    match indexOfWord? choices w with
    | some i => (i, source)
    | none => searchIndex choices turns source

namespace Source

/-- Draws an index below `choices`; there has to be at least one choice, and fewer than 2^32. -/
def index (choices : Nat) (source : Source) : Nat × Source :=
  searchIndex choices source.span source

/-- Draws an element; an empty list takes no word. -/
def choose {α : Type} (list : List α) (source : Source) : Option α × Source :=
  if list.isEmpty then (none, source)
  else
    let (i, source) := source.index list.length
    (list[i]?, source)

end Source

end StorefrontLoad.Random
