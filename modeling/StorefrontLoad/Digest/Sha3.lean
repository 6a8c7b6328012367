/-!
# SHA3-256

The sponge over the Keccak permutation of twenty-five 64-bit lanes. Lane `x + 5 * y` stands in
column `x` and row `y`.
-/

namespace StorefrontLoad.Digest

abbrev Lanes := Vector UInt64 25

def rotateLeft (x : UInt64) (amount : Nat) : UInt64 :=
  if amount = 0 then x else x <<< amount.toUInt64 ||| x >>> (64 - amount).toUInt64

def lane (s : Lanes) (x y : Nat) : UInt64 :=
  s.get ⟨x % 5 + 5 * (y % 5), by omega⟩

/-- Builds a state from what stands at each column and row. -/
def ofLanes (f : Nat → Nat → UInt64) : Lanes := Vector.ofFn fun i ↦ f (i % 5) (i / 5)

def parity (s : Lanes) (x : Nat) : UInt64 :=
  lane s x 0 ^^^ lane s x 1 ^^^ lane s x 2 ^^^ lane s x 3 ^^^ lane s x 4

/-- Adds the parities of the two neighbouring columns to each lane. -/
def theta (s : Lanes) : Lanes :=
  let mix : Vector UInt64 5 :=
    Vector.ofFn fun x ↦ parity s (x + 4) ^^^ rotateLeft (parity s (x + 1)) 1
  ofLanes fun x y ↦ lane s x y ^^^ mix.get ⟨x % 5, Nat.mod_lt _ (by decide)⟩

/-- Rotation of lane `x + 5 * y`. -/
def offsets : Vector Nat 25 :=
  #v[0, 1, 62, 28, 27, 36, 44, 6, 55, 20, 3, 10, 43, 25, 39, 41, 45, 15, 21, 8, 18, 2, 61, 56, 14]

/-- Rotates the lanes and moves each to its new place. -/
def rhoPi (s : Lanes) : Lanes :=
  ofLanes fun x y ↦
    let old : Fin 25 := ⟨(x + 3 * y) % 5 + 5 * (x % 5), by omega⟩
    rotateLeft s[old] offsets[old]

def chi (s : Lanes) : Lanes :=
  ofLanes fun x y ↦ lane s x y ^^^ (~~~ lane s (x + 1) y &&& lane s (x + 2) y)

def roundConstants : List UInt64 := [
  0x0000000000000001, 0x0000000000008082, 0x800000000000808A, 0x8000000080008000,
  0x000000000000808B, 0x0000000080000001, 0x8000000080008081, 0x8000000000008009,
  0x000000000000008A, 0x0000000000000088, 0x0000000080008009, 0x000000008000000A,
  0x000000008000808B, 0x800000000000008B, 0x8000000000008089, 0x8000000000008003,
  0x8000000000008002, 0x8000000000000080, 0x000000000000800A, 0x800000008000000A,
  0x8000000080008081, 0x8000000000008080, 0x0000000080000001, 0x8000000080008008]

def round (s : Lanes) (constant : UInt64) : Lanes :=
  let s := chi (rhoPi (theta s))
  s.set 0 (s[0] ^^^ constant)

def permute (s : Lanes) : Lanes := roundConstants.foldl round s

/-! ## The sponge -/

/-- Bytes taken in between two permutations. -/
def rate : Nat := 136

/-- Fills the last block: the two bits `01`, a one, zeroes and a last one. -/
def pad (message : List UInt8) : List UInt8 :=
  let missing := rate - message.length % rate
  if missing = 1 then message ++ [0x86]
  else message ++ 0x06 :: List.replicate (missing - 2) 0 ++ [0x80]

/-- The word whose bytes are listed with the lowest first. -/
def wordOfBytes (bytes : List UInt8) : UInt64 :=
  bytes.foldr (fun b word ↦ word <<< 8 ||| b.toUInt64) 0

def bytesOfWord (word : UInt64) : List UInt8 :=
  (List.range 8).map fun i ↦ (word >>> (8 * i).toUInt64).toUInt8

def absorb (s : Lanes) (block : List UInt8) : Lanes :=
  permute (Vector.ofFn fun i : Fin 25 ↦ s[i] ^^^ wordOfBytes ((block.drop (8 * i)).take 8))

/-- The first `count` blocks of a padded message. -/
def blocks : Nat → List UInt8 → List (List UInt8)
  | 0, _ => []
  | count + 1, bytes => bytes.take rate :: blocks count (bytes.drop rate)

def sha3 (message : List UInt8) : List UInt8 :=
  let padded := pad message
  let final := (blocks (padded.length / rate) padded).foldl absorb (Vector.replicate 25 0)
  (final.toList.take 4).flatMap bytesOfWord

def hexByte (b : UInt8) : List Char := [Nat.digitChar (b.toNat / 16), Nat.digitChar (b.toNat % 16)]

def hex (bytes : List UInt8) : String := String.ofList (bytes.flatMap hexByte)

end StorefrontLoad.Digest
