/-!
# The ChaCha12 word stream

A key of eight words is expanded to an endless stream in blocks of sixteen words. Block `i` depends
on the key and on `i` alone, so any word of the stream is computed without those before it.
-/

namespace StorefrontLoad.Random.ChaCha

abbrev Key := Vector UInt32 8

abbrev Block := Vector UInt32 16

def rotateLeft (x : UInt32) (amount : UInt32) : UInt32 := x <<< amount ||| x >>> (32 - amount)

def quarterRound (a b c d : Fin 16) (s : Block) : Block :=
  let s := s.set a (s[a] + s[b])
  let s := s.set d (rotateLeft (s[d] ^^^ s[a]) 16)
  let s := s.set c (s[c] + s[d])
  let s := s.set b (rotateLeft (s[b] ^^^ s[c]) 12)
  let s := s.set a (s[a] + s[b])
  let s := s.set d (rotateLeft (s[d] ^^^ s[a]) 8)
  let s := s.set c (s[c] + s[d])
  s.set b (rotateLeft (s[b] ^^^ s[c]) 7)

/-- One round on the columns and one on the diagonals. -/
def doubleRound (s : Block) : Block :=
  let s := quarterRound 3 7 11 15 (quarterRound 2 6 10 14
    (quarterRound 1 5 9 13 (quarterRound 0 4 8 12 s)))
  quarterRound 3 4 9 14 (quarterRound 2 7 8 13
    (quarterRound 1 6 11 12 (quarterRound 0 5 10 15 s)))

/-- The counter takes two words; the two after it stay zero. -/
def initial (key : Key) (counter : UInt64) : Block :=
  #v[0x61707865, 0x3320646e, 0x79622d32, 0x6b206574,
    key[0], key[1], key[2], key[3], key[4], key[5], key[6], key[7],
    counter.toUInt32, (counter >>> 32).toUInt32, 0, 0]

def block (key : Key) (counter : UInt64) : Block :=
  let start := initial key counter
  let mixed := Nat.repeat doubleRound 6 start
  Vector.zipWith (· + ·) start mixed

def word (key : Key) (i : Nat) : UInt32 :=
  (block key (i / 16).toUInt64).get ⟨i % 16, Nat.mod_lt _ (by decide)⟩

end StorefrontLoad.Random.ChaCha
