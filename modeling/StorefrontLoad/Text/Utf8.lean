/-!
# UTF-8

Bytes are cut into pieces, each a well-formed character or a longest run of bytes that could have
begun one. The pieces are read in two ways: as a text, which fails on the first broken piece, and as
a list of symbols, which keeps the broken bytes as holes for a reader that judges them later.
-/

namespace StorefrontLoad.Text

/-- A character of the input, or a byte that belongs to none. -/
abbrev Symbol := Option Char

inductive Piece
  | char (c : Char)
  /-- A run of bytes that forms no character. -/
  | broken (length : Nat)
  deriving Repr, DecidableEq

namespace Piece

def isContinuation (b : UInt8) : Bool := 0x80 ≤ b ∧ b ≤ 0xBF

/-- What the byte after a leading byte may be; narrower than a continuation byte where an overlong
form, a surrogate or a value above U+10FFFF has to be kept out. -/
def secondByte (lead : UInt8) : UInt8 × UInt8 :=
  if lead = 0xE0 then (0xA0, 0xBF)
  else if lead = 0xED then (0x80, 0x9F)
  else if lead = 0xF0 then (0x90, 0xBF)
  else if lead = 0xF4 then (0x80, 0x8F)
  else (0x80, 0xBF)

/-- How many bytes a leading byte announces, itself included; zero for a byte that leads none. -/
def announced (lead : UInt8) : Nat :=
  if lead < 0x80 then 1
  else if 0xC2 ≤ lead ∧ lead ≤ 0xDF then 2
  else if 0xE0 ≤ lead ∧ lead ≤ 0xEF then 3
  else if 0xF0 ≤ lead ∧ lead ≤ 0xF4 then 4
  else 0

/-- How many of the bytes after `lead` can belong to its character. -/
def followers (lead : UInt8) (rest : List UInt8) : Nat :=
  match rest with
  | [] => 0
  | second :: more =>
    let (low, high) := secondByte lead
    if announced lead < 2 ∨ second < low ∨ high < second then 0
    else 1 + ((more.take (announced lead - 2)).takeWhile isContinuation).length

def codePoint (lead : UInt8) (rest : List UInt8) : Nat :=
  let leadBits := match rest.length with
    | 0 => lead.toNat
    | 1 => lead.toNat % 0x20
    | 2 => lead.toNat % 0x10
    | _ => lead.toNat % 0x08
  rest.foldl (fun value b ↦ value * 0x40 + b.toNat % 0x40) leadBits

def first (lead : UInt8) (rest : List UInt8) : Piece :=
  let taken := followers lead rest
  if taken + 1 = announced lead then .char (Char.ofNat (codePoint lead (rest.take taken)))
  else .broken (taken + 1)

/-- The second argument counts the bytes that the piece before has already taken. -/
def cut : List UInt8 → Nat → List Piece
  | [], _ => []
  | _ :: rest, taken + 1 => cut rest taken
  | lead :: rest, 0 => first lead rest :: cut rest (followers lead rest)

def symbols : Piece → List Symbol
  | .char c => [some c]
  | .broken length => List.replicate length none

def char? : Piece → Option Char
  | .char c => some c
  | .broken _ => none

end Piece

def pieces (bytes : List UInt8) : List Piece := Piece.cut bytes 0

def symbolsOfBytes (bytes : List UInt8) : List Symbol := (pieces bytes).flatMap Piece.symbols

def symbolsOfText (text : List Char) : List Symbol := text.map some

/-- Fails unless the bytes are UTF-8 throughout. -/
def decode? (bytes : List UInt8) : Option (List Char) := (pieces bytes).mapM Piece.char?

def encode (text : List Char) : List UInt8 := text.flatMap String.utf8EncodeChar

end StorefrontLoad.Text
