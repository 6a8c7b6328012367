/-!
# Punycode

Writes a label with characters beyond ASCII in letters, digits and hyphens: first its ASCII
characters, then, in rising order of code point, where each of the others has to be put in.
-/

namespace StorefrontLoad.Url.Punycode

def base : Nat := 36

def digitChar (n : Nat) : Char := if n < 26 then Char.ofNat (97 + n) else Char.ofNat (22 + n)

def digitValue? (c : Char) : Option Nat :=
  if 'a' ≤ c ∧ c ≤ 'z' then some (c.toNat - 97)
  else if 'A' ≤ c ∧ c ≤ 'Z' then some (c.toNat - 65)
  else if '0' ≤ c ∧ c ≤ '9' then some (c.toNat - 22)
  else none

/-- The smallest digit value that does not end a number at a place. -/
def threshold (place bias : Nat) : Nat :=
  if place ≤ bias then 1 else if bias + 26 ≤ place then 26 else place - bias

def settle : Nat → Nat → Nat → Nat
  | 0, delta, k => k + 36 * delta / (delta + 38)
  | fuel + 1, delta, k =>
    if 455 < delta then settle fuel (delta / 35) (k + 36) else k + 36 * delta / (delta + 38)

/-- The bias that suits the size of the last step. -/
def adapt (delta points : Nat) (first : Bool) : Nat :=
  let delta := if first then delta / 700 else delta / 2
  settle delta (delta + delta / points) 0

/-- Digits of a number, lowest first; the last one lies below its threshold. -/
def numberChars : Nat → Nat → Nat → Nat → List Char
  | 0, _, _, _ => []
  | fuel + 1, q, place, bias =>
    let t := threshold place bias
    if q < t then [digitChar q]
    else digitChar (t + (q - t) % (base - t)) ::
      numberChars fuel ((q - t) / (base - t)) (place + base) bias

structure State where
  delta : Nat
  bias : Nat
  handled : Nat
  output : List Char

/-- Walks over the label and writes a number for each occurrence of the code point `n`. -/
def writeOccurrences (n basic : Nat) : List Char → State → State
  | [], s => s
  | c :: rest, s =>
    if c.toNat < n then writeOccurrences n basic rest { s with delta := s.delta + 1 }
    else if c.toNat = n then
      writeOccurrences n basic rest {
        delta := 0
        bias := adapt s.delta (s.handled + 1) (s.handled = basic)
        handled := s.handled + 1
        output := s.output ++ numberChars (s.delta + 1) s.delta base s.bias }
    else writeOccurrences n basic rest s

/-- The code points beyond ASCII in rising order, each once. -/
def beyondAscii (label : List Char) : List Nat :=
  ((label.map Char.toNat).filter (0x80 ≤ ·)).mergeSort.eraseDups

def encode (label : List Char) : List Char :=
  let basic := label.filter (·.toNat < 0x80)
  let step (previous : Nat × State) (m : Nat) : Nat × State :=
    let (n, s) := previous
    let s := { s with delta := s.delta + (m - n) * (s.handled + 1) }
    let s := writeOccurrences m basic.length label s
    (m + 1, { s with delta := s.delta + 1 })
  let start : State := ⟨0, 72, basic.length, []⟩
  let (_, final) := (beyondAscii label).foldl step (0x80, start)
  (if basic = [] then [] else basic ++ ['-']) ++ final.output

/-- Numbers from here on are too large for any label. -/
def tooLarge : Nat := 0x100000000

/-- Reads one number and gives the digits after it. -/
def readNumber : List Char → Nat → Nat → Nat → Nat → Option (Nat × List Char)
  | [], _, _, _, _ => none
  | c :: rest, place, weight, bias, sum => do
    let digit ← digitValue? c
    let sum := sum + digit * weight
    let t := threshold place bias
    if tooLarge ≤ sum then none
    else if digit < t then some (sum, rest)
    else if tooLarge ≤ weight * (base - t) then none
    else readNumber rest (place + base) (weight * (base - t)) bias sum

/-- Puts in one character per number until the digits are used up. -/
def insertAll : Nat → List Char → Nat → Nat → Nat → List Char → Option (List Char)
  | 0, _, _, _, _, _ => none
  | fuel + 1, digits, n, position, bias, output =>
    if digits = [] then some output
    else do
      let (delta, digits) ← readNumber digits base 1 bias 0
      let points := output.length + 1
      let index := position + delta
      let n := n + index / points
      if n < 0x110000 ∧ ¬ (0xD800 ≤ n ∧ n ≤ 0xDFFF) then
        let place := index % points
        insertAll fuel digits n (place + 1) (adapt delta points (position = 0))
          (output.take place ++ Char.ofNat n :: output.drop place)
      else none

/-- Cuts at the last hyphen behind an ASCII character; without one there are no ASCII characters. -/
def splitBasic (text : List Char) : List Char × List Char :=
  let digits := (text.reverse.takeWhile (· ≠ '-')).reverse
  let basic := text.take (text.length - digits.length - 1)
  if basic = [] then ([], text) else (basic, digits)

def decode? (text : List Char) : Option (List Char) :=
  let (basic, digits) := splitBasic text
  insertAll (digits.length + 1) digits 0x80 0 72 basic

end StorefrontLoad.Url.Punycode
