import StorefrontLoad.Decimal.Scaled
import StorefrontLoad.Json.ReadError
import StorefrontLoad.Text.Utf8

/-!
# Blanks, literals, numbers and strings of a JSON text

A reader takes the symbols that are left and gives back what it read and what is left after it. A
loop that consumes several symbols in one turn takes a bound on its turns as `fuel`; the number of
symbols of the whole text is always enough.
-/

namespace StorefrontLoad.Json

open Text (Symbol)

abbrev Rest := List Symbol

def isBlank (s : Symbol) : Bool :=
  s = some ' ' ∨ s = some '\t' ∨ s = some '\n' ∨ s = some '\r'

def skipBlanks (rest : Rest) : Rest := rest.dropWhile isBlank

/-- Reads the remaining letters of a literal whose first letter has been seen. -/
def literal : List Char → Rest → Except ReadError Rest
  | [], rest => .ok rest
  | _ :: _, [] => .error .endInValue
  | c :: more, s :: rest => if s = some c then literal more rest else .error .expectedIdent

/-! ## Numbers -/

def digit? : Symbol → Option Nat
  | some c => if '0' ≤ c ∧ c ≤ '9' then some (c.toNat - '0'.toNat) else none
  | none => none

def isDigit (s : Symbol) : Bool := (digit? s).isSome

def startsWithDigit (rest : Rest) : Bool := (rest.head?.map isDigit).getD false

/-- The largest significand that is gathered exactly. -/
def largestSignificand : Nat := UInt64.size - 1

/-- Appends digits to a significand for as long as it fits, and counts them. -/
def gather (significand : Nat) : Rest → Nat × Nat × Rest
  | [] => (significand, 0, [])
  | s :: rest =>
    match digit? s with
    | none => (significand, 0, s :: rest)
    | some d =>
      if largestSignificand < significand * 10 + d then (significand, 0, s :: rest)
      else
        let (value, count, left) := gather (significand * 10 + d) rest
        (value, count + 1, left)

/-- Digits that no longer fit are only counted. -/
def skipDigits (rest : Rest) : Nat × Rest :=
  ((rest.takeWhile isDigit).length, rest.dropWhile isDigit)

def signed (positive : Bool) (x : Float) : Float := if positive then x else -x

def real (positive : Bool) (significand : Nat) (exponent : Int) (rest : Rest) :
    Except ReadError (Number × Rest) :=
  match Decimal.scaled? significand.toUInt64 exponent with
  | none => .error .numberOutOfRange
  | some x => .ok (.real (signed positive x), rest)

def isExponentMark (rest : Rest) : Bool :=
  rest.head? = some (some 'e') ∨ rest.head? = some (some 'E')

def digitsValue (digits : List Symbol) : Nat :=
  digits.foldl (fun value s ↦ value * 10 + (digit? s).getD 0) 0

/-- Reads what follows the mark of an exponent. -/
def exponentPart (positive : Bool) (significand : Nat) (shift : Int) (rest : Rest) :
    Except ReadError (Number × Rest) :=
  let (negative, rest) : Bool × Rest := match rest with
    | some '+' :: rest => (false, rest)
    | some '-' :: rest => (true, rest)
    | rest => (false, rest)
  match rest with
  | [] => .error .endInValue
  | s :: _ =>
    if isDigit s then
      let exponent : Int := digitsValue (rest.takeWhile isDigit)
      real positive significand (if negative then shift - exponent else shift + exponent)
        (rest.dropWhile isDigit)
    else .error .invalidNumber

/-- Reads an optional exponent. -/
def scale (positive : Bool) (significand : Nat) (shift : Int) (rest : Rest) :
    Except ReadError (Number × Rest) :=
  if isExponentMark rest then exponentPart positive significand shift (rest.drop 1)
  else real positive significand shift rest

/-- Reads what follows the decimal point. -/
def fractionPart (positive : Bool) (significand : Nat) (shift : Int) (rest : Rest) :
    Except ReadError (Number × Rest) :=
  match rest with
  | [] => .error .endInValue
  | s :: _ =>
    if isDigit s then
      let (significand, count, rest) := gather significand rest
      scale positive significand (shift - count) (skipDigits rest).2
    else .error .invalidNumber

/-- A whole number that fits no 64-bit word, and a negative zero, is a double. -/
def wholeNumber (positive : Bool) (n : Nat) : Number :=
  if positive then .whole n
  else if n = 0 ∨ UInt64.size / 2 < n then .real (-n.toUInt64.toFloat)
  else .whole (-n)

/-- Reads what follows the integer part, of which `skipped` digits did not fit. -/
def afterInteger (positive : Bool) (significand skipped : Nat) (rest : Rest) :
    Except ReadError (Number × Rest) :=
  match rest with
  | some '.' :: rest => fractionPart positive significand skipped rest
  | rest =>
    if skipped = 0 ∧ ¬ isExponentMark rest then .ok (wholeNumber positive significand, rest)
    else scale positive significand skipped rest

/-- Reads a number whose minus sign, if it has one, has been taken. -/
def number (positive : Bool) (rest : Rest) : Except ReadError (Number × Rest) :=
  match rest with
  | [] => .error .endInValue
  | s :: more =>
    if s = some '0' then
      if startsWithDigit more then .error .invalidNumber else afterInteger positive 0 0 more
    else if isDigit s then
      let (significand, _, left) := gather 0 rest
      let (skipped, left) := skipDigits left
      afterInteger positive significand skipped left
    else .error .invalidNumber

/-! ## Strings -/

def hexDigit? : Symbol → Option Nat
  | some c =>
    if '0' ≤ c ∧ c ≤ '9' then some (c.toNat - '0'.toNat)
    else if 'a' ≤ c ∧ c ≤ 'f' then some (c.toNat - 'a'.toNat + 10)
    else if 'A' ≤ c ∧ c ≤ 'F' then some (c.toNat - 'A'.toNat + 10)
    else none
  | none => none

def symbolSize : Symbol → Nat
  | some c => c.utf8Size
  | none => 1

/-- Reads the four digits of an escape. Four bytes are taken before the digits are looked at, so a
text that ends within them ends in a string. -/
def hexEscape (rest : Rest) : Except ReadError (Nat × Rest) :=
  match (rest.take 4).mapM hexDigit? with
  | some [a, b, c, d] => .ok (((a * 16 + b) * 16 + c) * 16 + d, rest.drop 4)
  | _ =>
    let bytes := (rest.take 4).foldl (fun sum symbol ↦ sum + symbolSize symbol) 0
    if bytes < 4 then .error .endInString else .error .invalidEscape

def isHighSurrogate (unit : Nat) : Bool := 0xD800 ≤ unit ∧ unit ≤ 0xDBFF

def isLowSurrogate (unit : Nat) : Bool := 0xDC00 ≤ unit ∧ unit ≤ 0xDFFF

def surrogatePair (high low : Nat) : Char :=
  Char.ofNat ((high - 0xD800) * 0x400 + (low - 0xDC00) + 0x10000)

/-- Reads what follows `\u`; a character outside the first plane is written as two escapes. -/
def unicodeEscape (rest : Rest) : Except ReadError (Char × Rest) := do
  let (unit, rest) ← hexEscape rest
  if isLowSurrogate unit then .error .loneSurrogate
  else if isHighSurrogate unit then
    match rest with
    | [] => .error .endInString
    | some '\\' :: [] => .error .endInString
    | some '\\' :: some 'u' :: rest => do
      let (low, rest) ← hexEscape rest
      if isLowSurrogate low then .ok (surrogatePair unit low, rest) else .error .loneSurrogate
    | _ => .error .unpairedHighSurrogate
  else .ok (Char.ofNat unit, rest)

/-- Reads what follows a backslash. -/
def escapeSequence (rest : Rest) : Except ReadError (Char × Rest) :=
  match rest with
  | [] => .error .endInString
  | some '"' :: rest => .ok ('"', rest)
  | some '\\' :: rest => .ok ('\\', rest)
  | some '/' :: rest => .ok ('/', rest)
  | some 'b' :: rest => .ok ('\x08', rest)
  | some 'f' :: rest => .ok ('\x0c', rest)
  | some 'n' :: rest => .ok ('\n', rest)
  | some 'r' :: rest => .ok ('\r', rest)
  | some 't' :: rest => .ok ('\t', rest)
  | some 'u' :: rest => unicodeEscape rest
  | _ => .error .invalidEscape

def isControl : Symbol → Bool
  | some c => c.toNat < 0x20
  | none => false

/-- Reads up to the closing quotation mark. -/
def stringBody : Nat → Rest → Except ReadError (List Symbol × Rest)
  | _, [] => .error .endInString
  | 0, _ => .error .endInString
  | fuel + 1, s :: rest =>
    if s = some '"' then .ok ([], rest)
    else if s = some '\\' then do
      let (c, rest) ← escapeSequence rest
      let (body, rest) ← stringBody fuel rest
      .ok (some c :: body, rest)
    else if isControl s then .error .controlCharacter
    else do
      let (body, rest) ← stringBody fuel rest
      .ok (s :: body, rest)

/-- Reads a string whose opening quotation mark has been taken. Broken bytes are judged only once
the whole string has been read. -/
def string (fuel : Nat) (rest : Rest) : Except ReadError (String × Rest) := do
  let (body, rest) ← stringBody fuel rest
  match body.mapM id with
  | none => .error .invalidCodePoint
  | some chars => .ok (String.ofList chars, rest)

end StorefrontLoad.Json
