import StorefrontLoad.Decimal.Shortest
import StorefrontLoad.Json.Value

/-!
# Compact JSON text

Values are written without blanks. A string escapes the quotation mark, the backslash and the
control characters below U+0020 and holds every other character as it is, so a written value never
breaks a line.
-/

namespace StorefrontLoad.Json

/-- Which numbers are written without an exponent, by the decimal exponent of their first digit. -/
structure RealFormat where
  smallestPlain : Int
  largestPlain : Int

/-- Numbers from 0.00001 up to the last one below 10^16 are written plainly. -/
def realFormat : RealFormat := ⟨-5, 15⟩

def wholeText (n : Int) : List Char :=
  match n with
  | .ofNat k => Nat.toDigits 10 k
  | .negSucc k => '-' :: Nat.toDigits 10 (k + 1)

/-- Without an exponent, with at least one digit on each side of the point. -/
def plainText (d : Decimal.Scientific) : List Char :=
  let digits := d.digitChars
  if 0 ≤ d.exponent then digits ++ List.replicate d.exponent.toNat '0' ++ ['.', '0']
  else
    let places := (-d.exponent).toNat
    if places < digits.length then
      digits.take (digits.length - places) ++ '.' :: digits.drop (digits.length - places)
    else '0' :: '.' :: List.replicate (places - digits.length) '0' ++ digits

def exponentText (d : Decimal.Scientific) : List Char :=
  let mantissa := match d.digitChars with
    | [] => []
    | [c] => [c]
    | c :: rest => c :: '.' :: rest
  let sign := if 0 ≤ d.magnitude then '+' else '-'
  mantissa ++ 'e' :: sign :: Nat.toDigits 10 d.magnitude.natAbs

def realText (x : Float) : List Char :=
  let b := Decimal.Binary.ofFloat x
  let d := Decimal.shortest b
  let magnitude :=
    if realFormat.smallestPlain ≤ d.magnitude ∧ d.magnitude ≤ realFormat.largestPlain then
      plainText d
    else exponentText d
  if b.negative then '-' :: magnitude else magnitude

def Number.text : Number → List Char
  | .whole n => wholeText n
  | .real x => realText x

def escape (c : Char) : List Char :=
  match c with
  | '"' => ['\\', '"']
  | '\\' => ['\\', '\\']
  | '\x08' => ['\\', 'b']
  | '\x0c' => ['\\', 'f']
  | '\n' => ['\\', 'n']
  | '\r' => ['\\', 'r']
  | '\t' => ['\\', 't']
  | c =>
    if c.toNat < 0x20 then
      ['\\', 'u', '0', '0', Nat.digitChar (c.toNat / 16), Nat.digitChar (c.toNat % 16)]
    else [c]

def quote (s : String) : List Char := '"' :: s.toList.flatMap escape ++ ['"']

/-- Writes `parts` with commas between them. -/
def commaSeparated : List (List Char) → List Char
  | [] => []
  | [part] => part
  | part :: rest => part ++ ',' :: commaSeparated rest

/-- Writes members in the order given, each value by the text it already has. -/
def objectText (members : List (String × List Char)) : List Char :=
  '{' :: commaSeparated (members.map fun (key, value) ↦ quote key ++ ':' :: value) ++ ['}']

def optionText {α : Type} (text : α → List Char) : Option α → List Char
  | none => ['n', 'u', 'l', 'l']
  | some a => text a

mutual

def Value.text : Value → List Char
  | .null => ['n', 'u', 'l', 'l']
  | .bool true => ['t', 'r', 'u', 'e']
  | .bool false => ['f', 'a', 'l', 's', 'e']
  | .number n => n.text
  | .string s => quote s
  | .array items => '[' :: commaSeparated (itemTexts items) ++ [']']
  | .object fields => '{' :: commaSeparated (memberTexts fields) ++ ['}']

def itemTexts : List Value → List (List Char)
  | [] => []
  | item :: rest => item.text :: itemTexts rest

def memberTexts : List (String × Value) → List (List Char)
  | [] => []
  | (key, value) :: rest => (quote key ++ ':' :: value.text) :: memberTexts rest

end

def Value.toText (v : Value) : String := String.ofList v.text

end StorefrontLoad.Json
