import StorefrontLoad.Text.Digits
import StorefrontLoad.Text.Utf8

/-!
# Percent-encoding

Each part of a URL encodes its own set of ASCII characters, and always the controls and all that is
not ASCII.
-/

namespace StorefrontLoad.Url

def upperHexDigit (n : Nat) : Char := (Nat.digitChar n).toUpper

def encodeByte (b : UInt8) : List Char :=
  ['%', upperHexDigit (b.toNat / 16), upperHexDigit (b.toNat % 16)]

/-- Encodes the controls, the characters beyond ASCII and those of `extra`. -/
def encodeChar (extra : List Char) (c : Char) : List Char :=
  if c.toNat < 0x20 ∨ 0x7E < c.toNat ∨ c ∈ extra then
    (String.utf8EncodeChar c).flatMap encodeByte
  else [c]

def encodeWith (extra : List Char) (text : List Char) : List Char :=
  text.flatMap (encodeChar extra)

def fragmentSet : List Char := [' ', '"', '<', '>', '`']

def pathSet : List Char := fragmentSet ++ ['#', '?', '{', '}']

def userinfoSet : List Char := pathSet ++ ['/', ':', ';', '=', '@', '[', '\\', ']', '^', '|']

def querySet : List Char := [' ', '"', '#', '<', '>']

/-- A special scheme encodes the apostrophe too. -/
def specialQuerySet : List Char := '\'' :: querySet

/-- The bytes a text stands for; a percent sign without two digits behind it stands for itself. -/
def decodePercent : List Char → List UInt8
  | [] => []
  | '%' :: a :: b :: rest =>
    match Text.digitValue? 16 a, Text.digitValue? 16 b with
    | some high, some low => (high * 16 + low).toUInt8 :: decodePercent rest
    | _, _ => '%'.toNat.toUInt8 :: decodePercent (a :: b :: rest)
  | c :: rest => String.utf8EncodeChar c ++ decodePercent rest

end StorefrontLoad.Url
