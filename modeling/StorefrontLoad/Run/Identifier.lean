/-!
# Identifiers of runs

A run that is given no name gets one made of random bytes. Every byte stands for one of 64 letters,
all of which can be part of a file name or of a URL.
-/

namespace StorefrontLoad.Run.Identifier

def length : Nat := 21

def letters : List Char :=
  "_-0123456789abcdefghijklmnopqrstuvwxyzABCDEFGHIJKLMNOPQRSTUVWXYZ".toList

/-- The letter of the six low bits of a byte. -/
def letter (byte : UInt8) : Char := letters.getD (byte.toNat % 64) '_'

def ofBytes (bytes : List UInt8) : String := String.ofList ((bytes.take length).map letter)

end StorefrontLoad.Run.Identifier
