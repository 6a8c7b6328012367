import StorefrontLoad.Text.CharClass

/-!
# Blank text

White space is meant in the sense of the Unicode property of that name, which is wider than the
four blanks that may stand between the tokens of a JSON text.
-/

namespace StorefrontLoad.Text

/-- The Unicode property White_Space. -/
def whiteSpace : List Nat := [
  0x9, 0xe, 0x20, 0x21, 0x85, 0x86, 0xa0, 0xa1, 0x1680, 0x1681, 0x2000, 0x200b, 0x2028, 0x202a,
  0x202f, 0x2030, 0x205f, 0x2060, 0x3000, 0x3001]

def isWhiteSpace (c : Char) : Bool := inClass whiteSpace c

def isBlank (text : List Char) : Bool := text.all isWhiteSpace

end StorefrontLoad.Text
