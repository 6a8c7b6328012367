import StorefrontLoad.Text.CharClass
import StorefrontLoad.Text.Mark
import StorefrontLoad.Text.Unprintable

/-!
# Text quoted for a message

A text that is shown inside a message stands between quotation marks, with every character that
would not be seen written as an escape.
-/

namespace StorefrontLoad.Text

def codePointEscape (c : Char) : List Char :=
  ['\\', 'u', '{'] ++ Nat.toDigits 16 c.toNat ++ ['}']

/-- Letters that only fill the place of another one and show nothing. -/
def fillers : List Nat := [0x115F, 0x1160, 0x3164, 0xFFA0]

/-- Whether a character alone would not be seen. -/
def isUnseen (c : Char) : Bool :=
  isExtending c ∨ inClass unprintable c ∨ c.toNat ∈ fillers

def quotedChar (c : Char) : List Char :=
  match c with
  | '\x00' => ['\\', '0']
  | '\t' => ['\\', 't']
  | '\r' => ['\\', 'r']
  | '\n' => ['\\', 'n']
  | '\\' => ['\\', '\\']
  | '"' => ['\\', '"']
  | c => if isUnseen c then codePointEscape c else [c]

def quoted (s : String) : String :=
  String.ofList ('"' :: s.toList.flatMap quotedChar ++ ['"'])

end StorefrontLoad.Text
