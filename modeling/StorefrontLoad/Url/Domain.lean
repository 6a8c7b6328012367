import StorefrontLoad.Text.Canonical
import StorefrontLoad.Text.Direction
import StorefrontLoad.Text.Joining
import StorefrontLoad.Text.Utf8
import StorefrontLoad.Url.Error
import StorefrontLoad.Url.Mapping
import StorefrontLoad.Url.Punycode

/-!
# Domain names

A domain is compared and sent in plain letters and in ASCII; a label with other characters is
written in Punycode behind `xn--`.
-/

namespace StorefrontLoad.Url

open Text (canonical direction joiner nonJoiner)

/-- ASCII characters that no domain holds, beside the controls and the space. -/
def deniedChars : List Char :=
  ['%', '#', '/', ':', '<', '>', '?', '@', '[', '\\', ']', '^', '|']

def isDenied (c : Char) : Bool := c.toNat ≤ 0x20 ∨ c.toNat = 0x7F ∨ c ∈ deniedChars

def isAscii (text : List Char) : Bool := text.all (·.toNat < 0x80)

/-- A name in plain letters, unless it holds a character that no name may hold. -/
def plainName? (name : List Char) : Option (List Char) := do
  let forms ← name.mapM plainForm?
  let plain := canonical forms.flatten
  if plain.any isDenied then none else some plain

/-! ## Joiners -/

/-- Whether each joiner follows a virama; one that parts two letters may also stand where these
would be joined. What has been read is given backwards. -/
def hasJoinersInPlace (before : List Char) : List Char → Bool
  | [] => true
  | c :: rest =>
    let isInPlace : Bool := before.head?.any (Text.combiningClass · = Text.viramaClass) ∨
      (c = nonJoiner ∧ Text.isJoint before rest)
    ((c ≠ nonJoiner ∧ c ≠ joiner) ∨ isInPlace) && hasJoinersInPlace (c :: before) rest

/-! ## Labels -/

/-- Labels beyond these lengths are not worked on. -/
def longestLabel : Nat := 1000

def longestPunycode : Nat := 2000

/-- Whether a label with characters beyond ASCII may stand in a name. -/
def isValidLabel (label : List Char) : Bool :=
  ¬ label.head?.any Text.isMark ∧ hasJoinersInPlace [] label ∧ label.length ≤ longestLabel

/-- A label as it is read and as it is sent. -/
structure Label where
  shown : List Char
  sent : List Char

def punycodeMark : List Char := ['x', 'n', '-', '-']

/-- Reads what Punycode stands for, which has to be plain and not in ASCII alone. -/
def labelOfPunycode? (label : List Char) : Option Label := do
  let code := label.drop punycodeMark.length
  if ¬ isAscii code ∨ code.getLast?.all (· = '-') ∨ longestPunycode < code.length then none
  else do
    let shown ← Punycode.decode? code
    if plainName? shown = some shown ∧ '.' ∉ shown ∧ isValidLabel shown then some ⟨shown, label⟩
    else none

def labelOf? (label : List Char) : Option Label :=
  if punycodeMark.isPrefixOf label then labelOfPunycode? label
  else if isAscii label then some ⟨label, label⟩
  else if isValidLabel label then some ⟨label, punycodeMark ++ Punycode.encode label⟩
  else none

/-! ## Direction -/

/-- Whether a label keeps one direction, so that it looks the same wherever it stands. -/
def keepsDirection (label : List Char) : Bool :=
  let classes := label.map direction
  let ending := (classes.reverse.dropWhile (· = .mark)).head?
  match classes.head? with
  | none => true
  | some .toRight =>
    classes.all (· ∈ [.toRight, .europeanDigit, .neutral, .mark]) &&
      ending.any (· ∈ [.toRight, .europeanDigit])
  | some .toLeft =>
    classes.all (· ≠ .toRight) && ending.any (· ∈ [.toLeft, .europeanDigit, .arabicDigit]) &&
      !(classes.contains .europeanDigit && classes.contains .arabicDigit)
  | some _ => false

/-- Whether a label makes the order of a name depend on directions; in ASCII none does. -/
def hasDirection (label : List Char) : Bool :=
  label.any fun c ↦ 0x80 ≤ c.toNat ∧ (direction c = .toLeft ∨ direction c = .arabicDigit)

/-! ## Whole names -/

def domainToAscii? (bytes : List UInt8) : Option (List Char) := do
  let text ← Text.decode? bytes
  let name ← plainName? text
  let labels ← (Text.splitOn '.' name).mapM labelOf?
  if labels.any (hasDirection ·.shown) ∧ ¬ labels.all (keepsDirection ·.shown) then none
  else some (Text.joinWith '.' (labels.map Label.sent))

def domainToAscii (bytes : List UInt8) : Except ParseError (List Char) :=
  match domainToAscii? bytes with
  | some domain => .ok domain
  | none => .error .invalidDomain

end StorefrontLoad.Url
