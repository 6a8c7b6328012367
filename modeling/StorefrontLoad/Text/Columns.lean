import StorefrontLoad.Text.Emoji
import StorefrontLoad.Text.Joining
import StorefrontLoad.Text.Width

/-!
# Width of a text

A terminal shows some characters together that have a width each: letters that form a ligature, and
emoji that a selector, a tone of skin or a joiner ties. So a text is measured from its end, and what
has been passed decides what the next character adds.
-/

namespace StorefrontLoad.Text

/-- What stands behind a place, as far as it matters for the character before it. Where `joined` is
said, a joiner has been passed. -/
inductive Sequel
  | other
  | lineFeed
  /-- A selector that widens a quotation mark. -/
  | quoteForm
  | alef
  | lamed (joined : Bool)
  | khmerLetter
  | ya (joined : Bool)
  /-- A joined ya below its vowel. -/
  | vowelAndYa
  | tifinagh (joined : Bool)
  /-- A consonant behind the sign that joins consonants. -/
  | tifinaghJoined
  | lisuTone
  | orkhonI (joined : Bool)
  | kiratE
  | kiratAi
  | emoji
  | skinTone
  | flagLetter
  | flag
  | joinedEmoji
  | joinedKeycap
  | joinedFlagLetter
  | joinedFlag
  | joinedOddFlag
  /-- The end of a flag's tags and how many of them have been passed. -/
  | joinedTags (count : Nat)
  deriving DecidableEq, Repr

namespace Sequel

/-- Whether the letter can form a ligature, which a selector does not hinder. -/
def isLetter : Sequel → Bool
  | alef | lamed _ | khmerLetter | ya _ | vowelAndYa | tifinagh _ | tifinaghJoined | lisuTone
  | orkhonI _ => true
  | _ => false

/-- Whether a joiner and signs that are never shown may stand within the ligature. -/
def passesSigns (s : Sequel) : Bool := s.isLetter ∧ s ≠ alef

def withJoiner : Sequel → Sequel
  | lamed _ => lamed true
  | ya _ => ya true
  | tifinagh _ => tifinagh true
  | orkhonI _ => orkhonI true
  | s => s

/-- Whether a selected emoji before it would be tied to it. -/
def tiesSelected (s : Sequel) : Bool := s = joinedEmoji ∨ s = joinedKeycap

end Sequel

/-! ## Ligatures -/

/-- The letters lam. -/
def lams : List Nat := [
  0x644, 0x645, 0x6B5, 0x6B9, 0x76A, 0x76B, 0x8A6, 0x8A7, 0x8C7, 0x8C8]

/-- The letters alef. -/
def alefs : List Nat := [
  0x622, 0x624, 0x625, 0x626, 0x627, 0x628, 0x671, 0x674, 0x675, 0x676, 0x773, 0x775, 0x870, 0x883]

/-- Khmer letters whose form below another letter takes no room. -/
def khmerLetters : List Nat := [
  0x1780, 0x1783, 0x1784, 0x1788, 0x1789, 0x178D, 0x178E, 0x1794, 0x1795, 0x1799, 0x179B, 0x179E,
  0x17A0, 0x17A1, 0x17A2, 0x17A3, 0x17A7, 0x17A8, 0x17AB, 0x17AD, 0x17AF, 0x17B0]

def isTifinaghConsonant (c : Char) : Bool :=
  (0x2D31 ≤ c.toNat ∧ c.toNat ≤ 0x2D65) ∨ c.toNat = 0x2D6F

/-- Format characters that Arabic letters are joined across. -/
def transparentFormats : List Nat := [
  0xAD, 0xAE, 0x61C, 0x61D, 0x70F, 0x710, 0x200B, 0x200C, 0x200E, 0x2010, 0x202A, 0x202F, 0x2060,
  0x2065, 0x206A, 0x2070, 0xFEFF, 0xFF00, 0x1BCA0, 0x1BCA4, 0x1D173, 0x1D17B, 0xE0001, 0xE0002,
  0xE0020, 0xE0080]

/-- Whether a character without a width does not part two Arabic letters. -/
def isPassedOver (c : Char) : Bool :=
  charWidth c = 0 ∧ (isTransparent c ∨ inClass transparentFormats c)

/-- Marks that are never shown. -/
def hiddenMarks : List Nat := [
  0x34F, 0x350, 0x17B4, 0x17B6, 0x180B, 0x180E, 0x180F, 0x1810, 0xFE00, 0xFE10, 0xE0100, 0xE01F0]

/-- The width that a character adds, and what then stands behind the place before it. -/
abbrev Step := Int × Sequel

def stepIf (holds : Bool) (width : Int) (next : Sequel) : Option Step :=
  if holds then some (width, next) else none

def ligatureStep? (c : Char) : Sequel → Option Step
  | .quoteForm => stepIf (c.toNat ∈ [0x2018, 0x2019, 0x201C, 0x201D]) 2 .other
  | .alef => if isPassedOver c then some (0, .alef) else stepIf (inClass lams c) 0 .other
  | .lamed true => stepIf (c.toNat = 0x5D0) 0 .other
  | .khmerLetter => stepIf (c.toNat = 0x17D2) (-1) .other
  | .ya true => stepIf (c.toNat = 0x1A17) 0 .vowelAndYa
  | .vowelAndYa => stepIf (c.toNat = 0x1A15) 0 .other
  | .tifinagh joined =>
    if c.toNat = 0x2D7F then some (1, .tifinaghJoined)
    else stepIf (joined && isTifinaghConsonant c) 0 .other
  | .tifinaghJoined => stepIf (isTifinaghConsonant c) (-1) .other
  | .lisuTone => stepIf (0xA4F8 ≤ c.toNat ∧ c.toNat ≤ 0xA4FB) 0 .other
  | .orkhonI true => stepIf (c.toNat = 0x10C32) 0 .other
  | .kiratE =>
    match c.toNat with
    | 0x16D63 | 0x16D69 => some (0, .other)
    | 0x16D67 => some (0, .kiratAi)
    | 0x16D68 => some (1, .kiratE)
    | _ => none
  | .kiratAi => stepIf (c.toNat = 0x16D63) 0 .other
  | _ => none

/-! ## Emoji in sequence -/

/-- What a joiner ties is shown in the place of what follows it, so its width is taken back. -/
def emojiStep? (c : Char) : Sequel → Option Step
  | .emoji => stepIf (c = joiner) 0 .joinedEmoji
  | .skinTone =>
    if c = joiner then some (0, .joinedEmoji) else stepIf (isTonable c) 0 .emoji
  | .flagLetter => stepIf (isFlagLetter c) 1 .flag
  | .flag => if c = joiner then some (0, .joinedEmoji) else stepIf (isFlagLetter c) 1 .flag
  | .joinedEmoji =>
    if c.toNat = 0x20E3 then some (0, .joinedKeycap)
    else if c.toNat = 0xE007F then some (0, .joinedTags 0)
    else if isFlagLetter c then some (1, .joinedFlagLetter)
    else if isSkinTone c then some (0, .skinTone)
    else stepIf (isPicture c) 0 .emoji
  | .joinedFlagLetter => stepIf (isFlagLetter c) (-1) .joinedFlag
  | .joinedFlag =>
    if c = joiner then some (0, .joinedEmoji) else stepIf (isFlagLetter c) 3 .joinedOddFlag
  | .joinedOddFlag =>
    if c = joiner then some (0, .joinedEmoji) else stepIf (isFlagLetter c) (-1) .joinedFlag
  | .joinedTags count =>
    if isTag c ∧ count < 6 then some (0, .joinedTags (count + 1))
    else stepIf (c.toNat = 0x1F3F4 ∧ 3 ≤ count) 0 .emoji
  | _ => none

/-! ## Measuring -/

/-- What a character is to the character before it. -/
def sequelOf (c : Char) : Sequel :=
  if isPicture c then .emoji
  else if isFlagLetter c then .flagLetter
  else if isSkinTone c then .skinTone
  else if inClass alefs c then .alef
  else if inClass khmerLetters c then .khmerLetter
  else if isTifinaghConsonant c then .tifinagh false
  else match c.toNat with
    | 0x5DC => .lamed false
    | 0x1A10 => .ya false
    | 0xA4FC | 0xA4FD => .lisuTone
    | 0xFE01 => .quoteForm
    | 0x10C03 => .orkhonI false
    | 0x16D67 => .kiratE
    | 0x16D68 => .kiratAi
    | _ => .other

inductive Selector
  | emoji
  | text
  deriving DecidableEq, Repr

/-- A place in a text that is measured from its end. -/
structure Place where
  sequel : Sequel
  /-- The selector that directly follows the place. -/
  selector : Option Selector

namespace Place

def behind (s : Sequel) : Place := ⟨s, none⟩

/-- What is left to take into account when the selector found nothing to select. -/
def unselected (p : Place) : Sequel :=
  match p.selector with
  | none => p.sequel
  | some _ => if p.sequel.isLetter then p.sequel else .other

def select (selector : Selector) (s : Sequel) : Place :=
  if s.isLetter ∨ (selector = .emoji ∧ s.tiesSelected) then ⟨s, some selector⟩
  else ⟨.other, some selector⟩

end Place

/-- What a character beyond Latin adds; selectors apart. -/
def plainStep (c : Char) (s : Sequel) : Step :=
  if s.passesSigns ∧ c = joiner then (0, s.withJoiner)
  else if s.passesSigns ∧ inClass hiddenMarks c then (0, s)
  else match (ligatureStep? c s).or (emojiStep? c s) with
    | some step => step
    | none => (charWidth c, sequelOf c)

/-- Controls have a width; of the two that end a line only one. -/
def latinStep (c : Char) (s : Sequel) : Step :=
  if c = '\n' then (1, .lineFeed)
  else if c = '\r' ∧ s = .lineFeed then (0, .other)
  else (1, .other)

def step (c : Char) (p : Place) : Int × Place :=
  if p.selector = some .emoji ∧ hasEmojiForm c then
    (if p.sequel.tiesSelected then 0 else 2, .behind .emoji)
  else if p.selector = some .text ∧ hasTextForm c then (1, .behind .other)
  else
    let s := p.unselected
    if c.toNat = 0xFE0F then (0, .select .emoji s)
    else if c.toNat = 0xFE0E then (0, .select .text s)
    else
      let (width, s) := if c.toNat ≤ 0xA0 then latinStep c s else plainStep c s
      (width, .behind s)

/-- How many columns of a terminal a text takes. -/
def width (text : List Char) : Nat :=
  let measured := text.foldr
    (fun c (sum, p) ↦
      let (width, p) := step c p
      (sum + width, p))
    ((0 : Int), Place.behind .other)
  measured.1.toNat

end StorefrontLoad.Text
