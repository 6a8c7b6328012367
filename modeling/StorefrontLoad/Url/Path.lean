import StorefrontLoad.Text.Split
import StorefrontLoad.Url.Percent
import StorefrontLoad.Url.Scheme

/-!
# Paths

A path is followed segment by segment: one dot stays, two dots go up, and nothing goes above the
root or above a drive letter.
-/

namespace StorefrontLoad.Url

/-- Tabs and line breaks anywhere in a URL are not there. -/
def isBreak (c : Char) : Bool := c = '\t' ∨ c = '\n' ∨ c = '\r'

def withoutBreaks (text : List Char) : List Char := text.filter (¬ isBreak ·)

def isSingleDot (segment : List Char) : Bool :=
  String.ofList (segment.map Char.toLower) ∈ [".", "%2e"]

def isDoubleDot (segment : List Char) : Bool :=
  String.ofList (segment.map Char.toLower) ∈ ["..", "%2e.", ".%2e", "%2e%2e"]

/-! ## Drive letters -/

def isDriveLetter (segment : List Char) : Bool :=
  match segment with
  | [letter, mark] => letter.isAlpha ∧ (mark = ':' ∨ mark = '|')
  | _ => false

def normalDriveLetter (segment : List Char) : List Char := segment.take 1 ++ [':']

/-- A drive letter parted by a break from the rest of its segment, and that rest. -/
def drivePart? (raw : List Char) : Option (List Char × List Char) :=
  match raw.dropWhile isBreak with
  | letter :: afterLetter =>
    match afterLetter.dropWhile isBreak with
    | ':' :: mark :: rest =>
      if letter.isAlpha ∧ isBreak mark ∧ withoutBreaks rest ≠ [] then
        some ([letter, ':'], withoutBreaks rest)
      else none
    | _ => none
  | [] => none

/-! ## Following a path -/

/-- Where a path has led. -/
structure Trail where
  /-- The last segment first. -/
  segments : List (List Char)
  /-- Whether the first segment was read as a drive letter. -/
  hasDrive : Bool

namespace Trail

def root : Trail := ⟨[], false⟩

/-- Leaves the last segment, but never a drive letter. -/
def up (trail : Trail) : Trail :=
  match trail.segments with
  | [] => trail
  | segment :: rest => if isDriveLetter segment then trail else { trail with segments := rest }

def down (segment : List Char) (trail : Trail) : Trail :=
  { trail with segments := segment :: trail.segments }

/-- Takes up a segment that is no dot. In the path of a file the first one may be a drive letter,
and what a break parts from a drive letter is a segment of its own. -/
def enter (kind : SchemeKind) (raw : List Char) (trail : Trail) : Trail :=
  let segment := withoutBreaks raw
  if kind = .file ∧ trail.segments = [] then
    match drivePart? raw with
    | some (drive, rest) => (trail.down drive).down (encodeWith pathSet rest)
    | none =>
      if isDriveLetter segment then ⟨[normalDriveLetter segment], true⟩
      else trail.down (encodeWith pathSet segment)
  else trail.down (encodeWith pathSet segment)

/-- Follows the segments one by one; one that only moves leaves an empty segment at the end. -/
def follow (kind : SchemeKind) : List (List Char) → Trail → Trail
  | [], trail => trail
  | raw :: rest, trail =>
    let segment := withoutBreaks raw
    if isDoubleDot segment ∨ isSingleDot segment then
      let moved := if isDoubleDot segment then trail.up else trail
      follow kind rest (if rest = [] then moved.down [] else moved)
    else follow kind rest (trail.enter kind raw)

end Trail

/-- Splits at every slash. -/
def rawSegments (kind : SchemeKind) (text : List Char) : List (List Char) :=
  Text.splitOn '/' (text.map fun c ↦ if isSlash kind c then '/' else c)

/-- The trail of a path without its first slash. -/
def trailOf (kind : SchemeKind) (text : List Char) : Trail :=
  Trail.root.follow kind (rawSegments kind text)

/-- The trail of a path behind a host. -/
def trailBehindHost (kind : SchemeKind) (text : List Char) : Trail :=
  match text with
  | [] => if kind.isSpecial then trailOf kind [] else .root
  | c :: rest => if isSlash kind c then trailOf kind rest else trailOf kind text

/-- The segments from the first to the last; a file has none that is empty at the front. -/
def Trail.path (kind : SchemeKind) (trail : Trail) : List (List Char) :=
  let list := trail.segments.reverse
  if kind = .file then
    match list.dropWhile (· = []) with
    | [] => [[]]
    | list => list
  else list

end StorefrontLoad.Url
