import StorefrontLoad.Json.Reader

/-!
# Passing over a value nobody asked for

The value of an unknown member has to be JSON, but it is not built: its strings may pair surrogates
wrongly or hold broken bytes, its numbers may be of any size, and it may be nested to any depth.
-/

namespace StorefrontLoad.Json

/-- Reads what follows a backslash. -/
def skipEscape (rest : Rest) : Except ReadError Rest :=
  match rest with
  | [] => .error .endInString
  | some 'u' :: rest => (hexEscape rest).map Prod.snd
  | s :: rest =>
    if ['"', '\\', '/', 'b', 'f', 'n', 'r', 't'].any (some · = s) then .ok rest
    else .error .invalidEscape

/-- Passes over the rest of a string, up to and with its closing quotation mark. -/
def skipString : Nat → Rest → Except ReadError Rest
  | _, [] => .error .endInString
  | 0, _ => .error .endInString
  | fuel + 1, s :: rest =>
    if s = some '"' then .ok rest
    else if s = some '\\' then do
      let rest ← skipEscape rest
      skipString fuel rest
    else if isControl s then .error .controlCharacter
    else skipString fuel rest

def skipExponent (rest : Rest) : Except ReadError Rest :=
  let digits := match rest with
    | some '+' :: rest => rest
    | some '-' :: rest => rest
    | rest => rest
  if startsWithDigit digits then .ok (digits.dropWhile isDigit) else .error .invalidNumber

/-- Reads an optional exponent. -/
def skipScale (rest : Rest) : Except ReadError Rest :=
  if isExponentMark rest then skipExponent (rest.drop 1) else .ok rest

/-- Passes over a number whose minus sign, if it has one, has been taken. -/
def skipNumber (rest : Rest) : Except ReadError Rest :=
  if startsWithDigit rest then
    let afterInteger := rest.dropWhile isDigit
    if rest.head? = some (some '0') ∧ startsWithDigit (rest.drop 1) then .error .invalidNumber
    else
      match afterInteger with
      | some '.' :: rest =>
        if startsWithDigit rest then skipScale (rest.dropWhile isDigit) else .error .invalidNumber
      | rest => skipScale rest
  else .error .invalidNumber

/-- A container that is still open. -/
inductive Frame
  | list
  | object
  deriving DecidableEq

namespace Frame

def closing : Frame → Char
  | list => ']'
  | object => '}'

def endError : Frame → ReadError
  | list => .endInList
  | object => .endInObject

def commaError : Frame → ReadError
  | list => .expectedListCommaOrEnd
  | object => .expectedObjectCommaOrEnd

end Frame

/-- Leaves every container that ends here. After a value a comma leads on to the next one; a
container that was just opened needs none. -/
def closeFrames : Bool → List Frame → Rest → Except ReadError (List Frame × Rest)
  | _, [], rest => .ok ([], rest)
  | afterValue, frame :: outer, rest =>
    match skipBlanks rest with
    | [] => .error frame.endError
    | s :: more =>
      if afterValue ∧ s = some ',' then .ok (frame :: outer, more)
      else if s = some frame.closing then closeFrames true outer more
      else if afterValue then .error frame.commaError
      else .ok (frame :: outer, s :: more)

def skipKey (fuel : Nat) (rest : Rest) : Except ReadError Rest :=
  match skipBlanks rest with
  | [] => .error .endInObject
  | s :: rest =>
    if s = some '"' then do
      let rest ← skipString fuel rest
      colon rest
    else .error .keyMustBeString

/-- Passes over a scalar, or the opening bracket of a container. -/
def skipStart (fuel : Nat) (rest : Rest) : Except ReadError (Option Frame × Rest) :=
  match skipBlanks rest with
  | [] => .error .endInValue
  | some 'n' :: rest => (literal ['u', 'l', 'l'] rest).map (none, ·)
  | some 't' :: rest => (literal ['r', 'u', 'e'] rest).map (none, ·)
  | some 'f' :: rest => (literal ['a', 'l', 's', 'e'] rest).map (none, ·)
  | some '-' :: rest => (skipNumber rest).map (none, ·)
  | some '"' :: rest => (skipString fuel rest).map (none, ·)
  | some '[' :: rest => .ok (some .list, rest)
  | some '{' :: rest => .ok (some .object, rest)
  | s :: rest =>
    if isDigit s then (skipNumber (s :: rest)).map (none, ·) else .error .expectedValue

def skipValues (fuel : Nat) : Nat → List Frame → Rest → Except ReadError Rest
  | 0, _, _ => .error .endInValue
  | turns + 1, frames, rest => do
    let (opened, rest) ← skipStart fuel rest
    let (frames, rest) ← closeFrames opened.isNone (opened.toList ++ frames) rest
    match frames with
    | [] => .ok rest
    | .list :: _ => skipValues fuel turns frames rest
    | .object :: _ => do
      let rest ← skipKey fuel rest
      skipValues fuel turns frames rest

def skipValue (fuel : Nat) (rest : Rest) : Except ReadError Rest :=
  skipValues fuel (fuel + 1) [] rest

end StorefrontLoad.Json
