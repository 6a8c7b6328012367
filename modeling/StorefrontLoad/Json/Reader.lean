import StorefrontLoad.Json.Token

/-!
# Reading a JSON value

Arrays and objects may be nested 127 deep. The bound is checked where a container opens, so it
counts containers and not scalars.
-/

namespace StorefrontLoad.Json

def deepest : Nat := 127

/-- Moves to the next element of an array; `none` when its end has been reached. -/
def nextElement (first : Bool) (rest : Rest) : Except ReadError (Option Rest) :=
  match skipBlanks rest with
  | [] => .error .endInList
  | s :: more =>
    if s = some ']' then .ok none
    else if first then .ok (some (s :: more))
    else if s = some ',' then
      match skipBlanks more with
      | [] => .error .endInValue
      | s :: more => if s = some ']' then .error .trailingComma else .ok (some (s :: more))
    else .error .expectedListCommaOrEnd

/-- Reads the key of the next member of an object; `none` when its end has been reached. -/
def nextKey (fuel : Nat) (first : Bool) (rest : Rest) : Except ReadError (Option (String × Rest)) :=
  match skipBlanks rest with
  | [] => .error .endInObject
  | s :: more =>
    if s = some '}' then .ok none
    else if first then
      if s = some '"' then (string fuel more).map some else .error .keyMustBeString
    else if s = some ',' then
      match skipBlanks more with
      | [] => .error .endInValue
      | s :: more =>
        if s = some '"' then (string fuel more).map some
        else if s = some '}' then .error .trailingComma
        else .error .keyMustBeString
    else .error .expectedObjectCommaOrEnd

def colon (rest : Rest) : Except ReadError Rest :=
  match skipBlanks rest with
  | [] => .error .endInObject
  | s :: more => if s = some ':' then .ok more else .error .expectedColon

/-- Takes the closing bracket that `nextElement` or `nextKey` has stopped at. -/
def close (rest : Rest) : Rest := (skipBlanks rest).drop 1

/-- Reads the elements of an array up to its end. -/
def elements {α : Type} (item : Rest → Except ReadError (α × Rest)) :
    Nat → Bool → Rest → Except ReadError (List α × Rest)
  | 0, _, _ => .error .endInList
  | turns + 1, first, rest => do
    match ← nextElement first rest with
    | none => .ok ([], close rest)
    | some rest => do
      let (a, rest) ← item rest
      let (more, rest) ← elements item turns false rest
      .ok (a :: more, rest)

/-- Reads the members of an object up to its end, each of them changing the state. -/
def members {σ : Type} (fuel : Nat) (entry : σ → String → Rest → Except ReadError (σ × Rest)) :
    Nat → Bool → σ → Rest → Except ReadError (σ × Rest)
  | 0, _, _, _ => .error .endInObject
  | turns + 1, first, state, rest => do
    match ← nextKey fuel first rest with
    | none => .ok (state, close rest)
    | some (key, rest) => do
      let (state, rest) ← entry state key rest
      members fuel entry turns false state rest

/-- Of two members with one key the later one stays. -/
def insertMember {α : Type} (item : Rest → Except ReadError (α × Rest)) (entries : Dictionary α)
    (key : String) (rest : Rest) : Except ReadError (Dictionary α × Rest) := do
  let rest ← colon rest
  let (a, rest) ← item rest
  .ok (entries.insert key a, rest)

/-- Reads a value whose containers hold what `inside` reads; without it no container may open. -/
def valueWith (fuel : Nat) (inside : Option (Rest → Except ReadError (Value × Rest)))
    (rest : Rest) : Except ReadError (Value × Rest) :=
  match skipBlanks rest with
  | [] => .error .endInValue
  | some 'n' :: rest => (literal ['u', 'l', 'l'] rest).map (.null, ·)
  | some 't' :: rest => (literal ['r', 'u', 'e'] rest).map (.bool true, ·)
  | some 'f' :: rest => (literal ['a', 'l', 's', 'e'] rest).map (.bool false, ·)
  | some '-' :: rest => (number false rest).map fun (n, rest) ↦ (.number n, rest)
  | some '"' :: rest => (string fuel rest).map fun (s, rest) ↦ (.string s, rest)
  | some '[' :: rest =>
    match inside with
    | none => .error .tooDeep
    | some item => (elements item fuel true rest).map fun (items, rest) ↦ (.array items, rest)
  | some '{' :: rest =>
    match inside with
    | none => .error .tooDeep
    | some item =>
      (members fuel (insertMember item) fuel true [] rest).map fun (fields, rest) ↦
        (.object fields, rest)
  | s :: rest =>
    if isDigit s then (number true (s :: rest)).map fun (n, rest) ↦ (.number n, rest)
    else .error .expectedValue

/-- Reads a value in which at most the given number of containers are nested. -/
def value (fuel : Nat) : Nat → Rest → Except ReadError (Value × Rest)
  | 0 => valueWith fuel none
  | depth + 1 => valueWith fuel (some (value fuel depth))

/-- Only blanks may follow a document. -/
def endDocument (rest : Rest) : Except ReadError Unit :=
  match skipBlanks rest with
  | [] => .ok ()
  | _ => .error .trailingCharacters

def document {α : Type} (read : Nat → Nat → Rest → Except ReadError (α × Rest))
    (symbols : Rest) : Except ReadError α := do
  let (a, rest) ← read symbols.length deepest symbols
  endDocument rest
  .ok a

def Value.ofText (text : String) : Except ReadError Value :=
  document value (Text.symbolsOfText text.toList)

end StorefrontLoad.Json
