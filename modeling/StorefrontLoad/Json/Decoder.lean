import StorefrontLoad.Json.Skip

/-!
# Reading text as data of a known shape

A decoder reads the text of one value and reports the first thing that is wrong with it in the order
of the text, be it the grammar or the shape.
-/

namespace StorefrontLoad.Json

/-- Takes the bound on turns, the number of containers that may still be nested and the symbols
that are left. -/
abbrev Decoder (α : Type) := Nat → Nat → Rest → Except ReadError (α × Rest)

namespace Decoder

/-- The error for a value that is not of the expected shape. A scalar is read to the end to name it,
so a grammar error inside it comes first. -/
def mismatch (fuel : Nat) (expected : String) (rest : Rest) : ReadError :=
  let wrong {α : Type} (found : α → Found) (read : Except ReadError α) : ReadError :=
    match read with
    | .error e => e
    | .ok a => .invalidType (found a) expected
  match rest with
  | some 'n' :: rest => wrong (fun _ ↦ .null) (literal ['u', 'l', 'l'] rest)
  | some 't' :: rest => wrong (fun _ ↦ .bool true) (literal ['r', 'u', 'e'] rest)
  | some 'f' :: rest => wrong (fun _ ↦ .bool false) (literal ['a', 'l', 's', 'e'] rest)
  | some '-' :: rest => wrong (fun read ↦ .number read.1) (number false rest)
  | some '"' :: rest => wrong (fun read ↦ .string read.1) (Json.string fuel rest)
  | some '[' :: _ => .invalidType .sequence expected
  | some '{' :: _ => .invalidType .map expected
  | rest =>
    if startsWithDigit rest then wrong (fun read ↦ .number read.1) (number true rest)
    else .expectedValue

def string : Decoder String := fun fuel _ rest ↦
  match skipBlanks rest with
  | [] => .error .endInValue
  | some '"' :: rest => Json.string fuel rest
  | rest => .error (mismatch fuel "a string" rest)

/-- Reads a number and hands it to `accept`. -/
def numeric {α : Type} (expected : String) (accept : Number → Except ReadError α) : Decoder α :=
  fun fuel _ rest ↦
    match skipBlanks rest with
    | [] => .error .endInValue
    | some '-' :: rest => do
      let (n, rest) ← number false rest
      let a ← accept n
      .ok (a, rest)
    | rest =>
      if startsWithDigit rest then do
        let (n, rest) ← number true rest
        let a ← accept n
        .ok (a, rest)
      else .error (mismatch fuel expected rest)

/-- An unsigned 64-bit word; `expected` is the name that errors use for it. -/
def unsigned (expected : String) : Decoder UInt64 := numeric expected fun
  | .whole n => if n < 0 then .error (.invalidValue n expected) else .ok n.toNat.toUInt64
  | n => .error (.invalidType (.number n) expected)

def signed : Decoder Int64 := numeric "i64" fun
  | .whole n =>
    if n.toNat < UInt64.size / 2 then .ok (Int64.ofInt n) else .error (.invalidValue n "i64")
  | n => .error (.invalidType (.number n) "i64")

/-- A whole number counts as the double nearest to it. -/
def real : Decoder Float := numeric "f64" fun
  | .whole n => .ok (if n < 0 then -n.natAbs.toUInt64.toFloat else n.natAbs.toUInt64.toFloat)
  | .real x => .ok x

/-- Takes `null` for an absent value. -/
def optional {α : Type} (decode : Decoder α) : Decoder (Option α) := fun fuel depth rest ↦
  match skipBlanks rest with
  | some 'n' :: rest => (literal ['u', 'l', 'l'] rest).map (none, ·)
  | rest => (decode fuel depth rest).map fun (a, rest) ↦ (some a, rest)

def dictionary {α : Type} (decode : Decoder α) : Decoder (Dictionary α) := fun fuel depth rest ↦
  match skipBlanks rest with
  | [] => .error .endInValue
  | some '{' :: rest =>
    match depth with
    | 0 => .error .tooDeep
    | depth + 1 => members fuel (insertMember (decode fuel depth)) fuel true [] rest
  | rest => .error (mismatch fuel "a map" rest)

def list {α : Type} (decode : Decoder α) : Decoder (List α) := fun fuel depth rest ↦
  match skipBlanks rest with
  | [] => .error .endInValue
  | some '[' :: rest =>
    match depth with
    | 0 => .error .tooDeep
    | depth + 1 => elements (decode fuel depth) fuel true rest
  | rest => .error (mismatch fuel "a sequence" rest)

end Decoder

/-- One field of a record, read into a draft that may still lack fields. -/
structure Field (Draft : Type) where
  name : String
  isSet : Draft → Bool
  read : Draft → Decoder Draft
  /-- A record written as an array may stop before this field. -/
  mayEnd : Bool

/-- The shape of a record: an object with known members, or the array of its fields in order. -/
structure Record (Draft α : Type) where
  name : String
  empty : Draft
  fields : List (Field Draft)
  finish : Draft → Except ReadError α

namespace Field

/-- A field that keeps what `decode` reads. -/
def of {Draft α : Type} (name : String) (decode : Decoder α) (get : Draft → Option α)
    (set : Draft → α → Draft) : Field Draft where
  name := name
  isSet draft := (get draft).isSome
  read draft fuel depth rest := (decode fuel depth rest).map fun (a, rest) ↦ (set draft a, rest)
  mayEnd := false

/-- The value of a field at the end of an object that has to name it. -/
def required {α : Type} (name : String) : Option α → Except ReadError α
  | none => .error (.missingField name)
  | some a => .ok a

end Field

namespace Record

variable {Draft α : Type}

/-- Reads one member; a member without a field is passed over. -/
def entry (record : Record Draft α) (fuel depth : Nat) (draft : Draft) (key : String)
    (rest : Rest) : Except ReadError (Draft × Rest) :=
  match record.fields.find? (·.name = key) with
  | none => do
    let rest ← colon rest
    let rest ← skipValue fuel rest
    .ok (draft, rest)
  | some field =>
    if field.isSet draft then .error (.duplicateField key)
    else do
      let rest ← colon rest
      field.read draft fuel depth rest

/-- Reads the fields in order from an array. -/
def sequence (record : Record Draft α) (fuel depth : Nat) :
    List (Field Draft) → Nat → Draft → Rest → Except ReadError (Draft × Rest)
  | [], _, draft, rest => .ok (draft, rest)
  | field :: fields, position, draft, rest => do
    match ← nextElement (position = 0) rest with
    | none =>
      if field.mayEnd then sequence record fuel depth fields position draft rest
      else .error (.invalidLength position
        s!"struct {record.name} with {record.fields.length} elements")
    | some rest => do
      let (draft, rest) ← field.read draft fuel depth rest
      sequence record fuel depth fields (position + 1) draft rest

/-- Nothing but the closing bracket may follow the last field. -/
def endSequence (rest : Rest) : Except ReadError Rest :=
  match skipBlanks rest with
  | [] => .error .endInList
  | s :: rest =>
    if s = some ']' then .ok rest
    else if s = some ',' ∧ (skipBlanks rest).head? = some (some ']') then .error .trailingComma
    else .error .trailingCharacters

def decoder (record : Record Draft α) : Decoder α := fun fuel depth rest ↦
  match skipBlanks rest with
  | [] => .error .endInValue
  | some '[' :: rest =>
    match depth with
    | 0 => .error .tooDeep
    | depth + 1 => do
      let (draft, rest) ← record.sequence fuel depth record.fields 0 record.empty rest
      let a ← record.finish draft
      let rest ← endSequence rest
      .ok (a, rest)
  | some '{' :: rest =>
    match depth with
    | 0 => .error .tooDeep
    | depth + 1 => do
      let (draft, rest) ← members fuel (record.entry fuel depth) fuel true record.empty rest
      let a ← record.finish draft
      .ok (a, rest)
  | rest => .error (Decoder.mismatch fuel s!"struct {record.name}" rest)

end Record

end StorefrontLoad.Json
