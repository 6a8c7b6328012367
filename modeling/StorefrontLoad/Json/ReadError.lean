import StorefrontLoad.Json.Printer
import StorefrontLoad.Text.Quoted

/-!
# Why a JSON text cannot be read

A text can end too early, break the grammar, or be a JSON text of the wrong shape.
-/

namespace StorefrontLoad.Json

/-- What stood in the text where something else was expected. -/
inductive Found
  | null
  | bool (b : Bool)
  | number (n : Number)
  | string (s : String)
  | sequence
  | map

inductive ReadError
  | endInValue
  | endInString
  | endInList
  | endInObject
  | expectedValue
  | expectedIdent
  | expectedColon
  | expectedListCommaOrEnd
  | expectedObjectCommaOrEnd
  | trailingComma
  | trailingCharacters
  | keyMustBeString
  | invalidNumber
  | numberOutOfRange
  | controlCharacter
  | invalidEscape
  | unpairedHighSurrogate
  | loneSurrogate
  | invalidCodePoint
  | tooDeep
  | missingField (name : String)
  | duplicateField (name : String)
  | invalidType (found : Found) (expected : String)
  | invalidValue (n : Int) (expected : String)
  | invalidLength (length : Nat) (expected : String)

inductive ReadError.Category
  | syntactic
  | endOfText
  | data
  deriving Repr, DecidableEq

def Found.describe : Found → String
  | .null => "null"
  | .bool b => s!"boolean `{b}`"
  | .number (.whole n) => s!"integer `{n}`"
  | .number (.real x) => s!"floating point `{String.ofList (realText x)}`"
  | .string s => "string " ++ Text.quoted s
  | .sequence => "sequence"
  | .map => "map"

namespace ReadError

def message : ReadError → String
  | endInValue => "EOF while parsing a value"
  | endInString => "EOF while parsing a string"
  | endInList => "EOF while parsing a list"
  | endInObject => "EOF while parsing an object"
  | expectedValue => "expected value"
  | expectedIdent => "expected ident"
  | expectedColon => "expected `:`"
  | expectedListCommaOrEnd => "expected `,` or `]`"
  | expectedObjectCommaOrEnd => "expected `,` or `\x7d`"
  | trailingComma => "trailing comma"
  | trailingCharacters => "trailing characters"
  | keyMustBeString => "key must be a string"
  | invalidNumber => "invalid number"
  | numberOutOfRange => "number out of range"
  | controlCharacter => "control character (\\u0000-\\u001F) found while parsing a string"
  | invalidEscape => "invalid escape"
  | unpairedHighSurrogate => "unexpected end of hex escape"
  | loneSurrogate => "lone leading surrogate in hex escape"
  | invalidCodePoint => "invalid unicode code point"
  | tooDeep => "recursion limit exceeded"
  | missingField name => s!"missing field `{name}`"
  | duplicateField name => s!"duplicate field `{name}`"
  | invalidType found expected => s!"invalid type: {found.describe}, expected {expected}"
  | invalidValue n expected => s!"invalid value: integer `{n}`, expected {expected}"
  | invalidLength length expected => s!"invalid length {length}, expected {expected}"

def category : ReadError → Category
  | endInValue | endInString | endInList | endInObject => .endOfText
  | missingField _ | duplicateField _ | invalidType _ _ | invalidValue _ _ | invalidLength _ _ =>
    .data
  | _ => .syntactic

end ReadError

end StorefrontLoad.Json
