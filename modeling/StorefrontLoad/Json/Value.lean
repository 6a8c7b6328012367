import StorefrontLoad.Dictionary

/-!
# JSON values

Numbers come in two kinds. A whole number that fits a signed or unsigned 64-bit word is kept
exactly, every other number is a double. Objects are dictionaries, so the order in which a text
lists their members is forgotten.
-/

namespace StorefrontLoad.Json

inductive Number
  | whole (n : Int)
  | real (x : Float)

inductive Value
  | null
  | bool (b : Bool)
  | number (n : Number)
  | string (s : String)
  | array (items : List Value)
  | object (fields : List (String × Value))

namespace Value

def ofNat (n : Nat) : Value := .number (.whole n)

def asString? : Value → Option String
  | .string s => some s
  | _ => none

def ofOption {α : Type} (encode : α → Value) : Option α → Value
  | none => .null
  | some a => encode a

/-- Builds an object from members in any order; of two members with one key the later one stays. -/
def ofMembers (members : List (String × Value)) : Value :=
  .object (members.foldl (fun fields (key, value) ↦ Dictionary.insert key value fields) [])

end Value

end StorefrontLoad.Json
