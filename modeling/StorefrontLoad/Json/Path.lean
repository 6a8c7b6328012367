import StorefrontLoad.Json.Value
import StorefrontLoad.Text.Quoted
import StorefrontLoad.Text.Split

/-!
# Addressing a value inside a document

A path is a list of segments joined by full stops. A segment names a member of an object, or the
position of an element of an array when it consists of digits. No path leads through or to a null.
-/

namespace StorefrontLoad.Json

/-- Where a walk along a path ended, with the segment at which it failed. -/
inductive Lookup
  | found (v : Value)
  | missing (segment : String)
  | null (segment : String)
  | typeMismatch (segment : String)

namespace Path

/-- Adjacent full stops enclose an empty segment. -/
def segments (path : List Char) : List (List Char) := Text.splitOn '.' path

def isDecimalDigit (c : Char) : Bool := '0' ≤ c ∧ c ≤ '9'

def natOfDigits (digits : List Char) : Nat :=
  digits.foldl (fun n c ↦ n * 10 + (c.toNat - '0'.toNat)) 0

/-- A position may have leading zeros and be of any size. -/
def position? (segment : List Char) : Option Nat :=
  if segment ≠ [] ∧ segment.all isDecimalDigit then some (natOfDigits segment) else none

end Path

namespace Value

/-- The value one segment further; `none` where there is nothing to go on to. -/
inductive Child
  | at (v : Value)
  | absent
  | noContainer

def child (v : Value) (segment : List Char) : Child :=
  match v with
  | .object fields =>
    match Dictionary.find? (String.ofList segment) fields with
    | some v => .at v
    | none => .absent
  | .array items =>
    match Path.position? segment with
    | none => .noContainer
    | some i =>
      match items[i]? with
      | some v => .at v
      | none => .absent
  | _ => .noContainer

def walk (v : Value) : List (List Char) → Lookup
  | [] => .found v
  | segment :: rest =>
    match v.child segment with
    | .noContainer => .typeMismatch (String.ofList segment)
    | .absent => .missing (String.ofList segment)
    | .at .null => .null (String.ofList segment)
    | .at v => walk v rest

def lookup (document : Value) (path : String) : Lookup :=
  document.walk (Path.segments path.toList)

end Value

namespace Lookup

def found? : Lookup → Option Value
  | .found v => some v
  | _ => none

/-- How a failed lookup is shown in a message. -/
def describe : Lookup → String
  | .found _ => "Found"
  | .missing segment => shown "Missing" segment
  | .null segment => shown "Null" segment
  | .typeMismatch segment => shown "TypeMismatch" segment
where
  shown (reason segment : String) : String :=
    reason ++ " \x7b segment: " ++ Text.quoted segment ++ " \x7d"

end Lookup

namespace Value

def extract (document : Value) (path : String) : Option Value := (document.lookup path).found?

def extractString (document : Value) (path : String) : Option String :=
  (document.extract path).bind asString?

end Value

end StorefrontLoad.Json
