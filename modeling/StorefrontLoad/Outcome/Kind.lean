/-!
# How a step can end
-/

namespace StorefrontLoad

/-- Every step that was attempted ends in exactly one of these. -/
inductive OutcomeKind
  | succeeded
  /-- A status outside 200 to 299, or no response at all. -/
  | transportFailure
  /-- The response did not have the expected shape. -/
  | parseFailure
  /-- The target refused the request for a reason of its own. -/
  | businessFailure
  /-- The response was in order but held nothing to go on with. -/
  | noUsableData
  deriving DecidableEq, Repr

namespace OutcomeKind

def all : List OutcomeKind :=
  [succeeded, transportFailure, parseFailure, businessFailure, noUsableData]

def name : OutcomeKind → String
  | succeeded => "Succeeded"
  | transportFailure => "TransportFailure"
  | parseFailure => "ParseFailure"
  | businessFailure => "BusinessFailure"
  | noUsableData => "NoUsableData"

def ofName? (name : String) : Option OutcomeKind := all.find? (·.name = name)

end OutcomeKind

end StorefrontLoad
