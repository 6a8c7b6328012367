import StorefrontLoad.Outcome.Kind
import StorefrontLoad.Storefront.Rejection

/-!
# Why a step failed
-/

namespace StorefrontLoad.Storefront

/-- Why a request got no usable response. -/
inductive TransportFault
  /-- The target answered with a status outside 200 to 299; the body is not looked at. -/
  | status (code : Nat)
  | unreachable (reason : String)
  deriving DecidableEq, Repr

inductive StepFailure
  | transport (fault : TransportFault)
  | parse (reason : String)
  | noUsableData
  | business (rejections : List Rejection)
  deriving DecidableEq, Repr

def TransportFault.message : TransportFault → String
  | status code => s!"status {code}"
  | unreachable reason => "unreachable: " ++ reason

namespace StepFailure

def message : StepFailure → String
  | transport fault => "transport failure, " ++ fault.message
  | parse reason => "unexpected response: " ++ reason
  | noUsableData => "response contained no usable data"
  | business rejections => s!"rejected with {rejections.length} error(s)"

def kind : StepFailure → OutcomeKind
  | transport _ => .transportFailure
  | parse _ => .parseFailure
  | noUsableData => .noUsableData
  | business _ => .businessFailure

end StepFailure

/-- The outcome a step is counted under. -/
def kindOf {α : Type} : Except StepFailure α → OutcomeKind
  | .ok _ => .succeeded
  | .error failure => failure.kind

end StorefrontLoad.Storefront
