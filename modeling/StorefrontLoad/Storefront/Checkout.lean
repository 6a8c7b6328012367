import StorefrontLoad.Json.Path
import StorefrontLoad.Json.Reader
import StorefrontLoad.Storefront.Failure

/-!
# The response to a checkout

A checkout identifier means success, whatever else the response says. Reasons for a refusal come
from the mutation and from the top level of the response, in this order.
-/

namespace StorefrontLoad.Storefront

open Json (Value)

structure CheckoutResponse where
  checkoutId : Option String
  rejections : List Rejection
  deriving DecidableEq, Repr

namespace Rejection

/-- A part that is not a string counts as absent. -/
def ofMutationError (error : Value) : Rejection :=
  ⟨error.extractString "field", error.extractString "message", error.extractString "code"⟩

/-- Errors at the top level name no field and keep their code among the extensions. -/
def ofTopLevelError (error : Value) : Rejection :=
  ⟨none, error.extractString "message", error.extractString "extensions.code"⟩

end Rejection

namespace CheckoutResponse

/-- Whatever is not a list holds no elements. -/
def elements (document : Value) (path : String) : List Value :=
  match document.extract path with
  | some (.array items) => items
  | _ => []

def ofDocument (document : Value) : CheckoutResponse where
  checkoutId := document.extractString "data.checkoutCreate.checkout.id"
  rejections :=
    (elements document "data.checkoutCreate.errors").map Rejection.ofMutationError ++
      (elements document "errors").map Rejection.ofTopLevelError

def ofBody (body : String) : Except StepFailure CheckoutResponse :=
  match Value.ofText body with
  | .error e => .error (.parse ("checkout body is not JSON: " ++ e.message))
  | .ok document => .ok (ofDocument document)

def result (response : CheckoutResponse) : Except StepFailure String :=
  match response.checkoutId with
  | some id => .ok id
  | none =>
    if response.rejections.isEmpty then
      .error (.parse "checkout response has neither a checkout id nor errors")
    else .error (.business response.rejections)

end CheckoutResponse

end StorefrontLoad.Storefront
