import StorefrontLoad.Random.Source
import StorefrontLoad.Run.Program
import StorefrontLoad.Run.Trouble
import StorefrontLoad.Storefront.Catalog
import StorefrontLoad.Storefront.Checkout

/-!
# The storefront client

A client performs the two steps of a checkout. Each step is one request and one record of its
outcome, whatever the answer was.
-/

namespace StorefrontLoad.Storefront

open Run (Program)

structure Client where
  target : Url

namespace Client

/-- Names the step of the catalog page in outcomes. -/
def catalogStep : String := "catalog"

/-- Names the step of the checkout in outcomes. -/
def checkoutStep : String := "checkout"

def connect (url : String) : Except Trouble Client :=
  match Url.parse url with
  | .error e => .error ((Trouble.ofMessage e.message).context ("Invalid target URL: " ++ url))
  | .ok target => .ok ⟨target⟩

/-- Chooses a variant from the answer to the catalog query. -/
def selectionOf (answer : Answer) (source : Random.Source) :
    Except StepFailure Selection × Random.Source :=
  match answer with
  | .error fault => (.error (.transport fault), source)
  | .ok body =>
    match Catalog.edges body with
    | .error failure => (.error failure, source)
    | .ok edges => selectVariant edges source

/-- The identifier of the checkout that an answer reports. -/
def checkoutIdOf (answer : Answer) : Except StepFailure String :=
  match answer with
  | .error fault => .error (.transport fault)
  | .ok body => (CheckoutResponse.ofBody body).bind CheckoutResponse.result

/-- Fetches the first page of the catalog and chooses a variant from it. -/
def fetchCatalog (client : Client) (channel : String) (source : Random.Source) :
    Program (Except StepFailure Selection × Random.Source) := do
  let delivery ← Program.post client.target (.products channel)
  let (result, source) := selectionOf delivery.answer source
  Program.record catalogStep (kindOf result) delivery.latency
  return (result, source)

/-- Creates a checkout for one unit of a variant and gives its identifier. -/
def createCheckout (client : Client) (channel variantId email : String) :
    Program (Except StepFailure String) := do
  let delivery ← Program.post client.target (.checkout channel variantId email)
  let result := checkoutIdOf delivery.answer
  Program.record checkoutStep (kindOf result) delivery.latency
  return result

end Client

end StorefrontLoad.Storefront
