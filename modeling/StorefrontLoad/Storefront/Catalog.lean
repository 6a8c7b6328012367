import StorefrontLoad.Json.Path
import StorefrontLoad.Json.Reader
import StorefrontLoad.Random.Source
import StorefrontLoad.Storefront.Failure

/-!
# The catalog page

A response to the catalog query lists products as edges. An edge is read only once it has been
chosen, so a malformed product elsewhere on the page does not stop the others being bought.
-/

namespace StorefrontLoad.Storefront

open Json (Value)

/-- A product with the identifiers of its variants. -/
structure Product where
  id : String
  variantIds : List String
  deriving DecidableEq, Repr

/-- The variant to put in a checkout. -/
structure Selection where
  productId : String
  variantId : String
  deriving DecidableEq, Repr

namespace Catalog

/-- The edges of a response body, unread. -/
def edges (body : String) : Except StepFailure (List Value) :=
  match Value.ofText body with
  | .error e => .error (.parse ("catalog body is not JSON: " ++ e.message))
  | .ok document =>
    match document.lookup "data.products.edges" with
    | .found (.array edges) => .ok edges
    | .found _ => .error (.parse "catalog edges is not a list")
    | absent => .error (.parse ("catalog edges not found: " ++ absent.describe))

end Catalog

namespace Product

def variantId (productId : String) (variant : Value) : Except StepFailure String :=
  match variant.extractString "id" with
  | some id => .ok id
  | none => .error (.parse s!"product {productId} has a variant without id")

/-- Reads one edge; null in place of the list of variants stands for no variants. -/
def ofEdge (edge : Value) : Except StepFailure Product :=
  match edge.extractString "node.id" with
  | none => .error (.parse "catalog edge has no product id")
  | some id =>
    match edge.lookup "node.variants" with
    | .found (.array variants) => (variants.mapM (variantId id)).map (⟨id, ·⟩)
    | .null _ => .ok ⟨id, []⟩
    | _ => .error (.parse s!"product {id} has no variant list")

def select (p : Product) : Except StepFailure Selection :=
  match p.variantIds with
  | [] => .error .noUsableData
  | variantId :: _ => .ok ⟨p.id, variantId⟩

end Product

/-- Chooses an edge, each being equally likely, and takes the first variant of its product. -/
def selectVariant (edges : List Value) (source : Random.Source) :
    Except StepFailure Selection × Random.Source :=
  match source.choose edges with
  | (none, source) => (.error .noUsableData, source)
  | (some edge, source) => (Product.ofEdge edge >>= Product.select, source)

end StorefrontLoad.Storefront
