import StorefrontLoad.Json.Printer

/-!
# Requests to the storefront

A request is a query with its variables, sent as a JSON object of these two members.
-/

namespace StorefrontLoad.Storefront

open Json (Value)

structure Request where
  query : String
  /-- Left out of the text when absent. -/
  values : Option Value

namespace Request

def text (r : Request) : List Char :=
  Json.objectText (("query", Json.quote r.query) ::
    (r.values.map fun v ↦ ("variables", v.text)).toList)

/-- Joins lines, each indented and ended by a line feed, after an empty one. -/
def document (lines : List String) : String := "\n" ++ String.join (lines.map (· ++ "\n"))

/-- The first page of the products of a channel, with the identifiers of their variants. -/
def productsQuery : String := document [
  "  query Products($channel: String!) \x7b",
  "    products(first: 20, channel: $channel) \x7b",
  "      edges \x7b",
  "        node \x7b",
  "          id",
  "          variants \x7b id \x7d",
  "        \x7d",
  "      \x7d",
  "    \x7d",
  "  \x7d"]

/-- Creates a checkout that holds one unit of a variant. -/
def checkoutMutation : String := document [
  "  mutation CreateCheckout($channel: String!, $variantId: ID!, $email: String!) \x7b",
  "    checkoutCreate(",
  "      input: \x7b",
  "        channel: $channel,",
  "        email: $email,",
  "        lines: [\x7bquantity: 1, variantId: $variantId\x7d]",
  "      \x7d",
  "    ) \x7b",
  "      checkout \x7b id \x7d",
  "      errors \x7b field message code \x7d",
  "    \x7d",
  "  \x7d"]

def products (channel : String) : Request :=
  ⟨productsQuery, some (.ofMembers [("channel", .string channel)])⟩

def checkout (channel variantId email : String) : Request :=
  ⟨checkoutMutation, some (.ofMembers
    [("channel", .string channel), ("variantId", .string variantId), ("email", .string email)])⟩

end Request

/-- The identity of a guest, different for every agent and iteration. -/
def guestEmail (agent iteration : Nat) : String := s!"guest_{agent}_{iteration}@example.com"

end StorefrontLoad.Storefront
