import StorefrontLoad.Duration
import StorefrontLoad.Storefront.Failure
import StorefrontLoad.Storefront.Request
import StorefrontLoad.Url

/-!
# Networks

A network carries a request to a target and brings back an answer. What it answers may depend on
what it was asked before, which it keeps in a state of its own.
-/

namespace StorefrontLoad.Storefront

/-- The body of a response, or why there is none. -/
abbrev Answer := Except TransportFault String

structure Delivery where
  answer : Answer
  /-- From the moment the request was made. -/
  latency : Duration

structure Network (σ : Type) where
  deliver : Url → Request → σ → Delivery × σ

namespace Network

/-- Characters that a domain may hold and the target of a request may not. -/
def refusedInHost : List Char := ['"', '`', '{', '}']

/-- Whether a request can be made at all: only of the web, to a host without refused characters, and
only if the target is not too long. -/
def isTarget (target : Url) : Bool :=
  target.schemeText ∈ ["http", "https"] ∧ ¬ target.host.any (· ∈ refusedInHost) ∧
    target.text.utf8ByteSize < 65535

/-- Nothing can be reached. Credentials in the target are not repeated. -/
def unreachable : Network Unit where
  deliver target _ _ :=
    let shown := target.withoutCredentials
    let fault := if isTarget shown then "error sending request" else "builder error"
    (⟨.error (.unreachable (fault ++ " for url (" ++ shown.text ++ ")")), .zero⟩, ())

/-- Gives the answers of a list in turn, whatever is asked. -/
def scripted : Network (List Answer) where
  deliver _ _ answers :=
    match answers with
    | [] => (⟨.error (.unreachable "no more responses"), .zero⟩, [])
    | answer :: rest => (⟨answer, .zero⟩, rest)

end Network

end StorefrontLoad.Storefront
