import StorefrontLoad.Run.Execution
import StorefrontLoad.Storefront.Client

/-!
# The guest checkout scenario

In every iteration an agent fetches the catalog, chooses a variant and creates a checkout for it as
a guest that nobody else is. A seeded run repeats all its choices, since each agent draws from a
source of its own.
-/

namespace StorefrontLoad.GuestCheckout

open Run (Program Ending AgentContext AgentHook ScenarioHook Hooks)
open Storefront

inductive IterationOutcome
  | checkoutCreated (id : String)
  /-- A variant was chosen, but there is no checkout. -/
  | checkoutFailed (failure : StepFailure)
  /-- No variant was chosen, so no checkout was tried. -/
  | catalogUnavailable (failure : StepFailure)
  deriving DecidableEq, Repr

/-- A refusal by the storefront is a warning, a response that cannot be used otherwise an error. -/
def failureLine (step email : String) : StepFailure → LogLine
  | .transport (.status code) => .error s!"{step} request failed with status {code}"
  | .transport (.unreachable reason) => .error s!"{step} request failed: {reason}"
  | .parse reason => .error s!"{step} response could not be read: {reason}"
  | .noUsableData => .warn s!"{step} response had nothing usable for {email}"
  | .business rejections =>
    .warn (s!"{step} rejected for {email}: " ++ String.ofList (Rejection.listText rejections))

/-- Creates the checkout of an iteration and says how it went. -/
def checkOut (client : Client) (channel variantId email : String) : Program IterationOutcome := do
  match ← client.createCheckout channel variantId email with
  | .ok id =>
    Program.log (.trace s!"Created checkout {id} for {email}")
    return .checkoutCreated id
  | .error failure =>
    Program.log (failureLine "Checkout" email failure)
    return .checkoutFailed failure

/-- What follows the choice of a variant. -/
def afterCatalog (client : Client) (channel email : String) :
    Except StepFailure Selection → Program IterationOutcome
  | .ok selection => checkOut client channel selection.variantId email
  | .error failure => do
    Program.log (failureLine "Catalog" email failure)
    return .catalogUnavailable failure

/-- One pass through the flow; whatever came of it, the agent pauses at the end. -/
def checkoutIteration (client : Client) (channel email : String) (thinkTime : Duration)
    (source : Random.Source) : Program (IterationOutcome × Random.Source) := do
  let (result, source) ← client.fetchCatalog channel source
  let outcome ← afterCatalog client channel email result
  Program.pause thinkTime
  return (outcome, source)

/-! ## Hooks -/

/-- What all agents share. -/
structure Shop where
  client : Option Client
  /-- Seeds the agents of a run without a seed. -/
  entropy : UInt64

/-- What belongs to an agent: its source of random words, once it has one. -/
abbrev Guest := Option Random.Source

def notConfigured : Trouble := .ofMessage
  "Storefront client is not configured, call 'configure_commerce_client' in the scenario setup"

/-- Connects the client that all agents share. -/
def configureClient : ScenarioHook Shop := fun config shop ↦
  match Client.connect config.targetUrl with
  | .error trouble => pure (shop, .failed trouble)
  | .ok client => do
    Program.log (.debug s!"Configured storefront client for {config.targetUrl}")
    return ({ shop with client := some client }, .ok)

/-- Different for every agent. -/
def agentSource (seed : UInt64) (agent : Nat) : Random.Source := .ofSeed (seed ^^^ agent.toUInt64)

def seedAgent : AgentHook Shop Guest := fun context _ ↦
  let seed := context.config.seed.getD context.shared.entropy
  pure (some (agentSource seed context.index), .ok)

def behaviour : AgentHook Shop Guest := fun context guest ↦
  match context.shared.client with
  | none => pure (guest, .failed notConfigured)
  | some client => do
    let source := guest.getD (agentSource context.shared.entropy context.index)
    let email := guestEmail context.index context.iteration
    let config := context.config
    let (_, source) ← checkoutIteration client config.channel email config.thinkTime source
    return (some source, .ok)

def hooks (entropy : UInt64) : Hooks Shop Guest where
  shared := ⟨none, entropy⟩
  own := none
  setup := some configureClient
  teardown := none
  agent := ⟨some seedAgent, some behaviour, none⟩

end StorefrontLoad.GuestCheckout
