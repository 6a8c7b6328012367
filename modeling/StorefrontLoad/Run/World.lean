import StorefrontLoad.Outcome.Counters
import StorefrontLoad.Run.Program
import StorefrontLoad.Run.Summary

/-!
# The world of a run

The world is what all agents share: the counters, the request to stop, the network and the history
of what has happened so far. An action changes it in one step.
-/

namespace StorefrontLoad.Run

open Storefront (Network)

inductive Hook
  | setup
  | agentSetup (agent : Nat)
  | behaviour (agent iteration : Nat)
  | agentTeardown (agent : Nat)
  | teardown
  deriving DecidableEq, Repr

inductive Event
  | called (hook : Hook)
  /-- Hooks of the scenario itself belong to no agent. -/
  | posted (agent : Option Nat) (request : Storefront.Request)
  | logged (line : LogLine)
  | printed (text : String)
  | stored (path : String) (summary : RunSummary)

namespace Event

def line? : Event → Option LogLine
  | logged line => some line
  | _ => none

def request? : Event → Option Storefront.Request
  | posted _ request => some request
  | _ => none

def text? : Event → Option String
  | printed text => some text
  | _ => none

end Event

structure World (σ : Type) where
  counters : Counters
  stopRequested : Bool
  network : σ
  /-- The latest event comes first. -/
  history : List Event

/-- What an action comes to. -/
structure Step (σ α : Type) where
  reply : α
  /-- How long it took. -/
  elapsed : Duration
  world : World σ

namespace World

variable {σ : Type}

def fresh (network : σ) : World σ := ⟨.fresh, false, network, []⟩

def note (event : Event) (w : World σ) : World σ := { w with history := event :: w.history }

def log (line : LogLine) (w : World σ) : World σ := w.note (.logged line)

def requestStop (w : World σ) : World σ := { w with stopRequested := true }

def recordIteration (w : World σ) : World σ := { w with counters := w.counters.recordIteration }

/-- There is no step as long as the action has to wait. -/
def perform (network : Network σ) (agent : Option Nat) (w : World σ) :
    (action : Action) → Option (Step σ action.Reply)
  | .post target request =>
    let (delivery, state) := network.deliver target request w.network
    some ⟨delivery, delivery.latency, { w with network := state }.note (.posted agent request)⟩
  | .record step kind latency =>
    some ⟨(), .zero, { w with counters := w.counters.record step kind latency }⟩
  | .log line => some ⟨(), .zero, w.log line⟩
  | .pause length => some ⟨(), length, w⟩
  | .requestStop => some ⟨(), .zero, w.requestStop⟩
  | .isStopRequested => some ⟨w.stopRequested, .zero, w⟩
  | .awaitStop => if w.stopRequested then some ⟨(), .zero, w⟩ else none
  | .readOutcome => some ⟨w.counters.snapshot, .zero, w⟩

/-- The history from its beginning. -/
def events (w : World σ) : List Event := w.history.reverse

end World

/-- Performs all actions of a program without anybody in between; `none` when it waits for ever. -/
def Program.complete {σ α : Type} (network : Network σ) :
    Program α → World σ → Option (α × World σ)
  | .done result, w => some (result, w)
  | .step action next, w =>
    match w.perform network none action with
    | none => none
    | some taken => (next taken.reply).complete network taken.world

end StorefrontLoad.Run
