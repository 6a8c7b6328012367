import StorefrontLoad.Log
import StorefrontLoad.Outcome.Summary
import StorefrontLoad.Storefront.Network

/-!
# Programs

A program is what a hook does, cut at every action that others can notice. Between two actions it
only computes, so the interleavings of several programs are the interleavings of their actions.
-/

namespace StorefrontLoad.Run

open Storefront (Delivery)

inductive Action
  | post (target : Url) (request : Storefront.Request)
  /-- Counts the outcome of a step. -/
  | record (step : String) (kind : OutcomeKind) (latency : Duration)
  | log (line : LogLine)
  | pause (length : Duration)
  /-- Tells the run to stop. -/
  | requestStop
  | isStopRequested
  | awaitStop
  | readOutcome

/-- What an action gives back. -/
abbrev Action.Reply : Action → Type
  | post _ _ => Delivery
  | isStopRequested => Bool
  | readOutcome => OutcomeSummary
  | _ => Unit

inductive Program (α : Type) : Type
  | done (result : α)
  | step (action : Action) (next : action.Reply → Program α)

namespace Program

variable {α β : Type}

def bind : Program α → (α → Program β) → Program β
  | done a, rest => rest a
  | step action next, rest => step action fun reply ↦ (next reply).bind rest

instance : Monad Program where
  pure := done
  bind := bind

@[simp] theorem step_bind (action : Action) (next : action.Reply → Program α)
    (rest : α → Program β) :
    step action next >>= rest = step action fun reply ↦ next reply >>= rest := rfl

def perform (action : Action) : Program action.Reply := step action done

def post (target : Url) (request : Storefront.Request) : Program Delivery :=
  perform (.post target request)

def record (name : String) (kind : OutcomeKind) (latency : Duration) : Program Unit :=
  perform (.record name kind latency)

def log (line : LogLine) : Program Unit := perform (.log line)

def pause (length : Duration) : Program Unit := perform (.pause length)

def requestStop : Program Unit := perform .requestStop

def isStopRequested : Program Bool := perform .isStopRequested

def awaitStop : Program Unit := perform .awaitStop

def readOutcome : Program OutcomeSummary := perform .readOutcome

end Program

end StorefrontLoad.Run
