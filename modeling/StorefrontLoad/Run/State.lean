import StorefrontLoad.Run.Agent

/-!
# States of a run

A run moves from state to state by one step of one agent at a time, or by being told to stop from
outside. In which order the agents step is left open here: every sequence of moves is a possible
run.
-/

namespace StorefrontLoad.Run

open Storefront (Network)

structure State (σ V : Type) where
  agents : Array (Agent V)
  world : World σ

inductive Move
  | agent (index : Nat)
  /-- Somebody outside of the agents tells the run to stop, and logs why. -/
  | stop (reason : LogLine)
  deriving DecidableEq, Repr

namespace State

variable {R V σ : Type}

/-- All agents are about to arrive. -/
def initial (config : RunConfig) (value : V) (world : World σ) : State σ V :=
  ⟨Array.replicate config.concurrency (.initial value), world⟩

/-- The state after a move; `none` when the move is not possible. -/
def apply (plan : Plan R V) (network : Network σ) (s : State σ V) : Move → Option (State σ V)
  | .agent index =>
    match s.agents[index]? with
    | none => none
    | some agent =>
      match agent.step plan network index s.world with
      | none => none
      | some (agent, world) => some ⟨s.agents.setIfInBounds index agent, world⟩
  | .stop reason => some { s with world := (s.world.log reason).requestStop }

/-- The state after a sequence of moves. -/
def applyAll (plan : Plan R V) (network : Network σ) (s : State σ V) :
    List Move → Option (State σ V)
  | [] => some s
  | move :: moves => (s.apply plan network move).bind fun s ↦ s.applyAll plan network moves

theorem applyAll_append (plan : Plan R V) (network : Network σ) (s : State σ V)
    (first second : List Move) :
    s.applyAll plan network (first ++ second) =
      (s.applyAll plan network first).bind fun s ↦ s.applyAll plan network second := by
  induction first generalizing s with
  | nil => rfl
  | cons move moves ih =>
    simp only [List.cons_append, applyAll]
    cases s.apply plan network move with
    | none => rfl
    | some s => exact ih s

def hasEnded (s : State σ V) : Bool := s.agents.all Agent.hasEnded

/-- How long the agent that was busy for longest was busy. -/
def elapsed (s : State σ V) : Duration :=
  s.agents.foldl (fun longest a ↦ longest.max a.busy) .zero

/-- How many agents were still running at their end. -/
def endCount (s : State σ V) : Nat :=
  s.agents.countP fun a ↦ match a.phase with
    | .ended running => running
    | _ => false

def hasCrash (s : State σ V) : Bool :=
  s.agents.any fun a ↦ match a.phase with
    | .crashed => true
    | _ => false

end State

end StorefrontLoad.Run
