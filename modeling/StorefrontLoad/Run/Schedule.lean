import StorefrontLoad.Run.State

/-!
# The order of moves

Agents work side by side, so the next to move is the one that has been busy for the shortest time,
and of several such agents the first. The deadline comes once every agent that can go on has been
busy for that long.
-/

namespace StorefrontLoad.Run

open Storefront (Network)

namespace Schedule

variable {R V σ : Type}

def canGoOn (s : State σ V) (a : Agent V) : Bool :=
  !a.hasEnded && (s.world.stopRequested || !a.awaitsStop)

/-- The agent that is to move next and how long it has been busy. -/
def idlest? (s : State σ V) : Option (Nat × Duration) :=
  (s.agents.foldl
    (fun (index, best) a ↦
      let better := match best with
        | none => true
        | some (_, shortest) => decide (a.busy < shortest)
      (index + 1, if better && canGoOn s a then some (index, a.busy) else best))
    (0, none)).2

/-- An agent keeps its turn until it has become busier or cannot go on. -/
def keepsTurn (s : State σ V) (turn : Nat × Duration) : Bool :=
  match s.agents[turn.1]? with
  | none => false
  | some a => a.busy = turn.2 && canGoOn s a

def deadlineLine (config : RunConfig) : LogLine :=
  if config.hitsCeiling then
    .warn s!"Run reached its maximum duration of {config.deadline.text}, stopping agents"
  else .info s!"Run duration of {config.deadline.text} elapsed, stopping agents"

/-- Who has the turn, and whether the deadline is still to come. -/
structure Clock where
  turn : Option (Nat × Duration)
  isArmed : Bool

def start : Clock := ⟨none, true⟩

/-- The next move; there is none when all agents are at their end. -/
def next? (config : RunConfig) (clock : Clock) (s : State σ V) : Option (Move × Clock) :=
  match clock.turn.filter (keepsTurn s) <|> idlest? s with
  | some (index, busy) =>
    if clock.isArmed && !decide (busy < config.deadline) then
      some (.stop (deadlineLine config), ⟨none, false⟩)
    else some (.agent index, { clock with turn := some (index, busy) })
  | none =>
    if clock.isArmed && !s.hasEnded then some (.stop (deadlineLine config), ⟨none, false⟩)
    else none

/-- Moves until all agents are at their end; `none` when that takes more moves than given. -/
def play (plan : Plan R V) (network : Network σ) : Nat → Clock → State σ V → Option (State σ V)
  | 0, _, _ => none
  | moves + 1, clock, s =>
    match next? plan.config clock s with
    | none => some s
    | some (move, clock) =>
      match s.apply plan network move with
      | none => none
      | some s => play plan network moves clock s

/-- What the schedule plays is a sequence of moves like any other. -/
theorem exists_moves_of_play {plan : Plan R V} {network : Network σ} {moves : Nat} {clock : Clock}
    {s after : State σ V} (h : play plan network moves clock s = some after) :
    ∃ list, s.applyAll plan network list = some after := by
  induction moves generalizing clock s with
  | zero => simp [play] at h
  | succ moves ih =>
    simp only [play] at h
    split at h
    · exact ⟨[], h⟩
    · next move clock _ =>
      split at h
      · cases h
      · next moved hMove =>
        obtain ⟨list, hList⟩ := ih h
        exact ⟨move :: list, by simp [State.applyAll, hMove, hList]⟩

end Schedule

end StorefrontLoad.Run
