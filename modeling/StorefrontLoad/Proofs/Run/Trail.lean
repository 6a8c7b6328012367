import StorefrontLoad.Proofs.Run.Turn

/-!
# Reachable states and trails

Every sequence of moves is allowed, so what holds of all reachable states holds under all
interleavings. What an agent has left behind is its trail. Nobody else adds to it, so what the steps
of an agent keep of its trail and its phase is kept by every run.
-/

namespace StorefrontLoad.Run

open Storefront (Network)

variable {R V σ : Type}

/-! ## Reachable states -/

namespace State

/-- The action that a move takes, if it takes one. -/
def deeds (network : Network σ) (s : State σ V) : Move → List Deed
  | .agent index =>
    match s.agents[index]? with
    | some a => a.deeds network index s.world
    | none => []
  | .stop _ => []

/-- The actions that a sequence of moves takes, in order. -/
def transcript (plan : Plan R V) (network : Network σ) (s : State σ V) : List Move → List Deed
  | [] => []
  | move :: moves =>
    s.deeds network move ++
      match s.apply plan network move with
      | none => []
      | some s => s.transcript plan network moves

/-- The state is reached by these deeds, and every state that is left on the way is `Allowed`. -/
inductive Reaches (Allowed : State σ V → Prop) (plan : Plan R V) (network : Network σ)
    (s : State σ V) : List Deed → State σ V → Prop
  | refl : Reaches Allowed plan network s [] s
  | stop {deeds : List Deed} {now : State σ V} (before : Reaches Allowed plan network s deeds now)
      (allowed : Allowed now) (reason : LogLine) :
      Reaches Allowed plan network s deeds
        { now with world := (now.world.log reason).requestStop }
  | agent {deeds new : List Deed} {now : State σ V} {index : Nat} {a after : Agent V}
      {world : World σ} (before : Reaches Allowed plan network s deeds now) (allowed : Allowed now)
      (found : now.agents[index]? = some a)
      (turn : a.Turn plan network index now.world after new world) :
      Reaches Allowed plan network s (deeds ++ new) ⟨now.agents.setIfInBounds index after, world⟩

variable {plan : Plan R V} {network : Network σ} {Allowed : State σ V → Prop}

theorem Reaches.apply {s now next : State σ V} {deeds : List Deed} {move : Move}
    (before : Reaches Allowed plan network s deeds now) (allowed : Allowed now)
    (h : now.apply plan network move = some next) :
    Reaches Allowed plan network s (deeds ++ now.deeds network move) next := by
  cases move with
  | stop reason =>
    cases h
    rw [State.deeds, List.append_nil]
    exact .stop before allowed reason
  | agent index =>
    simp only [State.apply] at h
    simp only [State.deeds]
    split at h
    · cases h
    · next a found =>
      split at h
      · cases h
      · next after world hStep =>
        cases h
        rw [found]
        exact .agent before allowed found (Agent.turn_of_step hStep)

theorem Reaches.applyAll {s now last : State σ V} {deeds : List Deed} {moves : List Move}
    (before : Reaches Allowed plan network s deeds now)
    (allowed : ∀ first second t, moves = first ++ second →
      now.applyAll plan network first = some t → Allowed t)
    (h : now.applyAll plan network moves = some last) :
    Reaches Allowed plan network s (deeds ++ now.transcript plan network moves) last := by
  induction moves generalizing now deeds with
  | nil =>
    cases h
    rw [transcript, List.append_nil]
    exact before
  | cons move moves ih =>
    simp only [State.applyAll, Option.bind_eq_some_iff] at h
    obtain ⟨next, hNext, hRest⟩ := h
    have hStep := before.apply (allowed [] (move :: moves) now rfl rfl) hNext
    rw [transcript, hNext, ← List.append_assoc]
    refine ih hStep (fun first second t hMoves hFirst ↦ ?_) hRest
    refine allowed (move :: first) second t (by rw [hMoves, List.cons_append]) ?_
    simp only [State.applyAll, hNext, Option.bind_some, hFirst]

/-- Agents neither come nor go. -/
theorem Reaches.size_agents {s last : State σ V} {deeds : List Deed}
    (h : Reaches Allowed plan network s deeds last) : last.agents.size = s.agents.size := by
  induction h with
  | refl => rfl
  | stop before allowed reason ih => exact ih
  | agent before allowed found turn ih => rw [Array.size_setIfInBounds, ih]

theorem stopRequested_apply {s next : State σ V} {move : Move}
    (h : s.apply plan network move = some next) (hStop : s.world.stopRequested = true) :
    next.world.stopRequested = true := by
  cases move with
  | stop reason =>
    cases h
    rfl
  | agent index =>
    simp only [State.apply] at h
    split at h
    · cases h
    · split at h
      · cases h
      · next hStep =>
        cases h
        exact (Agent.turn_of_step hStep).stopRequested hStop

theorem stopRequested_applyAll {s last : State σ V} {moves : List Move}
    (h : s.applyAll plan network moves = some last) (hStop : s.world.stopRequested = true) :
    last.world.stopRequested = true := by
  induction moves generalizing s with
  | nil =>
    cases h
    exact hStop
  | cons move moves ih =>
    obtain ⟨next, hNext, hRest⟩ := Option.bind_eq_some_iff.1 h
    exact ih hRest (stopRequested_apply hNext hStop)

/-- When all has ended, every agent has. -/
theorem agent_hasEnded {s : State σ V} {index : Nat} {a : Agent V} (hEnded : s.hasEnded = true)
    (found : s.agents[index]? = some a) : a.hasEnded = true :=
  Array.all_eq_true_iff_forall_mem.1 hEnded a (Array.mem_of_getElem? found)

end State

/-! ## Trails -/

/-- What an agent has left behind. -/
structure Trail where
  /-- The iterations it has begun. -/
  calls : List Nat
  /-- What it has handed to the network. -/
  requests : List Storefront.Request
  /-- The actions it has taken. -/
  deeds : List Deed

namespace Trail

def of (agent : Nat) (w : World σ) (deeds : List Deed) : Trail :=
  ⟨w.callsOf agent, w.requestsOf agent, deeds.filter (·.agent = agent)⟩

theorem of_murmurs {w after : World σ} (h : w.Murmurs after) (agent : Nat) (deeds : List Deed) :
    of agent after deeds = of agent w deeds := by
  simp only [of, World.callsOf, World.requestsOf, h.calls, h.posts]

theorem of_recordIteration (agent : Nat) (w : World σ) (deeds : List Deed) :
    of agent w.recordIteration deeds = of agent w deeds := rfl

theorem of_requestStop (agent : Nat) (w : World σ) (deeds : List Deed) :
    of agent w.requestStop deeds = of agent w deeds := rfl

end Trail

/-- Nobody else adds to the trail of an agent. -/
theorem Agent.Turn.trail_of_ne {plan : Plan R V} {network : Network σ} {index other : Nat}
    {a after : Agent V} {w world : World σ} {new : List Deed}
    (turn : a.Turn plan network index w after new world) (hne : index ≠ other)
    (deeds : List Deed) : Trail.of other world (deeds ++ new) = Trail.of other w deeds := by
  cases turn with
  | @act stage action next taken phase performed =>
    have hPerforms := World.performs_of_perform performed
    cases hRequest : action.request? <;>
      simp [Trail.of, World.callsOf, World.requestsOf, hPerforms.calls, hPerforms.posts, hRequest,
        hne]
  | call phase behaviour =>
    simp [Trail.of, World.callsOf, World.requestsOf, World.calls_note, World.posts_note,
      Event.call?, Event.post?, hne]
  | prepare _ _ world | start _ _ world | refuse _ _ _ world | skip _ _ world | leave _ _ world
  | close _ _ world =>
    rw [List.append_nil, Trail.of_murmurs world]
  | account _ _ world | bail _ _ world =>
    rw [List.append_nil, Trail.of_murmurs world, Trail.of_recordIteration]
  | clear | emerge => rw [List.append_nil]

/-- What holds of an agent and its trail at the start, and is kept by the agent's own steps, holds
in every reachable state. -/
theorem State.Reaches.forall_agents {Allowed : State σ V → Prop} {plan : Plan R V}
    {network : Network σ} {s last : State σ V} {deeds : List Deed}
    {P : Nat → Trail → Agent V → Prop} (h : Reaches Allowed plan network s deeds last)
    (hStart : ∀ index a, s.agents[index]? = some a → P index (Trail.of index s.world []) a)
    (hStep : ∀ (now : State σ V) (index : Nat) (a after : Agent V) (deeds new : List Deed)
      (world : World σ), Allowed now → now.agents[index]? = some a →
      a.Turn plan network index now.world after new world →
      P index (Trail.of index now.world deeds) a →
      P index (Trail.of index world (deeds ++ new)) after)
    (index : Nat) (a : Agent V) (found : last.agents[index]? = some a) :
    P index (Trail.of index last.world deeds) a := by
  induction h generalizing index a with
  | refl => exact hStart index a found
  | stop before allowed reason ih =>
    rw [Trail.of_requestStop, Trail.of_murmurs (.log reason _)]
    exact ih index a found
  | @agent deeds new now mover b after world before allowed foundMover turn ih =>
    by_cases hne : mover = index
    · subst hne
      have hAfter : a = after := by
        have hLess := (Array.getElem?_eq_some_iff.1 foundMover).1
        rw [Array.getElem?_setIfInBounds_self_of_lt hLess] at found
        exact (Option.some.inj found).symm
      subst hAfter
      exact hStep now mover b a deeds new world allowed foundMover turn (ih mover b foundMover)
    · rw [turn.trail_of_ne hne]
      rw [Array.getElem?_setIfInBounds_ne hne] at found
      exact ih index a found

end StorefrontLoad.Run
