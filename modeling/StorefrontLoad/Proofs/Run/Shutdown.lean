import StorefrontLoad.Proofs.Run.Iteration

/-!
# Stopping a run

A run may be told to stop at any moment and by anybody: by its deadline, by an interrupt, or by an
agent in one of its hooks. The request stays. Looking for it and beginning an iteration are two
steps, so an agent that has looked before the request may begin one iteration after it; no other
iteration is begun, and all that were begun are counted.
-/

namespace StorefrontLoad.Run

open Storefront (Network)

variable {R V σ : Type}

namespace Agent.Turn

variable {plan : Plan R V} {network : Network σ} {index : Nat} {a after : Agent V}
  {w world : World σ} {new : List Deed}

/-- An agent is cleared only by a look at the request to stop. -/
theorem stopRequested_of_cleared (turn : a.Turn plan network index w after new world)
    (h : after.phase = .cleared) : a.phase = .deciding ∧ w.stopRequested = false := by
  cases turn with
  | clear phase _ stop => exact ⟨phase, stop⟩
  | refuse _ _ phase_eq => rcases phase_eq with rfl | rfl <;> cases h
  | close _ phase_eq => rcases phase_eq with rfl | rfl <;> cases h
  | skip | leave | bail =>
    simp only [departure] at h
    split at h <;> cases h
  | act | prepare | start | call | emerge | account => cases h

/-- Among the agents only one that is in a hook can tell the run to stop. -/
theorem inHook_of_raises (turn : a.Turn plan network index w after new world)
    (hBefore : w.stopRequested = false) (hAfter : world.stopRequested = true) :
    ∃ stage rest, a.phase = .inHook stage rest := by
  cases turn with
  | act phase => exact ⟨_, _, phase⟩
  | prepare _ _ world | start _ _ world | refuse _ _ _ world | skip _ _ world | leave _ _ world
  | close _ _ world | account _ _ world | bail _ _ world =>
    rw [world.stopRequested] at hAfter
    exact absurd (hBefore.symm.trans hAfter) (by simp)
  | clear | call | emerge => exact absurd (hBefore.symm.trans hAfter) (by simp)

end Agent.Turn

namespace State

variable {plan : Plan R V} {network : Network σ}

/-- What an agent can still do once the run has been told to stop: at first it has begun nothing
new; a cleared one may then begin the iteration it was cleared for. -/
def Late (s : State σ V) (index : Nat) (trail : Trail) (b : Agent V) : Prop :=
  ∃ a, s.agents[index]? = some a ∧
    ((trail.calls = s.world.callsOf index ∧
        (b.phase = .cleared → a.phase = .cleared ∧ b.begun = a.begun)) ∨
      (a.phase = .cleared ∧ b.phase ≠ .cleared ∧
        trail.calls = s.world.callsOf index ++ [a.begun]))

theorem late_last {s last : State σ V} {moves : List Move} {index : Nat} {b : Agent V}
    (hStop : s.world.stopRequested = true) (h : s.applyAll plan network moves = some last)
    (found : last.agents[index]? = some b) :
    s.Late index (Trail.of index last.world (s.transcript plan network moves)) b := by
  have hReach : Reaches (fun now ↦ now.world.stopRequested = true) plan network s
      (s.transcript plan network moves) last :=
    Reaches.applyAll .refl (fun _ _ _ _ hFirst ↦ stopRequested_applyAll hFirst hStop) h
  refine hReach.forall_agents (fun index a hStart ↦ ?_)
    (fun now index b after deeds new world hNow _ turn hLate ↦ ?_) index b found
  · exact ⟨a, hStart, .inl ⟨rfl, fun hPhase ↦ ⟨hPhase, rfl⟩⟩⟩
  · have hPhase : after.phase ≠ .cleared := fun hCleared ↦ by
      have hFree := (turn.stopRequested_of_cleared hCleared).2
      exact absurd (hNow.symm.trans hFree) (by simp)
    obtain ⟨a, hFound, hLate⟩ := hLate
    refine ⟨a, hFound, ?_⟩
    simp only [Trail.of, World.callsOf] at hLate ⊢
    rcases turn.calls with ⟨hCalls, _⟩ | ⟨hCleared, hCalls, _⟩
    · rw [hCalls]
      rcases hLate with ⟨hOld, _⟩ | ⟨hWas, _, hNew⟩
      · exact .inl ⟨hOld, fun h ↦ absurd h hPhase⟩
      · exact .inr ⟨hWas, hPhase, hNew⟩
    · rcases hLate with ⟨hOld, hFrom⟩ | ⟨_, hNot, _⟩
      · obtain ⟨hWas, hBegun⟩ := hFrom hCleared
        refine .inr ⟨hWas, hPhase, ?_⟩
        rw [hCalls, List.filter_append, List.map_append, hOld, hBegun]
        simp
      · exact absurd hCleared hNot

/-- Only the iteration that an agent was cleared for before a request to stop begins after it. -/
theorem callsOf_of_stopRequested {s last : State σ V} {moves : List Move} {index : Nat}
    {a : Agent V} (hStop : s.world.stopRequested = true)
    (h : s.applyAll plan network moves = some last) (found : s.agents[index]? = some a) :
    last.world.callsOf index = s.world.callsOf index ∨
      (a.phase = .cleared ∧ last.world.callsOf index = s.world.callsOf index ++ [a.begun]) := by
  have hReach : Reaches (fun _ ↦ True) plan network s (s.transcript plan network moves) last :=
    Reaches.applyAll .refl (fun _ _ _ _ _ ↦ trivial) h
  have hSize := hReach.size_agents
  have hIndex : index < last.agents.size := hSize ▸ (Array.getElem?_eq_some_iff.1 found).1
  obtain ⟨a', found', hLate⟩ := late_last hStop h (Array.getElem?_eq_getElem hIndex)
  obtain rfl : a = a' := Option.some.inj (found.symm.trans found')
  rcases hLate with ⟨hOld, _⟩ | ⟨hCleared, _, hNew⟩
  · exact .inl hOld
  · exact .inr ⟨hCleared, hNew⟩

/-- The move that tells the run to stop begins nothing and clears nobody. -/
theorem unmoved_of_raises {s raised : State σ V} {move : Move} {index : Nat} {a : Agent V}
    (h : s.apply plan network move = some raised) (hBefore : s.world.stopRequested = false)
    (hAfter : raised.world.stopRequested = true) (found : s.agents[index]? = some a) :
    raised.world.callsOf index = s.world.callsOf index ∧
      ∃ b, raised.agents[index]? = some b ∧
        (b.phase = .cleared → a.phase = .cleared ∧ b.begun = a.begun) := by
  cases move with
  | stop reason =>
    cases h
    exact ⟨(World.Murmurs.log reason s.world).callsOf index, a, found, fun h ↦ ⟨h, rfl⟩⟩
  | agent mover =>
    simp only [State.apply] at h
    split at h
    · cases h
    · next b foundMover =>
      split at h
      · cases h
      · next after world hStep =>
        cases h
        have turn := Agent.turn_of_step hStep
        obtain ⟨stage, rest, hPhase⟩ := turn.inHook_of_raises hBefore hAfter
        have hCalls : world.calls = s.world.calls := by
          rcases turn.calls with ⟨hCalls, _⟩ | ⟨hCleared, _⟩
          · exact hCalls
          · exact absurd (hPhase.symm.trans hCleared) (by simp)
        refine ⟨by rw [World.callsOf, World.callsOf, hCalls], ?_⟩
        by_cases hne : mover = index
        · subst hne
          refine ⟨after, ?_, fun hCleared ↦ ?_⟩
          · exact Array.getElem?_setIfInBounds_self_of_lt
              (Array.getElem?_eq_some_iff.1 foundMover).1
          · have hDeciding := (turn.stopRequested_of_cleared hCleared).1
            exact absurd (hPhase.symm.trans hDeciding) (by simp)
        · refine ⟨a, ?_, fun h ↦ ⟨h, rfl⟩⟩
          rw [Array.getElem?_setIfInBounds_ne hne]
          exact found

end State

/-! ## Safety of a stop -/

namespace Course

variable {network : Network σ} {state : σ} {hooks : Hooks R V} {resolved : ResolvedScenario}

/-- From the move on after which the run is told to stop, an agent begins at most the iteration it
was cleared for before that move. -/
theorem callsOf_after_raise (c : Course network state hooks resolved) {first second : List Move}
    {move : Move} {before raised : State σ V} {index : Nat} {a : Agent V}
    (hMoves : c.moves = first ++ move :: second)
    (hBefore : c.start.applyAll c.plan network first = some before)
    (hRaised : before.apply c.plan network move = some raised)
    (hStop : raised.world.stopRequested = true) (found : before.agents[index]? = some a) :
    c.last.world.callsOf index = before.world.callsOf index ∨
      (a.phase = .cleared ∧
        c.last.world.callsOf index = before.world.callsOf index ++ [a.iteration]) := by
  have hAll : before.applyAll c.plan network (move :: second) = some c.last :=
    c.played_rest hMoves hBefore
  cases hEarly : before.world.stopRequested with
  | true =>
    rcases State.callsOf_of_stopRequested hEarly hAll found with hOld | ⟨hCleared, hCalls⟩
    · exact .inl hOld
    · exact .inr ⟨hCleared, Agent.begun_of_cleared hCleared ▸ hCalls⟩
  | false =>
    have hRest : raised.applyAll c.plan network second = some c.last := by
      rwa [State.applyAll, hRaised] at hAll
    obtain ⟨hCalls, b, foundAfter, hCleared⟩ := State.unmoved_of_raises hRaised hEarly hStop found
    rw [← hCalls]
    rcases State.callsOf_of_stopRequested hStop hRest foundAfter with hOld | ⟨hb, hNew⟩
    · exact .inl hOld
    · obtain ⟨ha, hBegun⟩ := hCleared hb
      exact .inr ⟨ha, Agent.begun_of_cleared ha ▸ hBegun ▸ hNew⟩

/-- In every state of every run, whoever tells it to stop and whenever: what the agents have counted
and what is in flight are the calls of the behaviour; every agent has begun its iterations in order
and has at most one in flight, none at its end; after the request an agent begins at most the
iteration it was cleared for before, and none if it was in its behaviour. -/
theorem safe_stop (c : Course network state hooks resolved) :
    (c.last.world.counters.iterations = c.last.iterations.toUInt64 ∧
      c.last.iterations + c.last.inFlight = c.last.world.calls.length) ∧
    (∀ index a, c.last.agents[index]? = some a →
      c.last.world.callsOf index = List.range (a.iteration + if a.isInFlight then 1 else 0) ∧
      (a.hasEnded = true → (c.last.world.callsOf index).length = a.iteration)) ∧
    (∀ first move second before raised, c.moves = first ++ move :: second →
      c.start.applyAll c.plan network first = some before →
      before.apply c.plan network move = some raised → raised.world.stopRequested = true →
      ∀ index a, before.agents[index]? = some a →
        (c.last.world.callsOf index = before.world.callsOf index ∨
          (a.phase = .cleared ∧
            c.last.world.callsOf index = before.world.callsOf index ++ [a.iteration])) ∧
        (∀ rest, a.phase = .inHook .behaviour rest →
          c.last.world.callsOf index = before.world.callsOf index)) := by
  refine ⟨⟨c.iterations_last, c.length_calls_last.symm⟩, fun index a found ↦ ⟨?_, fun hEnd ↦ ?_⟩,
    fun first move second before raised hMoves hBefore hRaised hStop index a found ↦ ?_⟩
  · exact c.callsOf_last found
  · rw [c.callsOf_last found, List.length_range, Agent.begun_of_hasEnded hEnd]
  · have h := c.callsOf_after_raise hMoves hBefore hRaised hStop found
    refine ⟨h, fun rest hRest ↦ ?_⟩
    rcases h with hOld | ⟨hCleared, _⟩
    · exact hOld
    · exact absurd (hRest.symm.trans hCleared) (by simp)

end Course

/-! ## One iteration may be late -/

/-- Hooks whose behaviour tells the run to stop. -/
def AgentHooks.stopping : AgentHooks Unit Unit where
  setup := none
  behaviour := some fun _ value ↦ do
    Program.requestStop
    return (value, .ok)
  teardown := none

namespace LateIteration

def hooks : Hooks Unit Unit := ⟨(), (), none, none, .stopping⟩

def resolved : ResolvedScenario := ⟨"late", .of "" "" 2 (.iterations 3), true, .noop, none, none⟩

/-- Both agents are cleared before the first one tells the run to stop. -/
def early : List Move := [.agent 0, .agent 0, .agent 1, .agent 1, .agent 0]

def course : Course Network.unreachable () hooks resolved :=
  .ofMoves rfl (early ++ .agent 0 :: [.agent 1, .agent 1, .agent 1, .agent 1, .agent 1])
    (by decide)

end LateIteration

theorem safe_stop_late : LateIteration.course.last.world.callsOf 1 = [0] ∧
    LateIteration.course.last.world.counters.iterations = 1 := by
  have h := LateIteration.course.safe_stop
  have hLate := (h.2.2 LateIteration.early (.agent 0) _ _ _ rfl rfl rfl rfl 1 _ rfl).1
  refine ⟨?_, h.1.1⟩
  rcases hLate with hNone | ⟨_, hOne⟩
  · exact absurd hNone (by decide)
  · exact hOne

end StorefrontLoad.Run
