import StorefrontLoad.Proofs.Run.Trail
import StorefrontLoad.Run.Execution

/-!
# Courses of a run

A course is what has come of a run so far: its setup went well, and its agents have made some
sequence of moves. What a run says of itself at its end is told by the state its agents ended in.
-/

namespace StorefrontLoad.Run

open Storefront (Network)

variable {R V σ : Type}

/-- A run up to some moment after its setup. -/
structure Course (network : Network σ) (state : σ) (hooks : Hooks R V)
    (resolved : ResolvedScenario) where
  /-- What the setup left to all agents. -/
  shared : R
  /-- The world when the agents arrived. -/
  world : World σ
  opened : callHook network resolved.config .setup hooks.setup hooks.shared
    ((World.fresh state).logAll (opening hooks resolved)) = some ((shared, .ok), world)
  moves : List Move
  last : State σ V
  played : (State.initial resolved.config hooks.own world).applyAll
    ⟨resolved.config, shared, hooks.agent⟩ network moves = some last

/-- What the setup leaves to the agents, and the world they arrive in, if it goes well. -/
def opened? (network : Network σ) (state : σ) (hooks : Hooks R V) (resolved : ResolvedScenario) :
    Option (R × World σ) :=
  match callHook network resolved.config .setup hooks.setup hooks.shared
    ((World.fresh state).logAll (opening hooks resolved)) with
  | some ((shared, .ok), world) => some (shared, world)
  | _ => none

theorem opened_of_opened? {network : Network σ} {state : σ} {hooks : Hooks R V}
    {resolved : ResolvedScenario} {shared : R} {world : World σ}
    (h : opened? network state hooks resolved = some (shared, world)) :
    callHook network resolved.config .setup hooks.setup hooks.shared
      ((World.fresh state).logAll (opening hooks resolved)) = some ((shared, .ok), world) := by
  unfold opened? at h
  split at h
  · next hCalled =>
    rw [hCalled]
    cases h
    rfl
  · cases h

/-- The course of some moves, all of which are possible. -/
def Course.ofMoves {network : Network σ} {state : σ} {hooks : Hooks R V}
    {resolved : ResolvedScenario} (opens : (opened? network state hooks resolved).isSome)
    (moves : List Move)
    (possible : ((State.initial resolved.config hooks.own
      ((opened? network state hooks resolved).get opens).2).applyAll
        ⟨resolved.config, ((opened? network state hooks resolved).get opens).1, hooks.agent⟩
        network moves).isSome) :
    Course network state hooks resolved where
  shared := ((opened? network state hooks resolved).get opens).1
  world := ((opened? network state hooks resolved).get opens).2
  opened := opened_of_opened? (Option.some_get opens).symm
  moves := moves
  last := _
  played := (Option.some_get possible).symm

/-! ## Before the agents -/

theorem World.murmurs_logAll (lines : List LogLine) (w : World σ) :
    w.Murmurs (w.logAll lines) := by
  induction lines generalizing w with
  | nil => exact .refl w
  | cons line lines ih => exact (World.Murmurs.log line w).trans (ih (w.log line))

/-- A hook of the scenario itself neither calls the behaviour nor counts iterations. -/
theorem Program.frame_of_complete {α : Type} {network : Network σ} {p : Program α}
    {w after : World σ} {result : α} (h : p.complete network w = some (result, after)) :
    after.calls = w.calls ∧ after.counters.iterations = w.counters.iterations := by
  induction p generalizing w with
  | done a =>
    cases h
    exact ⟨rfl, rfl⟩
  | step action next ih =>
    simp only [Program.complete] at h
    split at h
    · cases h
    · next taken hTaken =>
      have hPerforms := World.performs_of_perform hTaken
      obtain ⟨hCalls, hIterations⟩ := ih taken.reply h
      rw [hCalls, hIterations, hPerforms.calls, hPerforms.counters, action.iterations_count]
      exact ⟨rfl, rfl⟩

theorem frame_of_callHook {network : Network σ} {config : RunConfig} {hook : Hook}
    {code : Option (ScenarioHook R)} {shared : R} {w after : World σ} {result : R × Ending}
    (hHook : (Event.called hook).call? = none)
    (h : callHook network config hook code shared w = some (result, after)) :
    after.calls = w.calls ∧ after.counters.iterations = w.counters.iterations := by
  cases code with
  | none =>
    cases h
    exact ⟨rfl, rfl⟩
  | some code =>
    obtain ⟨hCalls, hIterations⟩ := Program.frame_of_complete h
    exact ⟨hCalls.trans (World.Murmurs.called hHook w).calls, hIterations⟩

namespace Course

variable {network : Network σ} {state : σ} {hooks : Hooks R V} {resolved : ResolvedScenario}

def plan (c : Course network state hooks resolved) : Plan R V :=
  ⟨resolved.config, c.shared, hooks.agent⟩

def start (c : Course network state hooks resolved) : State σ V :=
  .initial resolved.config hooks.own c.world

/-- The actions that the agents have taken, in order. -/
def deeds (c : Course network state hooks resolved) : List Deed :=
  c.start.transcript c.plan network c.moves

/-- Whether the run was in the state at some moment. -/
def Passes (c : Course network state hooks resolved) (s : State σ V) : Prop :=
  ∃ first second, c.moves = first ++ second ∧ c.start.applyAll c.plan network first = some s

theorem reaches (c : Course network state hooks resolved) :
    State.Reaches c.Passes c.plan network c.start c.deeds c.last := by
  have hStart : State.Reaches c.Passes c.plan network c.start [] c.start := .refl
  have h := hStart.applyAll
    (fun first second t hMoves hFirst ↦ ⟨first, second, hMoves, hFirst⟩) c.played
  exact h

/-- A run that is cut in two goes on from the state it was cut in. -/
theorem played_rest (c : Course network state hooks resolved) {first second : List Move}
    {s : State σ V} (hMoves : c.moves = first ++ second)
    (hFirst : c.start.applyAll c.plan network first = some s) :
    s.applyAll c.plan network second = some c.last := by
  have hPlayed := c.played
  rw [hMoves, State.applyAll_append] at hPlayed
  change (c.start.applyAll c.plan network first).bind _ = _ at hPlayed
  rwa [hFirst] at hPlayed

theorem calls_world (c : Course network state hooks resolved) : c.world.calls = [] := by
  have h := (frame_of_callHook rfl c.opened).1
  rw [h, (World.murmurs_logAll _ _).calls]
  rfl

theorem iterations_world (c : Course network state hooks resolved) :
    c.world.counters.iterations = 0 := by
  have h := (frame_of_callHook rfl c.opened).2
  rw [h, (World.murmurs_logAll _ _).counters]
  rfl

theorem agents_start (c : Course network state hooks resolved) :
    c.start.agents = Array.replicate resolved.config.concurrency (.initial hooks.own) := rfl

theorem eq_initial_of_start {c : Course network state hooks resolved} {index : Nat} {a : Agent V}
    (h : c.start.agents[index]? = some a) : a = .initial hooks.own := by
  rw [agents_start, Array.getElem?_replicate] at h
  split at h
  · exact (Option.some.inj h).symm
  · cases h

/-- What every agent starts with and keeps by its own steps holds of it to the end. -/
theorem forall_agents (c : Course network state hooks resolved) {P : Nat → Trail → Agent V → Prop}
    (hStart : ∀ index, P index (Trail.of index c.world []) (.initial hooks.own))
    (hStep : ∀ (now : State σ V) (index : Nat) (a after : Agent V) (deeds new : List Deed)
      (world : World σ), c.Passes now → now.agents[index]? = some a →
      a.Turn c.plan network index now.world after new world →
      P index (Trail.of index now.world deeds) a →
      P index (Trail.of index world (deeds ++ new)) after)
    {index : Nat} {a : Agent V} (found : c.last.agents[index]? = some a) :
    P index (Trail.of index c.last.world c.deeds) a := by
  refine c.reaches.forall_agents ?_ hStep index a found
  intro index a hFound
  rw [eq_initial_of_start hFound]
  exact hStart index

theorem size_agents (c : Course network state hooks resolved) :
    c.last.agents.size = resolved.config.concurrency := by
  rw [c.reaches.size_agents, agents_start, Array.size_replicate]

end Course

/-! ## After the agents -/

theorem eq_of_store {summary stored : RunSummary} {path : Option String} {disk : Disk}
    {w : World σ} (h : (store summary path disk w).1 = .finished stored) : stored = summary := by
  unfold store at h
  split at h
  · cases h
    rfl
  · split at h
    · cases h
      rfl
    · cases h

/-- The summary of a run tells the counters as the teardown hook left them, and how many agents
were still running. -/
theorem summary_of_finish {network : Network σ} {occasion : Occasion} {hooks : Hooks R V}
    {resolved : ResolvedScenario} {shared : R} {s : State σ V} {account : Account R V}
    {summary : RunSummary}
    (h : finish network occasion hooks resolved shared s = some account)
    (hSummary : account.conclusion = .finished summary) :
    s.hasCrash = false ∧ ∃ result after,
      callHook network resolved.config .teardown hooks.teardown shared s.world.requestStop =
        some (result, after) ∧
      summary.outcome = after.counters.snapshot ∧ summary.agentEndCount = s.endCount.toUInt64 := by
  unfold finish at h
  simp only at h
  split at h
  · cases h
    cases hSummary
  · next hCrash =>
    obtain ⟨⟨⟨left, ending⟩, after⟩, hCalled, hAccount⟩ := Option.map_eq_some_iff.1 h
    refine ⟨by simpa using hCrash, _, after, hCalled, ?_⟩
    have hCounters := (World.murmurs_logAll (teardownLines ending) after).counters
    simp only at hAccount
    split at hAccount
    · subst hAccount
      cases hSummary
    · subst hAccount
      have hEq := eq_of_store hSummary
      subst hEq
      rw [← hCounters]
      exact ⟨rfl, rfl⟩

/-- A run without a crash, without a teardown and without a file for its summary comes to one. -/
theorem exists_summary (network : Network σ) (occasion : Occasion) {hooks : Hooks R V}
    {resolved : ResolvedScenario} (shared : R) {s : State σ V} (hCrash : s.hasCrash = false)
    (hTeardown : hooks.teardown = none) (hFile : resolved.summaryFile = none) :
    ∃ account summary, finish network occasion hooks resolved shared s = some account ∧
      account.conclusion = .finished summary := by
  unfold finish
  simp only [hCrash, hTeardown, hFile, callHook, store]
  exact ⟨_, _, rfl, rfl⟩

end StorefrontLoad.Run
