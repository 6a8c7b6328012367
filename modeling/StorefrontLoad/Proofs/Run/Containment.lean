import StorefrontLoad.Proofs.Run.Return

/-!
# Failures of agents

Whatever the hooks of its agents return, a run goes on to its report. So it does when a behaviour
panics. A setup or a teardown of an agent that panics is the one exception: the run ends at the join
of that agent, without a teardown of its own and without a report.
-/

namespace StorefrontLoad.Run

open Storefront (Network)

variable {R V σ : Type}

/-- Every summary can be added to the file, if there is one. -/
def CanFile (resolved : ResolvedScenario) (disk : Disk) : Prop :=
  ∀ path summary, resolved.summaryFile = some path →
    ∃ after, RunSummary.appendTo path summary disk = .ok after

theorem who_of_isHarm {occurrence : Occurrence} (h : occurrence.isHarm = true) :
    ∃ index : Nat, occurrence.who = some index := by
  unfold Occurrence.isHarm at h
  split at h
  · exact ⟨_, rfl⟩
  · exact ⟨_, rfl⟩
  · cases h

theorem Over.phase {setting : Setting σ R V} {resolved : ResolvedScenario}
    {trace : List Occurrence} {p : Performance σ R V} (isOver : Over setting resolved trace p) :
    ∀ a ∈ p.state.agents, ∃ running, a.phase = .ended running := by
  intro a hMem
  obtain ⟨index, found⟩ := Array.getElem?_of_mem hMem
  rcases Agent.phase_of_hasEnded (State.agent_hasEnded isOver.ended found) with
    hEnded | hCrashed
  · exact hEnded
  · have hUnharmed := isOver.unharmed
    rw [State.hasCrash_iff.2 ⟨index, a, found, hCrashed⟩] at hUnharmed
    cases hUnharmed

namespace Performance

variable {setting : Setting σ R V} {trace : List Occurrence} {p : Performance σ R V}

/-- An agent has crashed if and only if the trace tells of harm. -/
theorem Sound.isHarmed_iff (h : Sound setting trace p) :
    IsHarmed trace ↔ p.state.hasCrash = true := by
  constructor
  · rintro ⟨occurrence, hMem, hHarm⟩
    obtain ⟨index, hWho⟩ := who_of_isHarm hHarm
    have hMine : occurrence ∈ mine (some index) trace :=
      List.mem_filter.2 ⟨hMem, decide_eq_true hWho⟩
    cases found : p.state.agents[index]? with
    | none =>
      rw [h.absent index found] at hMine
      cases hMine
    | some a =>
      have hCrashed := (h.agents index a found).2.1 ⟨occurrence, hMine, hHarm⟩
      exact State.hasCrash_iff.2 ⟨index, a, found, hCrashed⟩
  · intro hCrash
    obtain ⟨index, a, found, hPhase⟩ := State.hasCrash_iff.1 hCrash
    obtain ⟨occurrence, hMine, hHarm⟩ := (h.agents index a found).2.2 hPhase
    exact ⟨occurrence, (List.mem_filter.1 hMine).1, hHarm⟩

/-- Harm leaves a run one conclusion, and its agents stay on stage for ever. -/
theorem Sound.of_isHarmed (h : Sound setting trace p) (hHarmed : IsHarmed trace)
    (letIn : p.plan.isSome) {conclusion : Conclusion} {shared : R}
    (hReturned : p.conductor = .returned conclusion shared) :
    conclusion = .failed crash ∧ OnStage setting.hooks trace := by
  have hCrash := h.isHarmed_iff.1 hHarmed
  have hPlace := h.place
  have hThere : p.plan ≠ none := Option.isSome_iff_ne_none.1 letIn
  have hNotOver : ∀ {resolved}, ¬ Over setting resolved trace p := by
    intro resolved isOver
    rw [isOver.unharmed] at hCrash
    cases hCrash
  simp only [Place, hReturned] at hPlace
  cases hPlace with
  | unbuilt wrong nothing plan disk => exact absurd plan hThere
  | refused built opening returned only wrong plan disk => exact absurd plan hThere
  | crashed built stage harmed disk => exact ⟨rfl, stage⟩
  | broken isOver torn wrong pending disk => exact absurd isOver hNotOver
  | unfiled isOver torn outcome outputs file wrong disk => exact absurd isOver hNotOver
  | finished isOver torn outcome outputs disk => exact absurd isOver hNotOver

/-- A run without harm finishes, unless its own teardown panics or its summary cannot be filed. -/
theorem Sound.finished (h : Sound setting trace p) (hUnharmed : ¬ IsHarmed trace)
    (letIn : p.plan.isSome) {resolved : ResolvedScenario}
    (hBuilt : setting.definition.build = .ok resolved)
    (hTeardown : ∀ message, .returned .teardown (.panicked message) ∉ trace)
    (hFile : CanFile resolved setting.occasion.disk) {conclusion : Conclusion} {shared : R}
    (hReturned : p.conductor = .returned conclusion shared) :
    ∃ summary, conclusion = .finished summary ∧ Over setting resolved trace p ∧
      IsTorn setting.hooks trace ∧ summary.outcome = p.state.world.counters.snapshot ∧
      outputs trace = reported resolved summary.outcome ++ filed resolved summary := by
  have hPlace := h.place
  have hThere : p.plan ≠ none := Option.isSome_iff_ne_none.1 letIn
  simp only [Place, hReturned] at hPlace
  cases hPlace with
  | unbuilt wrong nothing plan disk => exact absurd plan hThere
  | refused built opening returned only wrong plan disk => exact absurd plan hThere
  | crashed built stage harmed disk => exact absurd (h.isHarmed_iff.2 harmed) hUnharmed
  | broken isOver torn wrong pending disk => exact absurd wrong (hTeardown _)
  | @unfiled built summary path fault isOver torn outcome outputs file wrong disk =>
    obtain rfl := Except.ok.inj (isOver.built.symm.trans hBuilt)
    obtain ⟨after, hAppended⟩ := hFile path summary file
    rw [hAppended] at wrong
    cases wrong
  | @finished built summary isOver torn outcome outputs disk =>
    obtain rfl := Except.ok.inj (isOver.built.symm.trans hBuilt)
    exact ⟨summary, rfl, isOver, torn, outcome, outputs⟩

/-- Failures of agents are contained unless a setup or a teardown of an agent panics. A run that has
let its agents in, as many as the scenario asks for, returns whatever they fail at, provided that
somebody tells it to stop, that they come to their ends, or that they have a quota and do not wait.
If no setup and no teardown of an agent has panicked, then all agents have been joined, the run has
been told to stop, its teardown hook has been called once and has returned, the final outcome has
been reported and the summary is returned. If one has, the run ends with an error, and neither its
teardown nor its report ever comes. -/
theorem agents_contained {beats : List Beat}
    (played : (initial setting).applyAll setting beats = some p) (letIn : p.plan.isSome) :
    let trace := (initial setting).trace setting beats
    ∃ resolved, setting.definition.build = .ok resolved ∧
      p.state.agents.size = resolved.config.concurrency ∧
      (p.state.world.stopRequested = true ∨ p.state.hasEnded = true ∨
        ((∃ count, resolved.config.stopCondition = .iterations count) ∧
          setting.hooks.agent.NeverWait) → Inevitably setting HasReturned p) ∧
      ∀ conclusion shared, p.conductor = .returned conclusion shared →
        (IsHarmed trace → conclusion = .failed crash ∧ trace.countP (·.calls .teardown) = 0 ∧
          outputs trace = []) ∧
        (¬ IsHarmed trace → (∀ message, .returned .teardown (.panicked message) ∉ trace) →
          CanFile resolved setting.occasion.disk →
            ∃ summary, conclusion = .finished summary ∧
              (∀ a ∈ p.state.agents, ∃ running, a.phase = .ended running) ∧
              p.state.world.stopRequested = true ∧
              trace.countP (·.calls .teardown) =
                (if setting.hooks.teardown.isSome then 1 else 0) ∧
              (setting.hooks.teardown.isSome → ∃ ending, .returned .teardown ending ∈ trace) ∧
              outputs trace = reported resolved summary.outcome ++ filed resolved summary ∧
              summary.outcome = p.state.world.counters.snapshot) := by
  intro trace
  have hComes : Comes setting trace p := comes_of_applyAll played
  have hSound := hComes.sound
  obtain ⟨plan, hPlan⟩ := Option.isSome_iff_exists.1 letIn
  obtain ⟨resolved, hBuilt, _, hSize⟩ := (hComes.isCast hPlan).built
  refine ⟨resolved, hBuilt, hSize, hComes.inevitably_hasReturned letIn hBuilt, ?_⟩
  intro conclusion shared hReturned
  constructor
  · intro hHarmed
    obtain ⟨hConclusion, hStage⟩ := hSound.of_isHarmed hHarmed letIn hReturned
    exact ⟨hConclusion, hStage.early, hStage.pending⟩
  · intro hUnharmed hTeardown hFile
    obtain ⟨summary, hConclusion, hOver, hTorn, hOutcome, hOutputs⟩ :=
      hSound.finished hUnharmed letIn hBuilt hTeardown hFile hReturned
    exact ⟨summary, hConclusion, hOver.phase, hOver.stopped, hTorn.once, hTorn.returned, hOutputs,
      hOutcome⟩

end Performance

/-! ## Two agents at which everything fails -/

namespace Farce

/-- The setup of the first agent ends like this. The behaviour of the second one panics, and its
teardown fails. -/
def hooks (entrance : Ending) : Hooks Unit Unit where
  shared := ()
  own := ()
  setup := none
  teardown := some fun _ _ ↦ .done ((), .ok)
  agent := {
    setup := some fun context _ ↦ .done ((), if context.index = 0 then entrance else .ok)
    behaviour := some fun _ _ ↦ .done ((), .panicked (some "banana"))
    teardown := some fun _ _ ↦ .done ((), .failed (.ofMessage "curtain")) }

def arguments : CommandLine.Arguments :=
  ⟨"http://a", "b", some 2, some 1, none, 60, 0, 1, none, true, .inMemory, some "id", none⟩

def setting (entrance : Ending) : Setting Unit Unit Unit :=
  ⟨.unreachable, (), ⟨"", 0, .empty ["."], 0⟩, hooks entrance, .ofArguments "farce" arguments⟩

/-- Both agents come to their ends before the first one is joined. -/
def agents : List Beat := .conductor :: .agent 0 :: .agent 0 :: List.replicate 8 (.agent 1)

def beats : List Beat := agents ++ List.replicate 6 .conductor

abbrev play (entrance : Ending) (beats : List Beat) : Option (Performance Unit Unit Unit) :=
  (Performance.initial (setting entrance)).applyAll (setting entrance) beats

abbrev trace (entrance : Ending) (beats : List Beat) : List Occurrence :=
  (Performance.initial (setting entrance)).trace (setting entrance) beats

/-- The setup of the first agent fails. -/
def failing : Ending := .failed (.ofMessage "door")

end Farce

theorem agents_contained_farce :
    ∃ summary : RunSummary, outputs (Farce.trace Farce.failing Farce.beats) =
        [.printed (Report.printed summary.outcome)] ∧
      (Farce.trace Farce.failing Farce.beats).countP (·.calls .teardown) = 1 := by
  have hSome : (Farce.play Farce.failing Farce.beats).isSome := by decide +kernel
  obtain ⟨last, hPlayed⟩ := Option.isSome_iff_exists.1 hSome
  have hLast : (Farce.play Farce.failing Farce.beats).map
      (fun last ↦ (last.plan.isSome, last.summary?.isSome)) = some (true, true) := by
    decide +kernel
  have hReturns : (Farce.trace Farce.failing Farce.beats).filterMap Occurrence.return? =
      [(.agentSetup 0, Farce.failing), (.agentSetup 1, .ok),
        (.behaviour 1 0, .panicked (some "banana")),
        (.agentTeardown 1, .failed (.ofMessage "curtain")), (.teardown, .ok)] := by
    decide +kernel
  have hHarm : (Farce.trace Farce.failing Farce.beats).any Occurrence.isHarm = false := by
    decide +kernel
  have hBuild : (Farce.setting Farce.failing).definition.build.toOption.map
      (fun resolved ↦ (resolved.reporter, resolved.summaryFile)) = some (.inMemory, none) := by
    decide +kernel
  rw [hPlayed, Option.map_some, Option.some.injEq, Prod.mk.injEq] at hLast
  obtain ⟨letIn, hFinished⟩ := hLast
  obtain ⟨summary, hSummary⟩ := Option.isSome_iff_exists.1 hFinished
  obtain ⟨shared, hConductor⟩ := Performance.conductor_of_summary? hSummary
  obtain ⟨resolved, hBuilt, _, _, hReturned⟩ := Performance.agents_contained hPlayed letIn
  rw [hBuilt, Except.toOption, Option.map_some, Option.some.injEq, Prod.mk.injEq] at hBuild
  obtain ⟨hReporter, hFile⟩ := hBuild
  have hUnharmed : ¬ IsHarmed (Farce.trace Farce.failing Farce.beats) := by
    rintro ⟨occurrence, hMem, hIs⟩
    rw [List.any_eq_false] at hHarm
    exact hHarm occurrence hMem hIs
  have hTeardown (message : Option String) :
      .returned .teardown (.panicked message) ∉ Farce.trace Farce.failing Farce.beats := by
    intro hMem
    have hReturn : (Hook.teardown, Ending.panicked message) ∈
        (Farce.trace Farce.failing Farce.beats).filterMap Occurrence.return? :=
      List.mem_filterMap.2 ⟨_, hMem, rfl⟩
    rw [hReturns] at hReturn
    simp at hReturn
  have hCanFile : CanFile resolved (Farce.setting Farce.failing).occasion.disk := by
    intro path summary hSome
    rw [hFile] at hSome
    cases hSome
  obtain ⟨final, _, _, _, hOnce, _, hOutputs, _⟩ :=
    (hReturned _ _ hConductor).2 hUnharmed hTeardown hCanFile
  refine ⟨final, ?_, hOnce⟩
  rw [hOutputs, reported, filed, hReporter, hFile]
  rfl

/-- If the setup of the first agent panics instead, then the run ends at its join, although all
agents have come to their ends. -/
theorem uncontained_farce :
    let beats := Farce.agents ++ [.conductor]
    let trace := Farce.trace (.panicked none) beats
    trace.countP (·.calls .teardown) = 0 ∧ outputs trace = [] ∧
      ∃ last, Farce.play (.panicked none) beats = some last ∧ last.plan.isSome ∧
        last.state.hasEnded = true ∧ last.trouble? = some crash := by
  intro beats trace
  have hCalls : trace.countP (·.calls .teardown) = 0 := by decide +kernel
  have hOutputs : (outputs trace).isEmpty := by decide +kernel
  have hEnd : (Farce.play (.panicked none) beats).map
      (fun last ↦ (last.plan.isSome, last.state.hasEnded, last.trouble?)) =
        some (true, true, some crash) := by decide +kernel
  obtain ⟨last, hPlayed, hLast⟩ := Option.map_eq_some_iff.1 hEnd
  obtain ⟨hPlan, hRest⟩ := Prod.mk.inj hLast
  obtain ⟨hEnded, hTrouble⟩ := Prod.mk.inj hRest
  exact ⟨hCalls, List.isEmpty_iff.1 hOutputs, last, hPlayed, hPlan, hEnded, hTrouble⟩

end StorefrontLoad.Run
