import StorefrontLoad.Proofs.Run.Performance
import StorefrontLoad.Proofs.Run.Standing

/-!
# The life cycle of a run

Whatever the order of the beats and whatever the hooks return, everything that occurs fits what was
before it: the setup comes first, the agents act between the setup and the teardown, each by the law
of an agent, and what the run hands out comes last. A run that has returned has met one of six
fates, and where its conductor is tells which of them are still open.
-/

namespace StorefrontLoad.Run

open Storefront (Network)

variable {R V σ : Type}

/-! ## The law of a run -/

/-- The agents may act: the setup went well, and nothing that comes after the agents has begun. -/
structure OnStage (hooks : Hooks R V) (past : List Occurrence) : Prop where
  opened : WentWell hooks.setup.isSome .setup past
  early : past.countP (·.calls .teardown) = 0
  pending : outputs past = []

/-- Nobody is in a hook, and the teardown, if there is one, has returned. -/
structure IsDown (hooks : Hooks R V) (past : List Occurrence) : Prop where
  opened : WentWell hooks.setup.isSome .setup past
  free : ∀ who, within (mine who past) = none
  torn : hooks.teardown.isSome → ∃ ending, .returned .teardown ending ∈ past

/-- What may occur next in a run with such a past. -/
inductive Fits (hooks : Hooks R V) (past : List Occurrence) : Occurrence → Prop
  | agent {agent : Nat} {occurrence : Occurrence} (stage : OnStage hooks past)
      (fits : FitsAgent hooks.agent agent (mine (some agent) past) occurrence) :
      Fits hooks past occurrence
  | setup (first : past = []) : Fits hooks past (.called .setup)
  | teardown (stage : OnStage hooks past) (free : ∀ who, within (mine who past) = none) :
      Fits hooks past (.called .teardown)
  | posted {request : Storefront.Request} (inside : within (mine none past) ≠ none)
      (pending : outputs past = []) : Fits hooks past (.event (.posted none request))
  | returned {hook : Hook} {ending : Ending} (whose : hook.agent? = none)
      (inside : within (mine none past) = some hook) (pending : outputs past = []) :
      Fits hooks past (.returned hook ending)
  | printed {text : String} (down : IsDown hooks past) (first : outputs past = []) :
      Fits hooks past (.event (.printed text))
  | stored {path : String} {summary : RunSummary} (down : IsDown hooks past)
      (first : ∀ path summary, .stored path summary ∉ outputs past) :
      Fits hooks past (.event (.stored path summary))

section Agents

variable {hooks : Hooks R V} {agent : Nat} {past new : List Occurrence}

theorem outputs_of_agent (h : ∀ occurrence ∈ new, occurrence.who = some agent) :
    outputs new = [] := by
  rw [outputs, List.filterMap_eq_nil_iff]
  intro occurrence hMem
  have hWho := h occurrence hMem
  cases occurrence with
  | returned hook ending => rfl
  | event event =>
    cases event with
    | printed text => cases hWho
    | stored path summary => cases hWho
    | called | posted | logged => rfl

theorem OnStage.append (h : OnStage hooks past)
    (hNew : ∀ occurrence ∈ new, occurrence.who = some agent) : OnStage hooks (past ++ new) where
  opened := h.opened.append fun ending hMem ↦ nomatch hNew _ hMem
  early := by
    rw [List.countP_append, h.early, Nat.zero_add, List.countP_eq_zero]
    intro occurrence hMem hCalls
    have hWho := hNew occurrence hMem
    unfold Occurrence.calls at hCalls
    split at hCalls
    · rw [of_decide_eq_true hCalls] at hWho
      cases hWho
    · cases hCalls
  pending := by rw [outputs_append, h.pending, outputs_of_agent hNew, List.nil_append]

theorem who_of_follows (h : Follows (FitsAgent hooks.agent agent) past new) :
    ∀ occurrence ∈ new, occurrence.who = some agent := by
  intro occurrence hMem
  obtain ⟨before, after, hSplit⟩ := List.append_of_mem hMem
  exact (h before occurrence after hSplit).who

/-- What fits an agent on stage fits the run. -/
theorem follows_of_agent (stage : OnStage hooks past)
    (h : Follows (FitsAgent hooks.agent agent) (mine (some agent) past) new) :
    Follows (Fits hooks) past new := by
  intro before occurrence after hSplit
  have hWho : ∀ o ∈ before, o.who = some agent := by
    intro o hMem
    exact who_of_follows h o (hSplit ▸ List.mem_append_left _ hMem)
  have hOwn := h before occurrence after hSplit
  rw [← mine_of_forall hWho, ← mine_append] at hOwn
  exact .agent (stage.append hWho) hOwn

end Agents

/-! ## The fates of a run -/

/-- What is printed of the outcome. -/
def reported (resolved : ResolvedScenario) (outcome : OutcomeSummary) : List Event :=
  match resolved.reporter with
  | .inMemory => [.printed (Report.printed outcome)]
  | .noop => []

/-- What is stored of the summary. -/
def filed (resolved : ResolvedScenario) (summary : RunSummary) : List Event :=
  match resolved.summaryFile with
  | some path => [.stored path summary]
  | none => []

/-- The summary has been added to the file, if there is one, and nothing else has happened to the
disk. -/
def IsFiled (resolved : ResolvedScenario) (summary : RunSummary) (before after : Disk) : Prop :=
  match resolved.summaryFile with
  | some path => summary.appendTo path before = .ok after
  | none => after = before

/-- What a setup hook that went wrong makes of a run. -/
def Ending.conclusion? : Ending → Option Conclusion
  | ok => none
  | failed trouble => some (.failed trouble)
  | panicked message => some (.panicked message)

/-- Only the setup hook has been called. -/
structure IsOpening (trace : List Occurrence) : Prop where
  calls : ∀ hook, .called hook ∈ trace → hook = .setup
  pending : outputs trace = []

/-- The run is over for its agents. -/
structure Over (setting : Setting σ R V) (resolved : ResolvedScenario) (trace : List Occurrence)
    (p : Performance σ R V) : Prop where
  built : setting.definition.build = .ok resolved
  opened : WentWell setting.hooks.setup.isSome .setup trace
  ended : p.state.hasEnded = true
  unharmed : p.state.hasCrash = false
  stopped : p.state.world.stopRequested = true

/-- The teardown hook, if there is one, has been called once and has returned. -/
structure IsTorn (hooks : Hooks R V) (trace : List Occurrence) : Prop where
  free : within (mine none trace) = none
  once : trace.countP (·.calls .teardown) = if hooks.teardown.isSome then 1 else 0
  returned : hooks.teardown.isSome → ∃ ending, .returned .teardown ending ∈ trace

/-- How a run can have come to its conclusion. -/
inductive Fate (setting : Setting σ R V) (trace : List Occurrence) (p : Performance σ R V) :
    Conclusion → Prop
  | unbuilt {e : ScenarioDefinition.BuildError} (wrong : setting.definition.build = .error e)
      (nothing : trace = []) (plan : p.plan = none) (disk : p.disk = setting.occasion.disk) :
      Fate setting trace p (.failed e.trouble)
  | refused {resolved : ResolvedScenario} {ending : Ending} {conclusion : Conclusion}
      (built : setting.definition.build = .ok resolved) (opening : IsOpening trace)
      (returned : .returned .setup ending ∈ trace)
      (only : ∀ other, .returned .setup other ∈ trace → other = ending)
      (wrong : ending.conclusion? = some conclusion) (plan : p.plan = none)
      (disk : p.disk = setting.occasion.disk) : Fate setting trace p conclusion
  | crashed {resolved : ResolvedScenario} (built : setting.definition.build = .ok resolved)
      (stage : OnStage setting.hooks trace) (harmed : p.state.hasCrash = true)
      (disk : p.disk = setting.occasion.disk) : Fate setting trace p (.failed crash)
  | broken {resolved : ResolvedScenario} {message : Option String}
      (isOver : Over setting resolved trace p) (torn : IsTorn setting.hooks trace)
      (wrong : .returned .teardown (.panicked message) ∈ trace) (pending : outputs trace = [])
      (disk : p.disk = setting.occasion.disk) : Fate setting trace p (.panicked message)
  | unfiled {resolved : ResolvedScenario} {summary : RunSummary} {path : String}
      {fault : Disk.Fault} (isOver : Over setting resolved trace p)
      (torn : IsTorn setting.hooks trace)
      (outcome : summary.outcome = p.state.world.counters.snapshot)
      (outputs : outputs trace = reported resolved summary.outcome)
      (file : resolved.summaryFile = some path)
      (wrong : summary.appendTo path setting.occasion.disk = .error fault)
      (disk : p.disk = setting.occasion.disk) :
      Fate setting trace p (.failed ((Trouble.ofMessage fault.message).context
        s!"Failed to write run summary to {path}"))
  | finished {resolved : ResolvedScenario} {summary : RunSummary}
      (isOver : Over setting resolved trace p) (torn : IsTorn setting.hooks trace)
      (outcome : summary.outcome = p.state.world.counters.snapshot)
      (outputs : outputs trace = reported resolved summary.outcome ++ filed resolved summary)
      (disk : IsFiled resolved summary setting.occasion.disk p.disk) :
      Fate setting trace p (.finished summary)

/-! ## What the run itself does outside of calls -/

/-- Everything belongs to the run itself, and no hook is called or returns. -/
def AreCalm (new : List Occurrence) : Prop :=
  ∀ occurrence ∈ new, ∃ event, occurrence = .event event ∧ occurrence.who = none ∧
    ∀ hook, event ≠ .called hook

namespace AreCalm

variable {past new : List Occurrence}

theorem who (h : AreCalm new) : ∀ occurrence ∈ new, occurrence.who = none := by
  intro occurrence hMem
  obtain ⟨event, _, hWho, _⟩ := h occurrence hMem
  exact hWho

theorem called (h : AreCalm new) (hook : Hook) : .called hook ∉ new := by
  intro hMem
  obtain ⟨event, hEq, _, hCalls⟩ := h _ hMem
  exact hCalls hook (Occurrence.event.inj hEq).symm

theorem returned (h : AreCalm new) (hook : Hook) (ending : Ending) :
    .returned hook ending ∉ new := by
  intro hMem
  obtain ⟨event, hEq, _⟩ := h _ hMem
  cases hEq

theorem calls (h : AreCalm new) (hook : Hook) : new.countP (·.calls hook) = 0 := by
  rw [List.countP_eq_zero]
  intro occurrence hMem hCalls
  unfold Occurrence.calls at hCalls
  split at hCalls
  · exact h.called _ hMem
  · cases hCalls

theorem within (h : AreCalm new) : within (mine none (past ++ new)) = within (mine none past) := by
  induction new generalizing past with
  | nil => rw [List.append_nil]
  | cons occurrence rest ih =>
    obtain ⟨event, rfl, hWho, hCalls⟩ := h _ List.mem_cons_self
    have hRest : AreCalm rest := fun o hMem ↦ h o (List.mem_cons_of_mem _ hMem)
    have hMine : mine none [.event event] = [.event event] :=
      mine_of_forall (by simpa using hWho)
    rw [List.append_cons, ih hRest, mine_append, hMine]
    exact within_append_event _ hCalls

end AreCalm

theorem areCalm_requests (action : Action) :
    AreCalm ((action.request?.toList.map (Event.posted none)).map .event) := by
  intro occurrence hMem
  obtain ⟨event, hEvent, rfl⟩ := List.mem_map.1 hMem
  obtain ⟨request, _, rfl⟩ := List.mem_map.1 hEvent
  exact ⟨_, rfl, rfl, fun hook h ↦ nomatch h⟩

theorem outputs_requests (action : Action) (agent : Option Nat) :
    outputs ((action.request?.toList.map (Event.posted agent)).map .event) = [] := by
  cases action.request? <;> rfl

/-- Inside of a hook the run itself may send requests. -/
theorem follows_requests {hooks : Hooks R V} {past : List Occurrence} (action : Action)
    (inside : within (mine none past) ≠ none) (pending : outputs past = []) :
    Follows (Fits hooks) past ((action.request?.toList.map (Event.posted none)).map .event) := by
  cases action.request? with
  | none => exact .nil
  | some request => exact .cons (.posted inside pending) .nil

section HandedOut

variable (resolved : ResolvedScenario)

theorem areCalm_reported (outcome : OutcomeSummary) :
    AreCalm ((reported resolved outcome).map .event) := by
  unfold reported
  cases resolved.reporter <;> simp [AreCalm, Occurrence.who]

theorem outputs_reported (outcome : OutcomeSummary) :
    outputs ((reported resolved outcome).map .event) = reported resolved outcome := by
  unfold reported
  cases resolved.reporter <;> rfl

theorem outward_report (outcome : OutcomeSummary) (w : World σ) :
    (report resolved.reporter outcome w).outward = w.outward ++ reported resolved outcome := by
  unfold report reported
  cases resolved.reporter with
  | inMemory => exact World.outward_note _ w
  | noop => exact (List.append_nil _).symm

theorem frame_report (reporter : Reporter) (outcome : OutcomeSummary) (w : World σ) :
    (report reporter outcome w).counters = w.counters ∧
      (report reporter outcome w).stopRequested = w.stopRequested := by
  cases reporter <;> exact ⟨rfl, rfl⟩

theorem areCalm_filed (summary : RunSummary) :
    AreCalm ((filed resolved summary).map .event) := by
  unfold filed
  cases resolved.summaryFile <;> simp [AreCalm, Occurrence.who]

theorem outputs_filed (summary : RunSummary) :
    outputs ((filed resolved summary).map .event) = filed resolved summary := by
  unfold filed
  cases resolved.summaryFile <;> rfl

theorem follows_filed {hooks : Hooks R V} {past : List Occurrence} (summary : RunSummary)
    (down : IsDown hooks past) (first : ∀ path summary, .stored path summary ∉ outputs past) :
    Follows (Fits hooks) past ((filed resolved summary).map .event) := by
  unfold filed
  cases resolved.summaryFile with
  | some path => exact .cons (.stored down first) .nil
  | none => exact .nil

/-- What storing the summary gives: a conclusion, a disk and a world. -/
inductive IsStored (summary : RunSummary) (before : Disk) (w : World σ) :
    Conclusion × Disk × World σ → Prop
  | filed {after : Disk} {world : World σ} (done : IsFiled resolved summary before after)
      (outward : world.outward = w.outward ++ filed resolved summary)
      (counters : world.counters = w.counters) (stop : world.stopRequested = w.stopRequested) :
      IsStored summary before w (.finished summary, after, world)
  | unfiled {path : String} {fault : Disk.Fault} (file : resolved.summaryFile = some path)
      (wrong : summary.appendTo path before = .error fault) :
      IsStored summary before w
        (.failed ((Trouble.ofMessage fault.message).context
          s!"Failed to write run summary to {path}"), before, w)

theorem stored_store (summary : RunSummary) (before : Disk) (w : World σ) :
    IsStored resolved summary before w (store summary resolved.summaryFile before w) := by
  unfold store
  cases hFile : resolved.summaryFile with
  | none =>
    refine .filed ?_ ?_ rfl rfl
    · rw [IsFiled, hFile]
    · rw [filed, hFile, List.append_nil]
  | some path =>
    cases hAppend : summary.appendTo path before with
    | error fault =>
      simp only [hAppend]
      exact .unfiled hFile hAppend
    | ok after =>
      simp only [hAppend]
      refine .filed ?_ ?_ rfl rfl
      · rw [IsFiled, hFile]
        exact hAppend
      · rw [filed, hFile]
        exact World.outward_note _ w

end HandedOut

theorem IsOpening.append {trace new : List Occurrence} (h : IsOpening trace)
    (hCalls : ∀ hook, .called hook ∉ new) (hPending : outputs new = []) :
    IsOpening (trace ++ new) where
  calls hook hMem := by
    rcases List.mem_append.1 hMem with hPast | hNow
    · exact h.calls hook hPast
    · exact absurd hNow (hCalls hook)
  pending := by rw [outputs_append, h.pending, hPending, List.append_nil]

/-- The agents come on after a setup that went well. -/
theorem IsOpening.onStage {hooks : Hooks R V} {trace : List Occurrence} (h : IsOpening trace)
    (hWell : WentWell hooks.setup.isSome .setup trace) : OnStage hooks trace where
  opened := hWell
  early := by
    rw [List.countP_eq_zero]
    intro occurrence hMem hCalls
    unfold Occurrence.calls at hCalls
    split at hCalls
    · have hSetup := h.calls _ hMem
      rw [of_decide_eq_true hCalls] at hSetup
      cases hSetup
    · cases hCalls
  pending := h.pending

theorem IsTorn.append {hooks : Hooks R V} {trace new : List Occurrence} (h : IsTorn hooks trace)
    (hNew : AreCalm new) : IsTorn hooks (trace ++ new) where
  free := by rw [hNew.within, h.free]
  once := by rw [List.countP_append, hNew.calls, h.once, Nat.add_zero]
  returned hThere := by
    obtain ⟨ending, hMem⟩ := h.returned hThere
    exact ⟨ending, List.mem_append_left _ hMem⟩

section Afterwards

variable {setting : Setting σ R V} {resolved : ResolvedScenario} {trace new : List Occurrence}
  {p next : Performance σ R V}

theorem Over.congr (h : Over setting resolved trace p)
    (hAgents : next.state.agents = p.state.agents)
    (hStopped : next.state.world.stopRequested = true) : Over setting resolved trace next where
  built := h.built
  opened := h.opened
  ended := by
    rw [State.hasEnded, hAgents]
    exact h.ended
  unharmed := by
    rw [State.hasCrash, hAgents]
    exact h.unharmed
  stopped := hStopped

theorem Over.append (h : Over setting resolved trace p)
    (hNew : ∀ ending, .returned .setup ending ∉ new) : Over setting resolved (trace ++ new) p :=
  ⟨h.built, h.opened.append hNew, h.ended, h.unharmed, h.stopped⟩

end Afterwards

/-! ## Where the conductor is -/

namespace Performance

/-- No agents have been let in. -/
structure IsEmpty (p : Performance σ R V) : Prop where
  plan : p.plan = none
  agents : p.state.agents = #[]

/-- What the trace must have been, by where the conductor is now. -/
def Place (setting : Setting σ R V) (trace : List Occurrence) (p : Performance σ R V) : Prop :=
  match p.conductor with
  | .building => p.IsEmpty ∧ p.disk = setting.occasion.disk ∧ trace = []
  | .inHook .before resolved _ => p.IsEmpty ∧ p.disk = setting.occasion.disk ∧
      setting.definition.build = .ok resolved ∧ IsOpening trace ∧
      within (mine none trace) = some .setup ∧ ∀ hook ending, .returned hook ending ∉ trace
  | .joining resolved _ agent => p.disk = setting.occasion.disk ∧
      setting.definition.build = .ok resolved ∧ OnStage setting.hooks trace ∧
      within (mine none trace) = none ∧
      ∀ index < agent, ∀ a : Agent V, p.state.agents[index]? = some a →
        ∃ running, a.phase = .ended running
  | .inHook .after resolved _ => p.disk = setting.occasion.disk ∧ Over setting resolved trace p ∧
      outputs trace = [] ∧ within (mine none trace) = some .teardown ∧
      setting.hooks.teardown.isSome ∧ trace.countP (·.calls .teardown) = 1
  | .reporting resolved _ => p.disk = setting.occasion.disk ∧ Over setting resolved trace p ∧
      IsTorn setting.hooks trace ∧ outputs trace = []
  | .storing resolved _ summary => p.disk = setting.occasion.disk ∧
      Over setting resolved trace p ∧ IsTorn setting.hooks trace ∧
      summary.outcome = p.state.world.counters.snapshot ∧
      outputs trace = reported resolved summary.outcome
  | .returned conclusion _ => Fate setting trace p conclusion

/-- Everything occurred by the law, and everybody is where the trace says. -/
structure Sound (setting : Setting σ R V) (trace : List Occurrence) (p : Performance σ R V) :
    Prop where
  lawful : Follows (Fits setting.hooks) [] trace
  agents : ∀ (index : Nat) (a : Agent V), p.state.agents[index]? = some a →
    a.Standing setting.hooks.agent index (mine (some index) trace) ∧
      (IsHarmed (mine (some index) trace) ↔ a.phase = .crashed)
  absent : ∀ index : Nat, p.state.agents[index]? = none → mine (some index) trace = []
  plan : ∀ plan, p.plan = some plan → plan.hooks = setting.hooks.agent
  place : p.Place setting trace

variable {setting : Setting σ R V} {trace : List Occurrence} {p next : Performance σ R V}

theorem sound_initial : Sound setting [] (initial setting) where
  lawful := .nil
  agents index a found := by simp [initial] at found
  absent _ _ := rfl
  plan _ h := nomatch h
  place := ⟨⟨rfl, rfl⟩, rfl, rfl⟩

/-! ## Beats of the agents -/

section AgentBeats

variable {plan : Plan R V} {index : Nat} {a after : Agent V} {s : State σ V}
  {new : List Occurrence}

theorem not_hasEnded_of_step {network : Network σ} {w world : World σ}
    (h : a.step plan network index w = some (after, world)) : a.hasEnded = false := by
  unfold Agent.step at h
  unfold Agent.hasEnded
  split at h <;> simp_all

/-- An agent can move only while it is on stage, and then the conductor stays where it is. -/
theorem place_agent (h : p.Place setting trace) (hPlan : p.plan = some plan)
    (found : p.state.agents[index]? = some a) (hMoves : a.hasEnded = false)
    (hAgents : s.agents = p.state.agents.setIfInBounds index after)
    (hWho : ∀ occurrence ∈ new, occurrence.who = some index) :
    OnStage setting.hooks trace ∧
      ({ p with state := s } : Performance σ R V).Place setting (trace ++ new) := by
  have hNotOver : ∀ {resolved}, ¬ Over setting resolved trace p := by
    intro resolved isOver
    rw [State.agent_hasEnded isOver.ended found] at hMoves
    cases hMoves
  have hNotEmpty : p.plan ≠ none := by simp [hPlan]
  have hOther {other : Nat} (hne : index ≠ other) :
      s.agents[other]? = p.state.agents[other]? := by
    rw [hAgents, Array.getElem?_setIfInBounds_ne hne]
  unfold Place at h ⊢
  split at h
  · exact absurd h.1.plan hNotEmpty
  · exact absurd h.1.plan hNotEmpty
  · next hConductor =>
    obtain ⟨hDisk, hBuilt, hStage, hFree, hJoined⟩ := h
    simp only [hConductor]
    refine ⟨hStage, hDisk, hBuilt, hStage.append hWho, ?_, ?_⟩
    · rwa [mine_append_of_ne hWho (by simp)]
    · intro other hLess b foundOther
      by_cases hne : index = other
      · subst hne
        obtain ⟨running, hPhase⟩ := hJoined index hLess a found
        simp [Agent.hasEnded, hPhase] at hMoves
      · rw [hOther hne] at foundOther
        exact hJoined other hLess b foundOther
  · exact absurd h.2.1 hNotOver
  · exact absurd h.2.1 hNotOver
  · exact absurd h.2.1 hNotOver
  · next hConductor =>
    simp only [hConductor]
    cases h with
    | unbuilt wrong nothing plan disk => exact absurd plan hNotEmpty
    | refused built opening returned only wrong plan disk => exact absurd plan hNotEmpty
    | crashed built stage harmed disk =>
      refine ⟨stage, .crashed built (stage.append hWho) ?_ disk⟩
      obtain ⟨other, b, foundOther, hPhase⟩ := State.hasCrash_iff.1 harmed
      refine State.hasCrash_iff.2 ⟨other, b, ?_, hPhase⟩
      rw [hOther ?_, foundOther]
      rintro rfl
      rw [foundOther, Option.some.injEq] at found
      simp [Agent.hasEnded, ← found, hPhase] at hMoves
    | broken isOver torn wrong pending disk => exact absurd isOver hNotOver
    | unfiled isOver torn outcome outputs file wrong disk => exact absurd isOver hNotOver
    | finished isOver torn outcome outputs disk => exact absurd isOver hNotOver

theorem Sound.agent (h : Sound setting trace p)
    (applied : p.apply setting (.agent index) = some next) :
    Sound setting (trace ++ p.occurrences (.agent index) next) next := by
  obtain ⟨plan, hPlan, hApplied⟩ := Option.bind_eq_some_iff.1 applied
  obtain ⟨s, hState, rfl⟩ := Option.map_eq_some_iff.1 hApplied
  have hHooks := h.plan plan hPlan
  simp only [State.apply] at hState
  split at hState
  · cases hState
  · next a found =>
    split at hState
    · cases hState
    · next after world hStep =>
      cases hState
      have hNew : p.occurrences (.agent index)
          { p with state := ⟨p.state.agents.setIfInBounds index after, world⟩ } =
            a.occurrences index after := by
        rw [occurrences_eq (Agent.outward_step hStep)]
        simp only [returning, found]
        rfl
      rw [hNew]
      obtain ⟨hStanding, hHarm⟩ := h.agents index a found
      rw [← hHooks] at hStanding
      obtain ⟨hFits, hAfter⟩ := (Agent.turn_of_step hStep).behaves hStanding
      rw [hHooks] at hFits hAfter
      have hWho := who_of_follows hFits
      obtain ⟨hStage, hPlace⟩ := place_agent h.place hPlan found (not_hasEnded_of_step hStep)
        (s := ⟨p.state.agents.setIfInBounds index after, world⟩) rfl hWho
      refine ⟨h.lawful.append (follows_of_agent hStage hFits), ?_, ?_, h.plan, hPlace⟩
      · intro other b foundOther
        by_cases hne : index = other
        · subst hne
          rw [Array.getElem?_setIfInBounds_self_of_lt (Array.getElem?_eq_some_iff.1 found).1,
            Option.some.injEq] at foundOther
          rw [← foundOther, mine_append, mine_of_forall hWho]
          exact ⟨hAfter, Agent.isHarmed_step hStep hHarm⟩
        · rw [Array.getElem?_setIfInBounds_ne hne] at foundOther
          rw [mine_append_of_ne hWho (by simpa using hne)]
          exact h.agents other b foundOther
      · intro other hNone
        have hne : index ≠ other := by
          rintro rfl
          rw [Array.getElem?_eq_none_iff, Array.size_setIfInBounds,
            ← Array.getElem?_eq_none_iff, found] at hNone
          cases hNone
        rw [Array.getElem?_setIfInBounds_ne hne] at hNone
        rw [mine_append_of_ne hWho (by simpa using hne)]
        exact h.absent other hNone

end AgentBeats

end Performance

end StorefrontLoad.Run
