import StorefrontLoad.Proofs.Run.Course
import StorefrontLoad.Run.Performance

/-!
# An execution is a performance

An execution lets nobody in between the actions of a hook of the scenario and joins its agents after
all of them have come to their ends. So it is one of the performances of the same setting.
-/

namespace StorefrontLoad.Run

open Storefront (Network)

/-! ## How agents end -/

theorem Agent.phase_of_hasEnded {V : Type} {a : Agent V} (h : a.hasEnded = true) :
    (∃ running, a.phase = .ended running) ∨ a.phase = .crashed := by
  unfold Agent.hasEnded at h
  split at h
  · next running hPhase => exact .inl ⟨running, hPhase⟩
  · next hPhase => exact .inr hPhase
  · cases h

theorem State.hasCrash_iff {σ V : Type} {s : State σ V} :
    s.hasCrash = true ↔
      ∃ (index : Nat) (a : Agent V), s.agents[index]? = some a ∧ a.phase = .crashed := by
  rw [State.hasCrash, Array.any_eq_true]
  constructor
  · rintro ⟨index, hLess, h⟩
    refine ⟨index, _, Array.getElem?_eq_getElem hLess, ?_⟩
    split at h
    · assumption
    · cases h
  · rintro ⟨index, a, found, h⟩
    obtain ⟨hLess, rfl⟩ := Array.getElem?_eq_some_iff.1 found
    refine ⟨index, hLess, ?_⟩
    rw [h]

/-! ## The end of a schedule -/

namespace Schedule

variable {R V σ : Type}

theorem eq_none_of_foldl {α β : Type} {step : Nat × Option β → α → Nat × Option β} {p : α → Bool}
    (hStep : ∀ now a, (step now a).2 = none → now.2 = none ∧ p a = false) {list : List α}
    {now : Nat × Option β} (h : (list.foldl step now).2 = none) :
    now.2 = none ∧ ∀ a ∈ list, p a = false := by
  induction list generalizing now with
  | nil => exact ⟨h, fun a hMem ↦ nomatch hMem⟩
  | cons head rest ih =>
    obtain ⟨hHead, hRest⟩ := ih h
    obtain ⟨hNow, hFirst⟩ := hStep now head hHead
    refine ⟨hNow, fun a hMem ↦ ?_⟩
    rcases List.mem_cons.1 hMem with rfl | hMem
    · exact hFirst
    · exact hRest a hMem

/-- There is no next agent only if none can go on. -/
theorem canGoOn_of_idlest? {s : State σ V} (h : idlest? s = none) :
    ∀ a ∈ s.agents.toList, canGoOn s a = false := by
  unfold idlest? at h
  rw [← Array.foldl_toList] at h
  refine (eq_none_of_foldl ?_ h).2
  rintro ⟨index, best⟩ a hStep
  cases best with
  | none => exact ⟨rfl, by simpa using hStep⟩
  | some shortest =>
    simp only at hStep
    split at hStep <;> cases hStep

/-- Once the run has been told to stop, only agents at their end cannot go on. -/
theorem hasEnded_of_idlest? {s : State σ V} (hStop : s.world.stopRequested = true)
    (h : idlest? s = none) : s.hasEnded = true := by
  rw [State.hasEnded, ← Array.all_toList, List.all_eq_true]
  intro a hMem
  have hStuck := canGoOn_of_idlest? h a hMem
  rw [canGoOn, hStop, Bool.true_or, Bool.and_true] at hStuck
  simpa using hStuck

theorem hasEnded_of_next? {config : RunConfig} {clock : Clock} {s : State σ V}
    (hClock : clock.isArmed = false → s.world.stopRequested = true)
    (h : next? config clock s = none) : s.hasEnded = true := by
  unfold next? at h
  split at h
  · split at h <;> cases h
  · next hNobody =>
    split at h
    · cases h
    · next hDeadline =>
      cases hArmed : clock.isArmed with
      | true => simpa [hArmed] using hDeadline
      | false =>
        have hNeither := Option.orElse_eq_or.symm.trans hNobody
        have hIdlest : idlest? s = none := (Option.or_eq_none_iff.1 hNeither).2
        exact hasEnded_of_idlest? (hClock hArmed) hIdlest

/-- The deadline tells the run to stop and does not come again. -/
theorem stopRequested_of_next? {plan : Plan R V} {network : Network σ} {clock after : Clock}
    {s moved : State σ V} {move : Move}
    (hClock : clock.isArmed = false → s.world.stopRequested = true)
    (h : next? plan.config clock s = some (move, after))
    (hMove : s.apply plan network move = some moved) :
    after.isArmed = false → moved.world.stopRequested = true := by
  unfold next? at h
  split at h
  all_goals
    split at h
    all_goals cases h
  · cases hMove
    exact fun _ ↦ rfl
  · exact fun hArmed ↦ State.stopRequested_apply hMove (hClock hArmed)
  · cases hMove
    exact fun _ ↦ rfl

theorem hasEnded_of_play {plan : Plan R V} {network : Network σ} {moves : Nat} {clock : Clock}
    {s after : State σ V} (hClock : clock.isArmed = false → s.world.stopRequested = true)
    (h : play plan network moves clock s = some after) : after.hasEnded = true := by
  induction moves generalizing clock s with
  | zero => cases h
  | succ moves ih =>
    simp only [play] at h
    split at h
    · next hNext =>
      cases h
      exact hasEnded_of_next? hClock hNext
    · next move next hNext =>
      split at h
      · cases h
      · next moved hMove => exact ih (stopRequested_of_next? hClock hNext hMove) h

end Schedule

/-! ## The beats of an execution -/

namespace Performance

variable {σ R V : Type}

/-- What is left of a run that has returned. -/
def account? (p : Performance σ R V) : Option (Account R V) :=
  match p.conductor with
  | .returned conclusion shared =>
    some (Run.conclude conclusion shared (p.state.agents.toList.map Agent.value) p.disk
      p.state.world)
  | _ => none

/-- The summary of a run that has returned one. -/
def summary? (p : Performance σ R V) : Option RunSummary :=
  match p.conductor with
  | .returned (.finished summary) _ => some summary
  | _ => none

/-- The error of a run that has returned one. -/
def trouble? (p : Performance σ R V) : Option Trouble :=
  match p.conductor with
  | .returned (.failed trouble) _ => some trouble
  | _ => none

theorem conductor_of_summary? {p : Performance σ R V} {summary : RunSummary}
    (h : p.summary? = some summary) :
    ∃ shared, p.conductor = .returned (.finished summary) shared := by
  unfold summary? at h
  split at h
  · next shared hConductor =>
    cases h
    exact ⟨shared, hConductor⟩
  · cases h

/-- Some beats lead from one performance to the other. -/
def Leads (setting : Setting σ R V) (p next : Performance σ R V) : Prop :=
  ∃ beats, p.applyAll setting beats = some next

variable {setting : Setting σ R V}

theorem Leads.refl (p : Performance σ R V) : Leads setting p p := ⟨[], rfl⟩

theorem Leads.trans {p now next : Performance σ R V} (h : Leads setting p now)
    (h' : Leads setting now next) : Leads setting p next := by
  obtain ⟨first, hFirst⟩ := h
  obtain ⟨second, hSecond⟩ := h'
  refine ⟨first ++ second, ?_⟩
  rw [applyAll_append, hFirst]
  exact hSecond

theorem Leads.beat {p next : Performance σ R V} (beat : Beat)
    (h : p.apply setting beat = some next) : Leads setting p next := by
  refine ⟨[beat], ?_⟩
  simp only [applyAll, h, Option.bind_some]

variable (setting)

/-- The actions of a hook of the scenario, one after the other. -/
theorem leads_hook (side : Side) (resolved : ResolvedScenario) {rest : Program (R × Ending)}
    {w after : World σ} {result : R × Ending}
    (h : rest.complete setting.network w = some (result, after)) (p : Performance σ R V) :
    Leads setting (p.turnTo (.inHook side resolved rest) w)
      (p.turnTo (.inHook side resolved (.done result)) after) := by
  induction rest generalizing w with
  | done a =>
    cases h
    exact .refl _
  | step action next ih =>
    simp only [Program.complete] at h
    split at h
    · cases h
    · next taken hTaken =>
      refine Leads.trans (.beat .conductor ?_) (ih taken.reply h)
      exact congrArg (Option.map _) hTaken

/-- The moves of the agents, and requests to stop between them. -/
theorem leads_moves {plan : Plan R V} {moves : List Move} {s : State σ V}
    {p : Performance σ R V} (hPlan : p.plan = some plan)
    (h : p.state.applyAll plan setting.network moves = some s) :
    Leads setting p { p with state := s } := by
  induction moves generalizing p with
  | nil =>
    cases h
    exact .refl _
  | cons move moves ih =>
    obtain ⟨next, hNext, hRest⟩ := Option.bind_eq_some_iff.1 h
    have hMoved : Leads setting p { p with state := next } := by
      cases move with
      | agent index =>
        refine .beat (.agent index) ?_
        simp only [apply, hPlan, Option.bind_some, hNext, Option.map_some]
      | stop reason =>
        cases hNext
        exact .beat (.stop reason) rfl
    exact hMoved.trans (ih (p := { p with state := next }) hPlan hRest)

section Joins

variable {resolved : ResolvedScenario} {shared : R} {p : Performance σ R V} {agent : Nat}

/-- The induction is on the number of agents still to be joined. -/
theorem leads_joins (hEnded : p.state.hasEnded = true) (hCrash : p.state.hasCrash = false)
    (hConductor : p.conductor = .joining resolved shared agent) :
    Leads setting p (p.dismiss setting resolved shared) := by
  induction hLeft : p.state.agents.size - agent generalizing p agent with
  | zero =>
    have hNone : p.state.agents[agent]? = none := Array.getElem?_eq_none (by omega)
    refine .beat .conductor ?_
    simp only [apply, conduct, hConductor, join, hNone]
  | succ left ih =>
    have found := Array.getElem?_eq_getElem (show agent < p.state.agents.size by omega)
    have hEnd := State.agent_hasEnded hEnded found
    rcases Agent.phase_of_hasEnded hEnd with ⟨running, hPhase⟩ | hPhase
    · have hBeat : p.apply setting .conductor =
          some (p.turnTo (.joining resolved shared (agent + 1)) p.state.world) := by
        simp only [apply, conduct, hConductor, join, found, hPhase]
      have hRest := ih (p := p.turnTo (.joining resolved shared (agent + 1)) p.state.world)
        hEnded hCrash rfl (by simp only [turnTo]; omega)
      exact (Leads.beat .conductor hBeat).trans hRest
    · rw [State.hasCrash_iff.2 ⟨agent, _, found, hPhase⟩] at hCrash
      cases hCrash

/-- The first crashed agent ends the run. -/
theorem leads_crash (hEnded : p.state.hasEnded = true)
    (hCrash : ∃ (index : Nat) (a : Agent V), agent ≤ index ∧ p.state.agents[index]? = some a ∧
      a.phase = .crashed)
    (hConductor : p.conductor = .joining resolved shared agent) :
    Leads setting p (p.conclude (.failed crash) shared) := by
  obtain ⟨index, a, hLe, found, hPhase⟩ := hCrash
  induction hLeft : index - agent generalizing p agent with
  | zero =>
    obtain rfl : agent = index := by omega
    refine .beat .conductor ?_
    simp only [apply, conduct, hConductor, join, found, hPhase]
  | succ left ih =>
    have hLess := (Array.getElem?_eq_some_iff.1 found).1
    have foundFirst := Array.getElem?_eq_getElem (show agent < p.state.agents.size by omega)
    rcases Agent.phase_of_hasEnded (State.agent_hasEnded hEnded foundFirst) with
      ⟨running, hFirst⟩ | hFirst
    · have hBeat : p.apply setting .conductor =
          some (p.turnTo (.joining resolved shared (agent + 1)) p.state.world) := by
        simp only [apply, conduct, hConductor, join, foundFirst, hFirst]
      exact (Leads.beat .conductor hBeat).trans (ih hEnded rfl (by omega) found (by omega))
    · refine .beat .conductor ?_
      simp only [apply, conduct, hConductor, join, foundFirst, hFirst]

end Joins

/-- The teardown hook, from the last join on. -/
theorem leads_teardown {resolved : ResolvedScenario} {shared left : R} {ending : Ending}
    {after : World σ} {p : Performance σ R V}
    (h : callHook setting.network resolved.config .teardown setting.hooks.teardown shared
      p.state.world.requestStop = some ((left, ending), after)) :
    Leads setting (p.dismiss setting resolved shared)
      ((p.turnTo (.inHook .after resolved (.done (left, ending))) after).afterHook setting .after
        resolved left ending) := by
  unfold dismiss
  cases hHook : setting.hooks.teardown with
  | none =>
    rw [hHook] at h
    cases h
    exact .refl _
  | some hook =>
    rw [hHook] at h
    have hActions := leads_hook setting .after resolved h p
    exact hActions.trans (.beat .conductor rfl)

/-- The report and the summary. -/
theorem leads_store (resolved : ResolvedScenario) (shared : R) (p : Performance σ R V)
    (hConductor : p.conductor = .reporting resolved shared) :
    Leads setting p ((p.report setting resolved shared).store resolved shared
      (summarise setting.occasion resolved p.state p.state.world.counters.snapshot)) := by
  have hReport : p.apply setting .conductor = some (p.report setting resolved shared) := by
    simp only [apply, conduct, hConductor]
  exact (Leads.beat .conductor hReport).trans (.beat .conductor rfl)

/-- What comes after the agents. -/
theorem leads_finish {resolved : ResolvedScenario} {shared : R} {p : Performance σ R V}
    {account : Account R V} (hEnded : p.state.hasEnded = true)
    (hDisk : p.disk = setting.occasion.disk)
    (hConductor : p.conductor = .joining resolved shared 0)
    (h : finish setting.network setting.occasion setting.hooks resolved shared p.state =
      some account) :
    ∃ last, Leads setting p last ∧ last.account? = some account := by
  unfold finish at h
  simp only at h
  split at h
  · next hCrash =>
    obtain ⟨index, a, found, hPhase⟩ := State.hasCrash_iff.1 hCrash
    refine ⟨_, leads_crash setting hEnded ⟨index, a, Nat.zero_le _, found, hPhase⟩ hConductor, ?_⟩
    rw [← h, ← hDisk]
    rfl
  · next hCrash =>
    have hJoined := leads_joins setting hEnded (by simpa using hCrash) hConductor
    obtain ⟨⟨⟨left, ending⟩, after⟩, hCalled, hAccount⟩ := Option.map_eq_some_iff.1 h
    have hTorn := hJoined.trans (leads_teardown setting hCalled)
    cases ending with
    | panicked message =>
      refine ⟨_, hTorn, ?_⟩
      rw [← hAccount, ← hDisk]
      rfl
    | ok | failed =>
      refine ⟨_, hTorn.trans (leads_store setting resolved left _ rfl), ?_⟩
      rw [← hAccount, ← hDisk]
      rfl

/-- What comes after the setup hook, or after the build if there is none. -/
theorem leads_play {resolved : ResolvedScenario} {shared : R} {p : Performance σ R V}
    {account : Account R V} (hDisk : p.disk = setting.occasion.disk)
    (h : (Schedule.play ⟨resolved.config, shared, setting.hooks.agent⟩ setting.network
      setting.occasion.mostMoves Schedule.start
      (.initial resolved.config setting.hooks.own p.state.world)).bind
        (finish setting.network setting.occasion setting.hooks resolved shared) = some account) :
    ∃ last, Leads setting (p.start setting resolved shared) last ∧
      last.account? = some account := by
  obtain ⟨s, hPlay, hFinish⟩ := Option.bind_eq_some_iff.1 h
  obtain ⟨moves, hMoves⟩ := Schedule.exists_moves_of_play hPlay
  have hEnded : s.hasEnded = true := Schedule.hasEnded_of_play (by simp [Schedule.start]) hPlay
  have hPlayed := leads_moves setting (p := p.start setting resolved shared) rfl hMoves
  obtain ⟨last, hLast, hAccount⟩ := leads_finish setting
    (p := { p.start setting resolved shared with state := s }) hEnded hDisk rfl hFinish
  exact ⟨last, hPlayed.trans hLast, hAccount⟩

/-- The setup hook, from the beginning on. -/
theorem leads_setup {resolved : ResolvedScenario} {left : R} {ending : Ending} {after : World σ}
    (hResolved : setting.definition.build = .ok resolved)
    (h : callHook setting.network resolved.config .setup setting.hooks.setup setting.hooks.shared
      ((World.fresh setting.state).logAll (opening setting.hooks resolved)) =
        some ((left, ending), after)) :
    Leads setting (initial setting)
      (((initial setting).turnTo (.inHook .before resolved (.done (left, ending))) after).afterHook
        setting .before resolved left ending) := by
  have hBuild : (initial setting).apply setting .conductor =
    some ((initial setting).build setting) := rfl
  refine Leads.trans (.beat .conductor hBuild) ?_
  simp only [build, hResolved]
  cases hHook : setting.hooks.setup with
  | none =>
    rw [hHook] at h
    cases h
    exact .refl _
  | some hook =>
    rw [hHook] at h
    have hActions := leads_hook setting .before resolved h (initial setting)
    exact hActions.trans (.beat .conductor rfl)

/-- Every execution is a performance. -/
theorem leads_execute {account : Account R V}
    (h : execute setting.network setting.state setting.occasion setting.hooks setting.definition =
      some account) :
    ∃ last, Leads setting (initial setting) last ∧ last.account? = some account := by
  unfold execute at h
  split at h
  · next e hError =>
    have hBuild : (initial setting).apply setting .conductor =
      some ((initial setting).build setting) := rfl
    refine ⟨_, .beat .conductor hBuild, ?_⟩
    rw [← h, build, hError]
    rfl
  · next resolved hResolved =>
    unfold perform at h
    simp only at h
    split at h
    · cases h
    · next shared trouble w hCalled =>
      refine ⟨_, leads_setup setting hResolved hCalled, ?_⟩
      rw [← h]
      rfl
    · next shared message w hCalled =>
      refine ⟨_, leads_setup setting hResolved hCalled, ?_⟩
      rw [← h]
      rfl
    · next shared w hCalled =>
      obtain ⟨last, hLast, hAccount⟩ := leads_play setting
        (p := (initial setting).turnTo (.inHook .before resolved (.done (shared, .ok))) w) rfl h
      exact ⟨last, (leads_setup setting hResolved hCalled).trans hLast, hAccount⟩

end Performance

end StorefrontLoad.Run
