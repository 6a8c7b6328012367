import StorefrontLoad.Proofs.Run.Law

/-!
# The life cycle of a run

Each beat of the conductor goes from one place in the run to the next, and what occurs in it fits
what was before: entering a hook, acting in it, returning from it, joining an agent, reporting and
storing have a lemma each. With the beats of the agents that makes every performance a lawful one,
and from the law and the fates of a run follows the order of everything that it calls and hands out.
-/

namespace StorefrontLoad.Run

open Storefront (Network)

namespace Performance

variable {R V σ : Type} {setting : Setting σ R V} {trace new : List Occurrence}
  {p next : Performance σ R V}

/-! ## Beats of the conductor -/

/-- A beat of the conductor leaves the agents where they are. -/
theorem Sound.go_on (h : Sound setting trace p)
    (hWho : ∀ occurrence ∈ new, occurrence.who = none)
    (hFits : Follows (Fits setting.hooks) trace new)
    (hAgents : next.state.agents = p.state.agents) (hPlan : next.plan = p.plan)
    (hPlace : next.Place setting (trace ++ new)) : Sound setting (trace ++ new) next where
  lawful := h.lawful.append hFits
  agents index a found := by
    rw [hAgents] at found
    rw [mine_append_of_ne hWho (by simp)]
    exact h.agents index a found
  absent index hNone := by
    rw [hAgents] at hNone
    rw [mine_append_of_ne hWho (by simp)]
    exact h.absent index hNone
  plan := hPlan ▸ h.plan
  place := hPlace

/-- A beat in which nothing occurs. -/
theorem Sound.stay (h : Sound setting trace p) (hReturning : p.returning .conductor = [])
    (hQuiet : next.state.world.outward = p.state.world.outward)
    (hAgents : next.state.agents = p.state.agents) (hPlan : next.plan = p.plan)
    (hPlace : next.Place setting trace) :
    Sound setting (trace ++ p.occurrences .conductor next) next := by
  rw [occurrences_of_quiet hQuiet, hReturning]
  refine h.go_on (by simp) .nil hAgents hPlan ?_
  rwa [List.append_nil]

/-- The agents come in with an empty past. -/
theorem Sound.let_in (h : Sound setting trace p) (hNobody : p.state.agents = #[])
    (hWho : ∀ occurrence ∈ new, occurrence.who = none)
    (hFits : Follows (Fits setting.hooks) trace new) {resolved : ResolvedScenario} (shared : R)
    (hBuilt : setting.definition.build = .ok resolved)
    (hDisk : next.disk = setting.occasion.disk) (hStage : OnStage setting.hooks (trace ++ new))
    (hFree : within (mine none (trace ++ new)) = none) :
    Sound setting (trace ++ new) (next.start setting resolved shared) := by
  have hPast (index : Nat) : mine (some index) (trace ++ new) = [] := by
    rw [mine_append_of_ne hWho (by simp)]
    exact h.absent index (by simp [hNobody])
  refine ⟨h.lawful.append hFits, ?_, fun index _ ↦ hPast index, ?_, ?_⟩
  · intro index a found
    have hArriving : a.phase = .arriving := by
      simp only [start, State.initial, Array.getElem?_replicate] at found
      split at found
      · rw [← Option.some.inj found]
        rfl
      · cases found
    simp [Agent.Standing, hArriving, hPast, IsHarmed]
  · rintro plan ⟨⟩
    rfl
  · refine ⟨hDisk, hBuilt, hStage, hFree, ?_⟩
    intro index hLess
    cases hLess

theorem Sound.build (h : Sound setting trace p) (hConductor : p.conductor = .building) :
    Sound setting (trace ++ p.occurrences .conductor (p.build setting)) (p.build setting) := by
  have hReturning : p.returning .conductor = [] := by simp only [returning, hConductor]
  have hPlace := h.place
  simp only [Place, hConductor] at hPlace
  obtain ⟨hEmpty, hDisk, rfl⟩ := hPlace
  have hOpening : IsOpening [] := ⟨by simp, rfl⟩
  unfold Performance.build
  split
  · next e hWrong =>
    exact h.stay hReturning rfl rfl rfl (.unbuilt hWrong rfl hEmpty.plan hDisk)
  · next resolved hBuilt =>
    have hLines := World.outward_logAll (opening setting.hooks resolved) p.state.world
    cases hSetup : setting.hooks.setup with
    | none =>
      have hStage : OnStage setting.hooks [] :=
        hOpening.onStage (wentWell_of_isNone (by rw [hSetup]; rfl) (by simp))
      rw [occurrences_of_quiet hLines, hReturning]
      exact h.let_in hEmpty.agents (by simp) .nil _ hBuilt hDisk hStage rfl
    | some hook =>
      have hCalled := World.outward_called .setup
        (p.state.world.logAll (opening setting.hooks resolved))
      rw [hLines] at hCalled
      rw [occurrences_eq hCalled, hReturning]
      refine h.go_on ?_ (.cons (.setup rfl) .nil) rfl rfl
        ⟨⟨hEmpty.plan, hEmpty.agents⟩, hDisk, hBuilt, ⟨?_, rfl⟩, rfl, ?_⟩
      · simp [Occurrence.who, Hook.agent?]
      · simp
      · simp

/-- A hook of the scenario takes an action. -/
theorem Sound.act (h : Sound setting trace p) {side : Side} {resolved : ResolvedScenario}
    {action : Action} {program : action.Reply → Program (R × Ending)}
    (hConductor : p.conductor = .inHook side resolved (.step action program))
    {taken : Step σ action.Reply}
    (hTaken : p.state.world.perform setting.network none action = some taken) :
    Sound setting
      (trace ++ p.occurrences .conductor
        (p.turnTo (.inHook side resolved (program taken.reply)) taken.world))
      (p.turnTo (.inHook side resolved (program taken.reply)) taken.world) := by
  have hReturning : p.returning .conductor = [] := by simp only [returning, hConductor]
  have hOutward : (p.turnTo (.inHook side resolved (program taken.reply))
      taken.world).state.world.outward = _ := World.outward_perform hTaken
  rw [occurrences_eq hOutward, hReturning, List.nil_append]
  have hCalm := areCalm_requests action
  have hNothing := outputs_requests action none
  have hPlace := h.place
  simp only [Place, hConductor] at hPlace
  cases side with
  | before =>
    obtain ⟨hEmpty, hDisk, hBuilt, hOpening, hWithin, hFirst⟩ := hPlace
    have hFits : Follows (Fits setting.hooks) trace _ :=
      follows_requests action (by simp [hWithin]) hOpening.pending
    refine h.go_on hCalm.who hFits rfl rfl ⟨⟨hEmpty.plan, hEmpty.agents⟩, hDisk, hBuilt,
      hOpening.append hCalm.called hNothing, ?_, ?_⟩
    · rwa [hCalm.within]
    · intro hook ending hMem
      rcases List.mem_append.1 hMem with hPast | hNow
      · exact hFirst hook ending hPast
      · exact hCalm.returned hook ending hNow
  | after =>
    obtain ⟨hDisk, hOver, hPending, hWithin, hThere, hOnce⟩ := hPlace
    have hStopped := (World.performs_of_perform hTaken).stopRequested hOver.stopped
    have hFits : Follows (Fits setting.hooks) trace _ :=
      follows_requests action (by simp [hWithin]) hPending
    refine h.go_on hCalm.who hFits rfl rfl
      ⟨hDisk, (hOver.append (hCalm.returned .setup)).congr rfl hStopped, ?_, ?_, hThere, ?_⟩
    · rw [outputs_append, hPending, hNothing, List.append_nil]
    · rwa [hCalm.within]
    · rw [List.countP_append, hOnce, hCalm.calls]

section Returns

variable {resolved : ResolvedScenario} {shared : R} {ending : Ending}

theorem occurrences_afterHook {side : Side}
    (hConductor : p.conductor = .inHook side resolved (.done (shared, ending))) :
    p.occurrences .conductor (p.afterHook setting side resolved shared ending) =
      [.returned side.hook ending] := by
  rw [occurrences_of_quiet (outward_afterHook side resolved shared ending)]
  simp only [returning, hConductor]

theorem who_returned (side : Side) (ending : Ending) :
    ∀ occurrence ∈ [Occurrence.returned side.hook ending], occurrence.who = none := by
  cases side <;> simp [Occurrence.who, Side.hook, Hook.agent?]

theorem within_returned (side : Side) (trace : List Occurrence) (ending : Ending) :
    within (mine none (trace ++ [.returned side.hook ending])) = none := by
  rw [mine_append, mine_of_forall (who_returned side ending), within_append_returned]

theorem Sound.afterSetup (h : Sound setting trace p)
    (hConductor : p.conductor = .inHook .before resolved (.done (shared, ending))) :
    Sound setting
      (trace ++ p.occurrences .conductor (p.afterHook setting .before resolved shared ending))
      (p.afterHook setting .before resolved shared ending) := by
  rw [occurrences_afterHook hConductor]
  have hPlace := h.place
  simp only [Place, hConductor] at hPlace
  obtain ⟨hEmpty, hDisk, hBuilt, hOpening, hWithin, hFirst⟩ := hPlace
  have hWho := who_returned .before ending
  have hFits : Follows (Fits setting.hooks) trace [.returned .setup ending] :=
    .cons (.returned rfl hWithin hOpening.pending) .nil
  have hReturned : IsOpening (trace ++ [.returned .setup ending]) :=
    hOpening.append (by simp) rfl
  have hMem := List.mem_append_right trace
    (List.mem_singleton_self (Occurrence.returned .setup ending))
  have hOnly : ∀ other, .returned .setup other ∈ trace ++ [.returned .setup ending] →
      other = ending := by
    intro other hOther
    rcases List.mem_append.1 hOther with hPast | hNow
    · exact absurd hPast (hFirst .setup other)
    · simpa using hNow
  cases ending with
  | ok =>
    have hStage : OnStage setting.hooks (trace ++ [.returned .setup .ok]) :=
      hReturned.onStage (wentWell_of_returned (hFirst .setup))
    exact h.let_in hEmpty.agents hWho hFits shared hBuilt hDisk hStage
      (within_returned .before trace .ok)
  | failed trouble =>
    exact h.go_on hWho hFits rfl rfl (.refused hBuilt hReturned hMem hOnly rfl hEmpty.plan hDisk)
  | panicked message =>
    exact h.go_on hWho hFits rfl rfl (.refused hBuilt hReturned hMem hOnly rfl hEmpty.plan hDisk)

theorem Sound.afterTeardown (h : Sound setting trace p)
    (hConductor : p.conductor = .inHook .after resolved (.done (shared, ending))) :
    Sound setting
      (trace ++ p.occurrences .conductor (p.afterHook setting .after resolved shared ending))
      (p.afterHook setting .after resolved shared ending) := by
  rw [occurrences_afterHook hConductor]
  have hPlace := h.place
  simp only [Place, hConductor] at hPlace
  obtain ⟨hDisk, hOver, hPending, hWithin, hThere, hOnce⟩ := hPlace
  have hWho := who_returned .after ending
  have hFits : Follows (Fits setting.hooks) trace [.returned .teardown ending] :=
    .cons (.returned rfl hWithin hPending) .nil
  have hMem := List.mem_append_right trace
    (List.mem_singleton_self (Occurrence.returned .teardown ending))
  have hTorn : IsTorn setting.hooks (trace ++ [.returned .teardown ending]) := by
    refine ⟨within_returned .after trace ending, ?_, fun _ ↦ ⟨ending, hMem⟩⟩
    rw [List.countP_append, hOnce, if_pos hThere]
    rfl
  have hStill : outputs (trace ++ [.returned .teardown ending]) = [] := by
    rw [outputs_append, hPending]
    rfl
  have hEnd {q : Performance σ R V} (hAgents : q.state.agents = p.state.agents)
      (hStopped : q.state.world.stopRequested = true) :
      Over setting resolved (trace ++ [.returned .teardown ending]) q :=
    (hOver.append (by simp)).congr hAgents hStopped
  have hLines := World.murmurs_logAll (teardownLines ending) p.state.world
  cases ending with
  | panicked message =>
    exact h.go_on hWho hFits rfl rfl
      (.broken (hEnd rfl hOver.stopped) hTorn hMem hStill hDisk)
  | ok => exact h.go_on hWho hFits rfl rfl ⟨hDisk, hEnd rfl hOver.stopped, hTorn, hStill⟩
  | failed trouble =>
    have hStopped := hLines.stopRequested.trans hOver.stopped
    exact h.go_on hWho hFits rfl rfl ⟨hDisk, hEnd rfl hStopped, hTorn, hStill⟩

end Returns

theorem hasLeft_of_hasEnded {hooks : AgentHooks R V} {index : Nat} {past : List Occurrence}
    {a : Agent V} (h : a.Standing hooks index past) (hEnded : a.hasEnded = true) :
    HasLeft hooks index past := by
  unfold Agent.Standing at h
  rcases Agent.phase_of_hasEnded hEnded with ⟨running, hPhase⟩ | hPhase
  · rwa [hPhase] at h
  · rwa [hPhase] at h

/-- Once the agents are at their ends and the run has left its own hooks, nobody is in one. -/
theorem Sound.free (h : Sound setting trace p) (hEnded : p.state.hasEnded = true)
    (hFree : within (mine none trace) = none) (who : Option Nat) :
    within (mine who trace) = none := by
  cases who with
  | none => exact hFree
  | some index =>
    cases found : p.state.agents[index]? with
    | none =>
      rw [h.absent index found]
      rfl
    | some a =>
      have hEnd := State.agent_hasEnded hEnded found
      exact (hasLeft_of_hasEnded (h.agents index a found).1 hEnd).free

section Joins

variable {resolved : ResolvedScenario} {shared : R} {agent : Nat}

/-- Whoever has been joined has come to its end without a crash. -/
theorem Sound.over_of_joined (h : Sound setting trace p)
    (hConductor : p.conductor = .joining resolved shared agent)
    (hNone : p.state.agents[agent]? = none) :
    Over setting resolved trace (p.turnTo p.conductor p.state.world.requestStop) := by
  have hPlace := h.place
  simp only [Place, hConductor] at hPlace
  obtain ⟨_, hBuilt, hStage, _, hJoined⟩ := hPlace
  have hPhase : ∀ (index : Nat) (a : Agent V), p.state.agents[index]? = some a →
      ∃ running, a.phase = .ended running := by
    intro index a found
    have hSize := Array.getElem?_eq_none_iff.1 hNone
    have hLess := (Array.getElem?_eq_some_iff.1 found).1
    exact hJoined index (by omega) a found
  refine ⟨hBuilt, hStage.opened, ?_, ?_, rfl⟩
  · rw [State.hasEnded, Array.all_eq_true]
    intro index hLess
    obtain ⟨running, hEnd⟩ := hPhase index _ (Array.getElem?_eq_getElem hLess)
    simp only [Agent.hasEnded, hEnd]
  · rw [Bool.eq_false_iff]
    intro hCrash
    obtain ⟨index, a, found, hCrashed⟩ := State.hasCrash_iff.1 hCrash
    obtain ⟨running, hEnd⟩ := hPhase index a found
    rw [hEnd] at hCrashed
    cases hCrashed

/-- The conductor has joined everybody. -/
theorem Sound.dismiss (h : Sound setting trace p)
    (hConductor : p.conductor = .joining resolved shared agent)
    (hNone : p.state.agents[agent]? = none) :
    Sound setting (trace ++ p.occurrences .conductor (p.dismiss setting resolved shared))
      (p.dismiss setting resolved shared) := by
  have hReturning : p.returning .conductor = [] := by simp only [returning, hConductor]
  have hOver := h.over_of_joined hConductor hNone
  have hPlace := h.place
  simp only [Place, hConductor] at hPlace
  obtain ⟨hDisk, _, hStage, hFree, _⟩ := hPlace
  cases hHook : setting.hooks.teardown with
  | none =>
    have hDismiss : p.dismiss setting resolved shared =
        p.turnTo (.reporting resolved shared) p.state.world.requestStop := by
      simp only [Performance.dismiss, hHook]
    have hTorn : IsTorn setting.hooks trace := by
      refine ⟨hFree, ?_, fun hThere ↦ ?_⟩
      · rw [hStage.early, hHook]
        rfl
      · rw [hHook] at hThere
        cases hThere
    rw [hDismiss]
    exact h.stay hReturning rfl rfl rfl
      ⟨hDisk, hOver.congr rfl rfl, hTorn, hStage.pending⟩
  | some hook =>
    have hDismiss : p.dismiss setting resolved shared =
        (p.turnTo (.reporting resolved shared) p.state.world.requestStop).enter .after resolved
          (hook resolved.config shared) := by
      simp only [Performance.dismiss, hHook]
    have hNew : p.occurrences .conductor (p.dismiss setting resolved shared) =
        [.called .teardown] := by
      rw [hDismiss, occurrences_eq (World.outward_called .teardown p.state.world.requestStop),
        hReturning]
      rfl
    have hFits : Follows (Fits setting.hooks) trace [.called .teardown] :=
      .cons (.teardown hStage (h.free hOver.ended hFree)) .nil
    have hWho : ∀ occurrence ∈ [Occurrence.called .teardown], occurrence.who = none := by
      simp [Occurrence.who, Hook.agent?]
    rw [hNew, hDismiss]
    refine h.go_on hWho hFits rfl rfl
      ⟨hDisk, (hOver.append (by simp)).congr rfl rfl, ?_, ?_, ?_, ?_⟩
    · rw [outputs_append, hStage.pending]
      rfl
    · rw [mine_append, mine_of_forall hWho, within_append_called]
    · rw [hHook]
      rfl
    · rw [List.countP_append, hStage.early]
      rfl

/-- The conductor joins an agent. -/
theorem Sound.join (h : Sound setting trace p)
    (hConductor : p.conductor = .joining resolved shared agent)
    (hNext : p.join setting resolved shared agent = some next) :
    Sound setting (trace ++ p.occurrences .conductor next) next := by
  have hReturning : p.returning .conductor = [] := by simp only [returning, hConductor]
  have hPlace := h.place
  simp only [Place, hConductor] at hPlace
  obtain ⟨hDisk, hBuilt, hStage, hFree, hJoined⟩ := hPlace
  unfold Performance.join at hNext
  split at hNext
  · next hNone =>
    cases hNext
    exact h.dismiss hConductor hNone
  · next a found =>
    split at hNext
    · next running hPhase =>
      cases hNext
      refine h.stay hReturning rfl rfl rfl
        ⟨hDisk, hBuilt, hStage, hFree, fun index hLess b foundOther ↦ ?_⟩
      rcases Nat.lt_succ_iff_lt_or_eq.1 hLess with hBefore | rfl
      · exact hJoined index hBefore b foundOther
      · have hSame : a = b := Option.some.inj (found.symm.trans foundOther)
        exact ⟨running, hSame ▸ hPhase⟩
    · next hPhase =>
      cases hNext
      have hCrash := State.hasCrash_iff.2 ⟨agent, a, found, hPhase⟩
      exact h.stay hReturning rfl rfl rfl (.crashed hBuilt hStage hCrash hDisk)
    · cases hNext

end Joins

section Outputs

variable {resolved : ResolvedScenario} {shared : R}

theorem Sound.isDown (h : Sound setting trace p) (hOver : Over setting resolved trace p)
    (hTorn : IsTorn setting.hooks trace) : IsDown setting.hooks trace :=
  ⟨hOver.opened, h.free hOver.ended hTorn.free, hTorn.returned⟩

/-- The conductor hands the outcome to the reporter. -/
theorem Sound.report (h : Sound setting trace p)
    (hConductor : p.conductor = .reporting resolved shared) :
    Sound setting (trace ++ p.occurrences .conductor (p.report setting resolved shared))
      (p.report setting resolved shared) := by
  have hReturning : p.returning .conductor = [] := by simp only [returning, hConductor]
  have hPlace := h.place
  simp only [Place, hConductor] at hPlace
  obtain ⟨hDisk, hOver, hTorn, hPending⟩ := hPlace
  have hOutward : (p.report setting resolved shared).state.world.outward =
      p.state.world.outward ++ reported resolved p.state.world.counters.snapshot :=
    (World.outward_log _ _).trans (outward_report resolved _ _)
  obtain ⟨hCounters, hStop⟩ := frame_report resolved.reporter p.state.world.counters.snapshot
    p.state.world
  have hCalm := areCalm_reported resolved p.state.world.counters.snapshot
  have hFits : Follows (Fits setting.hooks) trace
      ((reported resolved p.state.world.counters.snapshot).map .event) := by
    have hDown := h.isDown hOver hTorn
    unfold reported
    cases resolved.reporter with
    | inMemory => exact .cons (.printed hDown hPending) .nil
    | noop => exact .nil
  rw [occurrences_eq hOutward, hReturning, List.nil_append]
  refine h.go_on hCalm.who hFits rfl rfl
    ⟨hDisk, (hOver.append (hCalm.returned .setup)).congr rfl (hStop.trans hOver.stopped),
      hTorn.append hCalm, congrArg Counters.snapshot hCounters.symm, ?_⟩
  rw [outputs_append, hPending, outputs_reported]
  rfl

/-- The conductor adds the summary to its file. -/
theorem Sound.store (h : Sound setting trace p) {summary : RunSummary}
    (hConductor : p.conductor = .storing resolved shared summary) :
    Sound setting (trace ++ p.occurrences .conductor (p.store resolved shared summary))
      (p.store resolved shared summary) := by
  have hReturning : p.returning .conductor = [] := by simp only [returning, hConductor]
  have hPlace := h.place
  simp only [Place, hConductor] at hPlace
  obtain ⟨hDisk, hOver, hTorn, hOutcome, hOutputs⟩ := hPlace
  have hStored := stored_store resolved summary p.disk p.state.world
  unfold Performance.store
  generalize Run.store summary resolved.summaryFile p.disk p.state.world = stored at hStored ⊢
  cases hStored with
  | @filed disk world done outward counters stop =>
    have hOutward : ({ p.turnTo (.returned (.finished summary) shared) world with
        disk := disk } : Performance σ R V).state.world.outward = _ := outward
    have hCalm := areCalm_filed resolved summary
    have hFirst : ∀ path summary, .stored path summary ∉ outputs trace := by
      intro path summary
      rw [hOutputs, reported]
      cases resolved.reporter <;> simp
    have hFits := follows_filed resolved summary (h.isDown hOver hTorn) hFirst
    rw [occurrences_eq hOutward, hReturning, List.nil_append]
    refine h.go_on hCalm.who hFits rfl rfl
      (.finished ((hOver.append (hCalm.returned .setup)).congr rfl (stop.trans hOver.stopped))
        (hTorn.append hCalm) ?_ ?_ (hDisk ▸ done))
    · exact hOutcome.trans (congrArg Counters.snapshot counters.symm)
    · rw [outputs_append, hOutputs, outputs_filed]
  | @unfiled path fault file wrong =>
    rw [hDisk] at wrong
    exact h.stay hReturning rfl rfl rfl
      (.unfiled (hOver.congr rfl hOver.stopped) hTorn hOutcome hOutputs file wrong hDisk)

end Outputs

theorem Sound.conduct (h : Sound setting trace p) (hNext : p.conduct setting = some next) :
    Sound setting (trace ++ p.occurrences .conductor next) next := by
  unfold Performance.conduct at hNext
  split at hNext
  · next hConductor =>
    cases hNext
    exact h.build hConductor
  · next hConductor =>
    obtain ⟨taken, hTaken, hEq⟩ := Option.map_eq_some_iff.1 hNext
    rw [← hEq]
    exact h.act hConductor hTaken
  · next hConductor =>
    cases hNext
    rename Side => side
    cases side with
    | before => exact h.afterSetup hConductor
    | after => exact h.afterTeardown hConductor
  · next hConductor => exact h.join hConductor hNext
  · next hConductor =>
    cases hNext
    exact h.report hConductor
  · next hConductor =>
    cases hNext
    exact h.store hConductor
  · cases hNext

/-- A request to stop changes nothing that the trace tells. -/
theorem Sound.stop (h : Sound setting trace p) (reason : LogLine) :
    Sound setting trace (p.turnTo p.conductor (p.state.world.log reason).requestStop) := by
  refine ⟨h.lawful, h.agents, h.absent, h.plan, ?_⟩
  have hPlace := h.place
  unfold Place at hPlace ⊢
  split at hPlace
  · next hConductor =>
    obtain ⟨hEmpty, hRest⟩ := hPlace
    simp only [turnTo, hConductor]
    exact ⟨⟨hEmpty.plan, hEmpty.agents⟩, hRest⟩
  · next hConductor =>
    obtain ⟨hEmpty, hRest⟩ := hPlace
    simp only [turnTo, hConductor]
    exact ⟨⟨hEmpty.plan, hEmpty.agents⟩, hRest⟩
  · next hConductor =>
    simp only [turnTo, hConductor]
    exact hPlace
  · next hConductor =>
    obtain ⟨hDisk, hOver, hRest⟩ := hPlace
    simp only [turnTo, hConductor]
    exact ⟨hDisk, hOver.congr rfl rfl, hRest⟩
  · next hConductor =>
    obtain ⟨hDisk, hOver, hRest⟩ := hPlace
    simp only [turnTo, hConductor]
    exact ⟨hDisk, hOver.congr rfl rfl, hRest⟩
  · next hConductor =>
    obtain ⟨hDisk, hOver, hRest⟩ := hPlace
    simp only [turnTo, hConductor]
    exact ⟨hDisk, hOver.congr rfl rfl, hRest⟩
  · next hConductor =>
    simp only [turnTo, hConductor]
    cases hPlace with
    | unbuilt wrong nothing plan disk => exact .unbuilt wrong nothing plan disk
    | refused built opening returned only wrong plan disk =>
      exact .refused built opening returned only wrong plan disk
    | crashed built stage harmed disk => exact .crashed built stage harmed disk
    | broken isOver torn wrong pending disk =>
      exact .broken (isOver.congr rfl rfl) torn wrong pending disk
    | unfiled isOver torn outcome outputs file wrong disk =>
      exact .unfiled (isOver.congr rfl rfl) torn outcome outputs file wrong disk
    | finished isOver torn outcome outputs disk =>
      exact .finished (isOver.congr rfl rfl) torn outcome outputs disk

theorem Sound.beat (h : Sound setting trace p) {beat : Beat}
    (hNext : p.apply setting beat = some next) :
    Sound setting (trace ++ p.occurrences beat next) next := by
  cases beat with
  | conductor => exact h.conduct hNext
  | agent index => exact h.agent hNext
  | stop reason =>
    cases hNext
    rw [occurrences_of_quiet (World.outward_log reason p.state.world), returning, List.append_nil]
    exact h.stop reason

theorem Comes.sound (h : Comes setting trace p) : Sound setting trace p := by
  induction h with
  | initial => exact sound_initial
  | beat before applied ih => exact ih.beat applied

/-! ## What a trace tells -/

theorem Sound.of_error (h : Sound setting trace p) {e : ScenarioDefinition.BuildError}
    (hError : setting.definition.build = .error e) :
    trace = [] ∧ p.disk = setting.occasion.disk ∧
      (p.conductor = .building ∨ ∃ shared, p.conductor = .returned (.failed e.trouble) shared) := by
  have hPlace := h.place
  have hUnbuilt {resolved : ResolvedScenario} : setting.definition.build ≠ .ok resolved := by
    rw [hError]
    exact fun hEq ↦ nomatch hEq
  unfold Place at hPlace
  split at hPlace
  · next hConductor => exact ⟨hPlace.2.2, hPlace.2.1, .inl hConductor⟩
  · exact absurd hPlace.2.2.1 hUnbuilt
  · exact absurd hPlace.2.1 hUnbuilt
  · exact absurd hPlace.2.1.built hUnbuilt
  · exact absurd hPlace.2.1.built hUnbuilt
  · exact absurd hPlace.2.1.built hUnbuilt
  · next hConductor =>
    cases hPlace with
    | unbuilt wrong nothing plan disk =>
      rw [hError] at wrong
      cases wrong
      exact ⟨nothing, disk, .inr ⟨_, hConductor⟩⟩
    | refused built opening returned only wrong plan disk => exact absurd built hUnbuilt
    | crashed built stage harmed disk => exact absurd built hUnbuilt
    | broken isOver torn wrong pending disk => exact absurd isOver.built hUnbuilt
    | unfiled isOver torn outcome outputs file wrong disk => exact absurd isOver.built hUnbuilt
    | finished isOver torn outcome outputs disk => exact absurd isOver.built hUnbuilt

/-- A setup that goes wrong is the end of the run. -/
theorem Sound.of_refusal (h : Sound setting trace p) {ending : Ending} {conclusion : Conclusion}
    (hReturned : .returned .setup ending ∈ trace) (hWrong : ending.conclusion? = some conclusion) :
    (∃ shared, p.conductor = .returned conclusion shared) ∧ IsOpening trace ∧
      p.disk = setting.occasion.disk := by
  have hPlace := h.place
  have hBad : ∀ isThere, ¬ WentWell isThere .setup trace := by
    intro isThere
    refine not_wentWell hReturned ?_
    rintro rfl
    cases hWrong
  unfold Place at hPlace
  split at hPlace
  · rw [hPlace.2.2] at hReturned
    cases hReturned
  · exact absurd hReturned (hPlace.2.2.2.2.2 _ _)
  · exact absurd hPlace.2.2.1.opened (hBad _)
  · exact absurd hPlace.2.1.opened (hBad _)
  · exact absurd hPlace.2.1.opened (hBad _)
  · exact absurd hPlace.2.1.opened (hBad _)
  · next hConductor =>
    cases hPlace with
    | unbuilt wrong nothing plan disk =>
      rw [nothing] at hReturned
      cases hReturned
    | refused built opening returned only wrong plan disk =>
      rw [← only ending hReturned, hWrong] at wrong
      cases wrong
      exact ⟨⟨_, hConductor⟩, opening, disk⟩
    | crashed built stage harmed disk => exact absurd stage.opened (hBad _)
    | broken isOver torn wrong pending disk => exact absurd isOver.opened (hBad _)
    | unfiled isOver torn outcome outputs file wrong disk => exact absurd isOver.opened (hBad _)
    | finished isOver torn outcome outputs disk => exact absurd isOver.opened (hBad _)

/-- Nothing fits after the summary has been stored. -/
theorem not_fits_of_stored {hooks : Hooks R V} {past : List Occurrence} {occurrence : Occurrence}
    {path : String} {summary : RunSummary} (hStored : .stored path summary ∈ outputs past) :
    ¬ Fits hooks past occurrence := by
  have hPending : outputs past ≠ [] := List.ne_nil_of_mem hStored
  intro h
  cases h with
  | agent stage fits => exact hPending stage.pending
  | setup first => exact hPending (by rw [first]; rfl)
  | teardown stage free => exact hPending stage.pending
  | posted inside pending => exact hPending pending
  | returned whose inside pending => exact hPending pending
  | printed down first => exact hPending first
  | stored down first => exact first path summary hStored

theorem eq_nil_of_stored {hooks : Hooks R V} {past future : List Occurrence} {path : String}
    {summary : RunSummary}
    (h : Follows (Fits hooks) [] (past ++ .event (.stored path summary) :: future)) :
    future = [] := by
  cases future with
  | nil => rfl
  | cons occurrence rest =>
    have hNext := h (past ++ [.event (.stored path summary)]) occurrence rest (by simp)
    have hMem : .stored path summary ∈
        outputs ([] ++ (past ++ [.event (.stored path summary)])) := by
      simp [outputs, Occurrence.output?]
    exact absurd hNext (not_fits_of_stored hMem)

/-- The life cycle of hooks, in every performance. Everything fits what was before it, and the trace
is what the world has seen. A build or a setup that fails is the end of the run, before any agent
and any output. An agent at its end has called its teardown once if its setup went well. The outcome
that is reported, stored and returned is one and the same, and nothing comes after the summary.
Every execution is one of the performances. -/
theorem hook_life_cycle {beats : List Beat}
    (played : (initial setting).applyAll setting beats = some p) :
    let trace := (initial setting).trace setting beats
    (∀ past occurrence future, trace = past ++ occurrence :: future →
      Fits setting.hooks past occurrence) ∧
    trace.filterMap Occurrence.event? = p.state.world.outward ∧
    (∀ e, setting.definition.build = .error e →
      trace = [] ∧ p.disk = setting.occasion.disk ∧
        (p.conductor = .building ∨
          ∃ shared, p.conductor = .returned (.failed e.trouble) shared)) ∧
    (∀ ending conclusion, .returned .setup ending ∈ trace →
      ending.conclusion? = some conclusion →
        (∃ shared, p.conductor = .returned conclusion shared) ∧ IsOpening trace ∧
          p.disk = setting.occasion.disk) ∧
    (∀ (index : Nat) (a : Agent V), p.state.agents[index]? = some a → a.hasEnded = true →
      HasLeft setting.hooks.agent index (mine (some index) trace)) ∧
    (∀ summary shared, p.conductor = .returned (.finished summary) shared →
      ∃ resolved, setting.definition.build = .ok resolved ∧
        summary.outcome = p.state.world.counters.snapshot ∧
        outputs trace = reported resolved summary.outcome ++ filed resolved summary ∧
        IsFiled resolved summary setting.occasion.disk p.disk) ∧
    (∀ past path summary future, trace = past ++ .event (.stored path summary) :: future →
      future = []) ∧
    ∀ account, execute setting.network setting.state setting.occasion setting.hooks
        setting.definition = some account →
      ∃ beats last, (initial setting).applyAll setting beats = some last ∧
        last.account? = some account := by
  intro trace
  have hComes : Comes setting trace p := comes_of_applyAll played
  have hSound := hComes.sound
  refine ⟨?_, hComes.events, fun e hError ↦ hSound.of_error hError,
    fun ending conclusion ↦ hSound.of_refusal, ?_, ?_, ?_, ?_⟩
  · intro past occurrence future hSplit
    exact hSound.lawful past occurrence future hSplit
  · intro index a found hEnded
    exact hasLeft_of_hasEnded (hSound.agents index a found).1 hEnded
  · intro summary shared hConductor
    have hPlace := hSound.place
    simp only [Place, hConductor] at hPlace
    cases hPlace with
    | @refused _ ending _ built opening returned only wrong plan disk =>
      cases ending <;> cases wrong
    | finished isOver torn outcome outputs disk => exact ⟨_, isOver.built, outcome, outputs, disk⟩
  · intro past path summary future hSplit
    have hLawful := hSound.lawful
    rw [hSplit] at hLawful
    exact eq_nil_of_stored hLawful
  · intro account hAccount
    obtain ⟨last, ⟨beats, hBeats⟩, hLast⟩ := leads_execute setting hAccount
    exact ⟨beats, last, hBeats, hLast⟩

end Performance

/-! ## A refusal and a bail-out -/

namespace Matinee

/-- The first agent refuses its setup, the second one bails out of its first iteration. -/
def hooks : Hooks Unit Unit where
  shared := ()
  own := ()
  setup := some fun _ _ ↦ .done ((), .ok)
  teardown := some fun _ _ ↦ .done ((), .failed (.ofMessage "no broom"))
  agent := {
    setup := some fun context _ ↦
      .done ((), if context.index = 0 then .failed (.ofMessage "no key") else .ok)
    behaviour := some fun _ _ ↦ .done ((), .failed .defaultBail)
    teardown := some fun _ _ ↦ .done ((), .ok) }

def arguments : CommandLine.Arguments :=
  ⟨"http://a", "b", some 2, some 1, none, 60, 0, 1, none, true, .inMemory, some "id", some "runs"⟩

def setting : Setting Unit Unit Unit :=
  ⟨.unreachable, (), ⟨"", 0, .empty ["."], 0⟩, hooks, .ofArguments "matinee" arguments⟩

/-- The first agent is joined while the second one is still at work. -/
def beats : List Beat :=
  [.conductor, .conductor, .agent 1, .agent 0, .agent 0, .agent 1, .conductor] ++
    List.replicate 5 (.agent 1) ++ List.replicate 5 .conductor

theorem isSome_applyAll : ((Performance.initial setting).applyAll setting beats).isSome := by
  decide +kernel

def last : Performance Unit Unit Unit :=
  ((Performance.initial setting).applyAll setting beats).get isSome_applyAll

end Matinee

theorem hook_life_cycle_matinee :
    ∃ summary, outputs ((Performance.initial Matinee.setting).trace Matinee.setting Matinee.beats) =
      [.printed (Report.printed summary.outcome), .stored "runs" summary] := by
  have hPlayed : (Performance.initial Matinee.setting).applyAll Matinee.setting Matinee.beats =
      some Matinee.last := (Option.some_get Matinee.isSome_applyAll).symm
  have hFinished : Matinee.last.summary?.isSome := by decide +kernel
  obtain ⟨summary, hSummary⟩ := Option.isSome_iff_exists.1 hFinished
  obtain ⟨shared, hConductor⟩ := Performance.conductor_of_summary? hSummary
  have h := Performance.hook_life_cycle hPlayed
  obtain ⟨resolved, hBuilt, _, hOutputs, _⟩ := h.2.2.2.2.2.1 summary shared hConductor
  have hResolved : Matinee.setting.definition.build.toOption.map
      (fun resolved ↦ (resolved.reporter, resolved.summaryFile)) =
        some (.inMemory, some "runs") := by decide +kernel
  rw [hBuilt, Except.toOption, Option.map_some, Option.some.injEq, Prod.mk.injEq] at hResolved
  obtain ⟨hReporter, hFile⟩ := hResolved
  refine ⟨summary, ?_⟩
  rw [hOutputs, reported, filed, hReporter, hFile]
  rfl

end StorefrontLoad.Run
