import StorefrontLoad.Proofs.Run.Trace

/-!
# The life cycle of one agent

An agent is in one hook at a time. It calls its setup first, its behaviour and its teardown only
after a setup that went well, and nothing after its teardown. Where an agent stands in its life
tells what its past must have been, and each of its steps keeps that.
-/

namespace StorefrontLoad.Run

open Storefront (Network)

variable {R V σ : Type}

/-! ## The law of an agent -/

/-- The hook, if it is there at all, has returned and nothing went wrong. -/
structure WentWell (isThere : Bool) (hook : Hook) (past : List Occurrence) : Prop where
  done : isThere → .returned hook .ok ∈ past
  well : ∀ ending, .returned hook ending ∈ past → ending = .ok

/-- The agent has been set up, is in no hook and has not been torn down. -/
structure MayCall (hooks : AgentHooks R V) (agent : Nat) (past : List Occurrence) : Prop where
  prepared : WentWell hooks.setup.isSome (.agentSetup agent) past
  free : within past = none
  staying : past.countP (·.calls (.agentTeardown agent)) = 0

/-- What may occur next of an agent with such a past. -/
inductive FitsAgent (hooks : AgentHooks R V) (agent : Nat) (past : List Occurrence) :
    Occurrence → Prop
  | setup (first : past = []) : FitsAgent hooks agent past (.called (.agentSetup agent))
  | behaviour {iteration : Nat} (ready : MayCall hooks agent past) :
      FitsAgent hooks agent past (.called (.behaviour agent iteration))
  | teardown (ready : MayCall hooks agent past) :
      FitsAgent hooks agent past (.called (.agentTeardown agent))
  | posted {request : Storefront.Request} (inside : within past ≠ none) :
      FitsAgent hooks agent past (.event (.posted (some agent) request))
  | returned {hook : Hook} {ending : Ending} (whose : hook.agent? = some agent)
      (inside : within past = some hook) : FitsAgent hooks agent past (.returned hook ending)

theorem FitsAgent.who {hooks : AgentHooks R V} {agent : Nat} {past : List Occurrence}
    {occurrence : Occurrence} (h : FitsAgent hooks agent past occurrence) :
    occurrence.who = some agent := by
  cases h with
  | returned whose inside => exact whose
  | setup | behaviour | teardown | posted => rfl

/-- An agent that has come to its end has left its last hook, and if it had been set up, it has
called its teardown once. -/
structure HasLeft (hooks : AgentHooks R V) (agent : Nat) (past : List Occurrence) : Prop where
  free : within past = none
  teardown : WentWell hooks.setup.isSome (.agentSetup agent) past → hooks.teardown.isSome →
    past.countP (·.calls (.agentTeardown agent)) = 1

section Past

variable {isThere : Bool} {hook : Hook} {past new : List Occurrence}

theorem WentWell.append (h : WentWell isThere hook past)
    (hNew : ∀ ending, .returned hook ending ∉ new) : WentWell isThere hook (past ++ new) where
  done hThere := List.mem_append_left _ (h.done hThere)
  well ending hMem := by
    rcases List.mem_append.1 hMem with hPast | hNow
    · exact h.well ending hPast
    · exact absurd hNow (hNew ending)

theorem wentWell_of_isNone (hThere : isThere = false)
    (hPast : ∀ ending, .returned hook ending ∉ past) : WentWell isThere hook past where
  done h := by
    rw [hThere] at h
    cases h
  well ending hMem := absurd hMem (hPast ending)

/-- The first return of a hook decides. -/
theorem wentWell_of_returned (hPast : ∀ ending, .returned hook ending ∉ past) :
    WentWell isThere hook (past ++ [.returned hook .ok]) where
  done _ := List.mem_append_right _ List.mem_cons_self
  well ending hMem := by
    rcases List.mem_append.1 hMem with hBefore | hNow
    · exact absurd hBefore (hPast ending)
    · simpa using hNow

theorem not_wentWell {ending : Ending} (hMem : .returned hook ending ∈ past)
    (wrong : ending ≠ .ok) : ¬ WentWell isThere hook past :=
  fun h ↦ wrong (h.well ending hMem)

end Past

namespace Agent

/-- What the past of an agent must have been, by where it is now. -/
def Standing (hooks : AgentHooks R V) (index : Nat) (past : List Occurrence) (a : Agent V) : Prop :=
  match a.phase with
  | .arriving => past = []
  | .inHook .setup _ => within past = some (.agentSetup index) ∧
      (∀ ending, .returned (.agentSetup index) ending ∉ past) ∧
      past.countP (·.calls (.agentTeardown index)) = 0
  | .inHook .behaviour _ => within past = some (.behaviour index a.iteration) ∧
      WentWell hooks.setup.isSome (.agentSetup index) past ∧
      past.countP (·.calls (.agentTeardown index)) = 0
  | .inHook (.teardown _) _ => within past = some (.agentTeardown index) ∧
      WentWell hooks.setup.isSome (.agentSetup index) past ∧
      past.countP (·.calls (.agentTeardown index)) = 1
  | .deciding | .cleared | .accounting _ => MayCall hooks index past
  | .ended _ | .crashed => HasLeft hooks index past

section Steps

variable {plan : Plan R V} {network : Network σ} {index : Nat} {a after : Agent V}
  {past : List Occurrence}

/-- What occurs in a step that leaves the agent like this. -/
def occurrences (index : Nat) (a after : Agent V) : List Occurrence :=
  a.returning index ++ (a.shown index after).map .event

/-- The new occurrences fit, and the agent stands where its past says. -/
def Behaves (hooks : AgentHooks R V) (index : Nat) (past new : List Occurrence) (a : Agent V) :
    Prop :=
  Follows (FitsAgent hooks index) past new ∧ a.Standing hooks index (past ++ new)

theorem Behaves.append {hooks : AgentHooks R V} {first second : List Occurrence}
    (h : Follows (FitsAgent hooks index) past first)
    (h' : a.Behaves hooks index (past ++ first) second) :
    a.Behaves hooks index past (first ++ second) := by
  refine ⟨h.append h'.1, ?_⟩
  rw [← List.append_assoc]
  exact h'.2

theorem behaves_departure {running : Bool} {a b : Agent V} (ready : MayCall plan.hooks index past)
    (hPhase : a.phase = departure plan index running b) :
    a.Behaves plan.hooks index past ((a.entered index).map .event) := by
  unfold departure at hPhase
  unfold Behaves Standing entered
  split at hPhase
  · next hNone =>
    simp only [hPhase, List.map_nil, List.append_nil]
    refine ⟨.nil, ready.free, fun _ hSome ↦ ?_⟩
    rw [hNone] at hSome
    cases hSome
  · simp only [hPhase, Stage.hook, List.map_cons, List.map_nil]
    refine ⟨.cons (.teardown ready) .nil, within_append_called _ _,
      ready.prepared.append (by simp), ?_⟩
    rw [List.countP_append, ready.staying]
    simp [Occurrence.calls]

/-- Outside of its hooks an agent shows what it enters next. -/
theorem occurrences_of_outside (h : ∀ stage rest, a.phase ≠ .inHook stage rest) :
    a.occurrences index after = (after.entered index).map .event := by
  unfold occurrences returning shown
  split
  · next hPhase => exact absurd hPhase (h _ _)
  · split
    · next hPhase => exact absurd hPhase (h _ _)
    · rfl

theorem shown_of_isReady {value : V} (ready : a.IsReady plan value) :
    a.shown index after = after.entered index := by
  unfold shown
  rcases ready with ⟨hPhase, _⟩ | hPhase <;> simp only [hPhase]

theorem behaves_start {value : V} (ready : a.IsReady plan value)
    (h : a.Standing plan.hooks index past) :
    Follows (FitsAgent plan.hooks index) past (a.returning index) ∧
      MayCall plan.hooks index (past ++ a.returning index) := by
  unfold Standing at h
  unfold returning
  rcases ready with ⟨hPhase, hNone, _⟩ | hPhase
  · simp only [hPhase] at h ⊢
    subst h
    exact ⟨.nil, wentWell_of_isNone (by rw [hNone]; rfl) (by simp), rfl, rfl⟩
  · simp only [hPhase, Stage.hook] at h ⊢
    obtain ⟨hWithin, hFirst, hStaying⟩ := h
    refine ⟨.cons (.returned rfl hWithin) .nil, wentWell_of_returned hFirst,
      within_append_returned _ _ _, ?_⟩
    rw [List.countP_append, hStaying]
    rfl

theorem Standing.within_eq {stage : Stage} {rest : Program (V × Ending)}
    {hooks : AgentHooks R V} (h : a.Standing hooks index past)
    (phase : a.phase = .inHook stage rest) :
    within past = some (stage.hook index a.iteration) := by
  unfold Standing at h
  rw [phase] at h
  cases stage <;> exact h.1

/-- Actions inside of a hook do not change where an agent stands. -/
theorem behaves_posted {stage : Stage} {rest next : Program (V × Ending)}
    {hooks : AgentHooks R V} (h : a.Standing hooks index past)
    (phase : a.phase = .inHook stage rest) (hPhase : after.phase = .inHook stage next)
    (hIteration : after.iteration = a.iteration) (request? : Option Storefront.Request) :
    after.Behaves hooks index past
      ((request?.toList.map (Event.posted (some index))).map .event) := by
  have hWithin := h.within_eq phase
  cases request? with
  | none =>
    simp only [Option.toList_none, List.map_nil, Behaves, List.append_nil]
    refine ⟨.nil, ?_⟩
    unfold Standing at h ⊢
    rw [phase] at h
    rw [hPhase, hIteration]
    cases stage <;> exact h
  | some request =>
    simp only [Option.toList_some, List.map_cons, List.map_nil, Behaves]
    refine ⟨.cons (.posted (by simp [hWithin])) .nil, ?_⟩
    unfold Standing at h ⊢
    rw [phase] at h
    rw [hPhase, hIteration]
    cases stage with
    | setup =>
      obtain ⟨_, hFirst, hStaying⟩ := h
      refine ⟨(within_append_event _ (by simp)).trans hWithin, by simpa using hFirst, ?_⟩
      rw [List.countP_append, hStaying]
      rfl
    | behaviour =>
      obtain ⟨_, hPrepared, hStaying⟩ := h
      refine ⟨(within_append_event _ (by simp)).trans hWithin, hPrepared.append (by simp), ?_⟩
      rw [List.countP_append, hStaying]
      rfl
    | teardown running =>
      obtain ⟨_, hPrepared, hOnce⟩ := h
      refine ⟨(within_append_event _ (by simp)).trans hWithin, hPrepared.append (by simp), ?_⟩
      rw [List.countP_append, hOnce]
      rfl

/-- A return that is the end of an agent. -/
theorem behaves_end {hooks : AgentHooks R V} {stage : Stage} {value : V} {ending : Ending}
    {running : Bool} (was : a.phase = .inHook stage (.done (value, ending)))
    (hWithin : within past = some (stage.hook index a.iteration))
    (phase : after.phase = .ended running ∨ after.phase = .crashed)
    (hLeft : HasLeft hooks index (past ++ [.returned (stage.hook index a.iteration) ending])) :
    after.Behaves hooks index past (a.occurrences index after) := by
  have hWhose : (stage.hook index a.iteration).agent? = some index := by cases stage <;> rfl
  have hNew : a.occurrences index after =
      [.returned (stage.hook index a.iteration) ending] := by
    rcases phase with phase | phase <;> simp [occurrences, returning, shown, entered, was, phase]
  rw [hNew]
  refine ⟨.cons (.returned hWhose hWithin) .nil, ?_⟩
  unfold Standing
  rcases phase with phase | phase <;> rwa [phase]

/-- Every step of an agent fits its past, and keeps what its past must have been. -/
theorem Turn.behaves {w world : World σ} {new : List Deed}
    (turn : a.Turn plan network index w after new world) (h : a.Standing plan.hooks index past) :
    after.Behaves plan.hooks index past (a.occurrences index after) := by
  cases turn with
  | act phase performed =>
    simp only [occurrences, returning, shown, phase, List.nil_append]
    apply behaves_posted h phase
    · rfl
    · rfl
  | prepare phase setup world =>
    rw [occurrences_of_outside (by simp [phase])]
    simp only [Standing, phase] at h
    subst h
    exact ⟨.cons (.setup rfl) .nil, rfl, by simp, rfl⟩
  | start ready behaviour world =>
    obtain ⟨hFits, hReady⟩ := behaves_start ready h
    rw [occurrences, shown_of_isReady ready]
    simp only [entered, List.map_nil, List.append_nil]
    exact ⟨hFits, hReady⟩
  | @refuse _ ending _ _ was wrong phase_eq world =>
    refine behaves_end was (h.within_eq was) phase_eq ⟨within_append_returned _ _ _, ?_⟩
    intro hPrepared
    have hMem := List.mem_append_right past (List.mem_singleton_self
      (Occurrence.returned (.agentSetup index) ending))
    exact absurd hPrepared (not_wentWell hMem wrong)
  | skip ready behaviour world =>
    rcases ready with ready | ⟨phase, rfl⟩
    · obtain ⟨hFits, hReady⟩ := behaves_start ready h
      rw [occurrences, shown_of_isReady ready]
      refine Behaves.append hFits ?_
      exact behaves_departure hReady rfl
    · rw [occurrences_of_outside (by simp [phase])]
      simp only [Standing, phase] at h
      exact behaves_departure h rfl
  | leave phase reason world =>
    rw [occurrences_of_outside (by simp [phase])]
    simp only [Standing, phase] at h
    exact behaves_departure h rfl
  | clear phase quota stop =>
    rw [occurrences_of_outside (by simp [phase])]
    simp only [Standing, phase] at h
    exact ⟨.nil, by simpa [Standing, entered] using h⟩
  | call phase behaviour =>
    rw [occurrences_of_outside (by simp [phase])]
    simp only [Standing, phase] at h
    refine ⟨.cons (.behaviour h) .nil, within_append_called _ _,
      h.prepared.append (by simp [entered]), ?_⟩
    rw [List.countP_append, h.staying]
    simp [entered, Stage.hook, Occurrence.calls]
  | emerge phase =>
    have hWithin := h.within_eq phase
    simp only [Standing, phase] at h
    obtain ⟨_, hPrepared, hStaying⟩ := h
    simp only [occurrences, returning, shown, entered, phase, Stage.hook] at hWithin ⊢
    refine ⟨.cons (.returned rfl hWithin) .nil, hPrepared.append (by simp),
      within_append_returned _ _ _, ?_⟩
    rw [List.map_nil, List.append_nil, List.countP_append, hStaying]
    simp [Occurrence.calls]
  | account phase stays world =>
    rw [occurrences_of_outside (by simp [phase])]
    simp only [Standing, phase] at h
    exact ⟨.nil, by simpa [Standing, entered] using h⟩
  | bail phase bails world =>
    rw [occurrences_of_outside (by simp [phase])]
    simp only [Standing, phase] at h
    exact behaves_departure h rfl
  | close was phase_eq world =>
    have hWithin := h.within_eq was
    simp only [Standing, was] at h
    obtain ⟨_, hPrepared, hOnce⟩ := h
    refine behaves_end was hWithin phase_eq ⟨within_append_returned _ _ _, fun _ _ ↦ ?_⟩
    rw [List.countP_append, hOnce]
    rfl

end Steps

end Agent

/-! ## Harm

An agent whose setup or teardown panics crashes; a panic of its behaviour is caught. -/

/-- A setup or a teardown of an agent has panicked. -/
def Occurrence.isHarm : Occurrence → Bool
  | returned (.agentSetup _) (.panicked _) | returned (.agentTeardown _) (.panicked _) => true
  | _ => false

def IsHarmed (past : List Occurrence) : Prop := ∃ occurrence ∈ past, occurrence.isHarm = true

theorem isHarmed_append (past new : List Occurrence) :
    IsHarmed (past ++ new) ↔ IsHarmed past ∨ IsHarmed new := by
  simp only [IsHarmed, List.mem_append, or_and_right, exists_or]

theorem not_isHarmed_events (events : List Event) : ¬ IsHarmed (events.map .event) := by
  rintro ⟨occurrence, hMem, hHarm⟩
  obtain ⟨event, _, rfl⟩ := List.mem_map.1 hMem
  cases hHarm

namespace Agent

variable {plan : Plan R V} {network : Network σ} {index : Nat} {a after : Agent V}
  {w world : World σ}

theorem departure_ne_crashed (running : Bool) : departure plan index running a ≠ .crashed := by
  unfold departure
  split <;> simp

/-- Only a hook that returns can crash an agent. -/
theorem Turn.ne_crashed {new : List Deed} (turn : a.Turn plan network index w after new world)
    (h : ∀ stage result, a.phase ≠ .inHook stage (.done result)) : after.phase ≠ .crashed := by
  cases turn with
  | refuse was wrong phase_eq world => exact absurd was (h _ _)
  | close was phase_eq world => exact absurd was (h _ _)
  | skip ready behaviour world => exact departure_ne_crashed true
  | leave phase reason world => exact departure_ne_crashed true
  | bail phase bails world => exact departure_ne_crashed false
  | act | prepare | start | clear | call | emerge | account => simp

theorem begin_ne_crashed : (a.begin plan index w).1.phase ≠ .crashed := by
  unfold begin
  split
  · simp
  · rw [leave_fst]
    exact departure_ne_crashed true

/-- A panic outside of the behaviour crashes the agent, and nothing else does. -/
theorem crashed_afterHook_iff (plan : Plan R V) (index : Nat) (stage : Stage) (ending : Ending)
    (a : Agent V) (w : World σ) :
    (afterHook plan index stage ending a w).1.phase = .crashed ↔
      (Occurrence.returned (stage.hook index a.iteration) ending).isHarm = true := by
  cases stage with
  | behaviour => simp [afterHook, Stage.hook, Occurrence.isHarm]
  | teardown running => cases ending <;> simp [afterHook, Stage.hook, Occurrence.isHarm]
  | setup =>
    cases ending with
    | ok => simpa [afterHook, Stage.hook, Occurrence.isHarm] using begin_ne_crashed
    | failed trouble => simp [afterHook, Stage.hook, Occurrence.isHarm]
    | panicked message => simp [afterHook, Stage.hook, Occurrence.isHarm]

/-- An agent has crashed if and only if it has come to harm. -/
theorem isHarmed_step {past : List Occurrence}
    (h : a.step plan network index w = some (after, world))
    (hPast : IsHarmed past ↔ a.phase = .crashed) :
    IsHarmed (past ++ a.occurrences index after) ↔ after.phase = .crashed := by
  have hMoves : a.phase ≠ .crashed := by
    intro hCrashed
    simp [step, hCrashed] at h
  rw [isHarmed_append, hPast, occurrences, isHarmed_append]
  simp only [hMoves, not_isHarmed_events, false_or, or_false]
  by_cases hDone : ∃ stage result, a.phase = .inHook stage (.done result)
  · obtain ⟨stage, ⟨value, ending⟩, hPhase⟩ := hDone
    have hAfter :
        afterHook plan index stage ending { a with value := value } w = (after, world) := by
      simpa [step, hPhase] using h
    have hCrashed := crashed_afterHook_iff plan index stage ending { a with value := value } w
    rw [hAfter] at hCrashed
    simp only [returning, hPhase, IsHarmed, List.mem_singleton, exists_eq_left]
    exact hCrashed.symm
  · have hNever := fun stage result hPhase ↦ hDone ⟨stage, result, hPhase⟩
    have hNothing : a.returning index = [] := by
      unfold returning
      split
      · next hPhase => exact absurd hPhase (hNever _ _)
      · rfl
    have hSound := (turn_of_step h).ne_crashed hNever
    simp [hNothing, IsHarmed, hSound]

end Agent

end StorefrontLoad.Run
