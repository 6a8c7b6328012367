import StorefrontLoad.Proofs.Run.Iteration

/-!
# Runs that are bounded by a number of iterations

How the setup and each call of the behaviour of each agent come out is fixed beforehand, and nobody
tells the run to stop while an agent is in its loop. Then an agent whose setup went well begins the
iterations below the quota in order and leaves after the last of them or after its first bail-out,
whatever else went wrong before; the summary tells how many there were and who was still running.
-/

namespace StorefrontLoad.Run

open Storefront (Network)

variable {R V σ : Type}

/-- The hooks come out as it is fixed for every agent and every iteration. -/
structure Assigned (plan : Plan R V) (prepared : Nat → Ending) (ending : Nat → Nat → Ending) :
    Prop where
  /-- An agent without a setup counts as well prepared. -/
  unprepared : plan.hooks.setup = none → ∀ index, prepared index = .ok
  setup : ∀ hook, plan.hooks.setup = some hook → ∀ index iteration value,
    (hook ⟨index, iteration, plan.config, plan.shared⟩ value).EndsIn (prepared index)
  behaviour : ∀ hook, plan.hooks.behaviour = some hook → ∀ index iteration value,
    (hook ⟨index, iteration, plan.config, plan.shared⟩ value).EndsIn (ending index iteration)
  hasBehaviour : plan.hooks.behaviour.isSome

namespace Agent

/-- Whether the agent is past its loop. -/
def hasLeft (a : Agent V) : Bool :=
  match a.phase with
  | .inHook (.teardown _) _ | .ended _ | .crashed => true
  | _ => false

theorem hasLeft_of_hasEnded {a : Agent V} (h : a.hasEnded = true) : a.hasLeft = true := by
  unfold hasEnded at h
  unfold hasLeft
  split at h <;> simp_all

theorem isInFlight_of_hasLeft {a : Agent V} (h : a.hasLeft = true) : a.isInFlight = false := by
  unfold hasLeft at h
  unfold isInFlight
  split at h <;> simp_all

/-! ## What an agent has to do -/

/-- The agent has been set up and does not bail out in any of its first iterations. -/
def Goes (prepared : Ending) (ending : Nat → Ending) (count : Nat) : Prop :=
  prepared = .ok ∧ ∀ n < count, (ending n).isBail = false

instance (prepared : Ending) (ending : Nat → Ending) (count : Nat) :
    Decidable (Goes prepared ending count) :=
  inferInstanceAs (Decidable (_ ∧ ∀ n < count, (ending n).isBail = false))

/-- How many iterations the agent makes of its quota: its first bail-out ends its last one. -/
def share (prepared : Ending) (ending : Nat → Ending) (quota : Nat) : Nat :=
  if prepared = .ok then
    match (List.range quota).find? fun n ↦ (ending n).isBail with
    | some n => n + 1
    | none => quota
  else 0

variable {prepared : Ending} {ending : Nat → Ending} {quota : Nat}

theorem Goes.succ {count : Nat} (h : Goes prepared ending count)
    (hStays : (ending count).isBail = false) : Goes prepared ending (count + 1) := by
  refine ⟨h.1, fun n hn ↦ ?_⟩
  rcases Nat.lt_succ_iff_lt_or_eq.1 hn with hLess | rfl
  · exact h.2 n hLess
  · exact hStays

theorem share_le (prepared : Ending) (ending : Nat → Ending) (quota : Nat) :
    share prepared ending quota ≤ quota := by
  unfold share
  split
  · split
    · next hFind => exact List.mem_range.1 (List.find?_range_eq_some.1 hFind).2.1
    · exact Nat.le_refl _
  · exact Nat.zero_le _

theorem share_of_ne (h : prepared ≠ .ok) : share prepared ending quota = 0 := if_neg h

theorem Goes.share_eq (h : Goes prepared ending quota) : share prepared ending quota = quota := by
  have hFind : (List.range quota).find? (fun n ↦ (ending n).isBail) = none := by
    rw [List.find?_range_eq_none]
    intro n hn
    rw [h.2 n hn]
    rfl
  rw [share, if_pos h.1, hFind]

theorem Goes.share_of_bails {n : Nat} (h : Goes prepared ending n) (hBelow : n < quota)
    (hBails : (ending n).isBail = true) : share prepared ending quota = n + 1 := by
  have hFind : (List.range quota).find? (fun n ↦ (ending n).isBail) = some n := by
    rw [List.find?_range_eq_some]
    refine ⟨hBails, List.mem_range.2 hBelow, fun m hm ↦ ?_⟩
    rw [h.2 m hm]
    rfl
  rw [share, if_pos h.1, hFind]

/-- As long as it does not bail out, an agent is entitled to the next iteration. -/
theorem Goes.lt_share {count : Nat} (h : Goes prepared ending count) (hBelow : count < quota) :
    count < share prepared ending quota := by
  unfold share
  rw [if_pos h.1]
  split
  · next m hFind =>
    refine Nat.lt_succ_of_le (Nat.le_of_not_lt fun hLess ↦ ?_)
    have hm := h.2 m hLess
    rw [(List.find?_range_eq_some.1 hFind).1] at hm
    cases hm
  · exact hBelow

/-! ## Where an agent is -/

/-- The agent has left its loop after so many iterations. -/
inductive Leaves (prepared : Ending) (ending : Nat → Ending) (quota : Nat) : Bool → Nat → Prop
  | refused (wrong : prepared ≠ .ok) : Leaves prepared ending quota false 0
  | served (goes : Goes prepared ending quota) : Leaves prepared ending quota true quota
  | bailed {n : Nat} (goes : Goes prepared ending n) (below : n < quota)
      (bails : (ending n).isBail = true) : Leaves prepared ending quota false (n + 1)

/-- Where an agent may be, and how many iterations it has counted there. -/
def OnQuota (prepared : Ending) (ending : Nat → Ending) (quota : Nat) (a : Agent V) : Prop :=
  match a.phase with
  | .arriving => a.iteration = 0
  | .inHook .setup rest => a.iteration = 0 ∧ rest.EndsIn prepared
  | .deciding => Goes prepared ending a.iteration ∧ a.iteration ≤ quota
  | .cleared => Goes prepared ending a.iteration ∧ a.iteration < quota
  | .inHook .behaviour rest =>
    Goes prepared ending a.iteration ∧ a.iteration < quota ∧ rest.EndsIn (ending a.iteration)
  | .accounting result =>
    Goes prepared ending a.iteration ∧ a.iteration < quota ∧ result = ending a.iteration
  | .inHook (.teardown running) _ | .ended running =>
    Leaves prepared ending quota running a.iteration
  | .crashed => ∃ running, Leaves prepared ending quota running a.iteration

theorem Leaves.count_eq {running : Bool} {count : Nat}
    (h : Leaves prepared ending quota running count) : count = share prepared ending quota := by
  cases h with
  | refused wrong => exact (share_of_ne wrong).symm
  | served goes => exact goes.share_eq.symm
  | bailed goes below bails => exact (goes.share_of_bails below bails).symm

theorem Leaves.running_eq {running : Bool} {count : Nat}
    (h : Leaves prepared ending quota running count) :
    running = decide (Goes prepared ending quota) := by
  cases h with
  | refused wrong => exact (decide_eq_false fun goes ↦ wrong goes.1).symm
  | served goes => exact (decide_eq_true goes).symm
  | @bailed n _ below bails =>
    refine (decide_eq_false fun goes ↦ ?_).symm
    rw [goes.2 n below] at bails
    cases bails

theorem onQuota_departure {plan : Plan R V} {index iteration : Nat} {running : Bool} {a b : Agent V}
    (hPhase : b.phase = departure plan index running a) (hIteration : b.iteration = iteration)
    (h : Leaves prepared ending quota running iteration) : b.OnQuota prepared ending quota := by
  subst hIteration
  unfold OnQuota
  rw [hPhase, departure]
  cases plan.hooks.teardown with
  | none => exact h
  | some hook => exact h

/-- An agent never begins more than its share. -/
theorem OnQuota.begun_le {a : Agent V} (h : a.OnQuota prepared ending quota) :
    a.begun ≤ share prepared ending quota := by
  unfold begun isInFlight
  unfold OnQuota at h
  split at h
  · simp_all
  · simp_all
  · next hPhase =>
    rw [hPhase]
    rcases Nat.lt_or_eq_of_le h.2 with hBelow | hAll
    · exact Nat.le_of_lt (h.1.lt_share hBelow)
    · rw [hAll] at h ⊢
      rw [h.1.share_eq]
      exact Nat.le_refl _
  · next hPhase =>
    rw [hPhase]
    exact Nat.le_of_lt (h.1.lt_share h.2)
  · next hPhase =>
    rw [hPhase]
    exact h.1.lt_share h.2.1
  · next hPhase =>
    rw [hPhase]
    exact h.1.lt_share h.2.1
  · next hPhase =>
    rw [hPhase, h.count_eq]
    exact Nat.le_refl _
  · next hPhase =>
    rw [hPhase, h.count_eq]
    exact Nat.le_refl _
  · next hPhase =>
    obtain ⟨_, h⟩ := h
    rw [hPhase, h.count_eq]
    exact Nat.le_refl _

/-- An agent that has left its loop has made its share. -/
theorem OnQuota.iteration_eq {a : Agent V} (h : a.OnQuota prepared ending quota)
    (hLeft : a.hasLeft = true) : a.iteration = share prepared ending quota := by
  unfold OnQuota at h
  unfold hasLeft at hLeft
  split at h <;> simp_all only [Bool.false_eq_true]
  · exact h.count_eq
  · exact h.count_eq
  · exact h.elim fun _ h ↦ h.count_eq

/-- No step leads off the quota, unless the run is told to stop while an agent is in its loop. -/
theorem Turn.onQuota {plan : Plan R V} {network : Network σ} {index : Nat} {a after : Agent V}
    {w world : World σ} {new : List Deed} {prepared : Nat → Ending} {ending : Nat → Nat → Ending}
    (hQuota : plan.config.stopCondition = .iterations quota)
    (hAssigned : Assigned plan prepared ending)
    (hFree : w.stopRequested = true → a.hasLeft = true)
    (turn : a.Turn plan network index w after new world)
    (h : a.OnQuota (prepared index) (ending index) quota) :
    after.OnQuota (prepared index) (ending index) quota := by
  unfold OnQuota at h
  cases turn with
  | @act stage _ _ taken phase =>
    simp only [phase] at h
    cases stage with
    | setup => exact ⟨h.1, h.2.next taken.reply⟩
    | behaviour => exact ⟨h.1, h.2.1, h.2.2.next taken.reply⟩
    | teardown running => exact h
  | prepare phase setup =>
    simp only [phase] at h
    exact ⟨h, hAssigned.setup _ setup _ _ _⟩
  | start ready =>
    have hReady : a.iteration = 0 ∧ prepared index = .ok := by
      rcases ready with ⟨phase, setup, _⟩ | phase
      · simp only [phase] at h
        exact ⟨h, hAssigned.unprepared setup index⟩
      · simp only [phase] at h
        exact ⟨h.1, h.2.eq.symm⟩
    refine ⟨⟨hReady.2, fun n hn ↦ ?_⟩, ?_⟩
    · simp only [hReady.1] at hn
      exact absurd hn (Nat.not_lt_zero n)
    · simp only [hReady.1]
      exact Nat.zero_le _
  | refuse was wrong phase_eq =>
    simp only [was] at h
    have hPrepared : prepared index ≠ .ok := h.2.eq ▸ wrong
    have hLeaves : Leaves (prepared index) (ending index) quota false a.iteration :=
      h.1 ▸ .refused hPrepared
    rcases phase_eq with rfl | rfl
    · exact hLeaves
    · exact ⟨false, hLeaves⟩
  | skip _ behaviour =>
    have hSome := hAssigned.hasBehaviour
    rw [behaviour] at hSome
    cases hSome
  | leave phase reason =>
    simp only [phase] at h
    have hMet : a.iteration = quota := by
      rcases reason with hMet | hStop
      · simp only [hasMetQuota, hQuota, decide_eq_true_eq] at hMet
        exact Nat.le_antisymm h.2 hMet
      · have hLeft := hFree hStop
        simp [hasLeft, phase] at hLeft
    exact onQuota_departure rfl hMet (.served (hMet ▸ h.1))
  | clear phase quota =>
    simp only [phase] at h
    simp only [hasMetQuota, hQuota, decide_eq_false_iff_not] at quota
    exact ⟨h.1, Nat.lt_of_not_le quota⟩
  | call phase behaviour =>
    simp only [phase] at h
    exact ⟨h.1, h.2, hAssigned.behaviour _ behaviour _ _ _⟩
  | emerge phase =>
    simp only [phase] at h
    exact ⟨h.1, h.2.1, h.2.2.eq⟩
  | account phase stays =>
    simp only [phase] at h
    exact ⟨h.1.succ (h.2.2 ▸ stays), h.2.1⟩
  | bail phase bails =>
    simp only [phase] at h
    exact onQuota_departure rfl rfl (.bailed h.1 h.2.1 (h.2.2 ▸ bails))
  | close was phase_eq =>
    simp only [was] at h
    rcases phase_eq with rfl | rfl
    · exact h
    · exact ⟨_, h⟩

/-- Nothing has gone wrong outside of the loop of an agent that has no teardown. -/
def Unharmed (a : Agent V) : Prop :=
  match a.phase with
  | .inHook .setup rest => rest.EndsIn .ok
  | .inHook (.teardown _) _ | .crashed => False
  | _ => True

theorem unharmed_departure {plan : Plan R V} {index : Nat} {running : Bool} {a b : Agent V}
    (hTeardown : plan.hooks.teardown = none) (hPhase : b.phase = departure plan index running a) :
    b.Unharmed := by
  unfold Unharmed
  rw [hPhase, departure, hTeardown]
  trivial

theorem Turn.unharmed {plan : Plan R V} {network : Network σ} {index : Nat} {a after : Agent V}
    {w world : World σ} {new : List Deed} {prepared : Nat → Ending} {ending : Nat → Nat → Ending}
    (hAssigned : Assigned plan prepared ending) (hPrepared : prepared index = .ok)
    (hTeardown : plan.hooks.teardown = none) (turn : a.Turn plan network index w after new world)
    (h : a.Unharmed) : after.Unharmed := by
  unfold Unharmed at h
  cases turn with
  | @act stage _ _ taken phase =>
    simp only [phase] at h
    cases stage with
    | setup => exact h.next taken.reply
    | behaviour => trivial
    | teardown running => exact h
  | prepare phase setup =>
    have hEnds := hAssigned.setup _ setup index a.iteration a.value
    rw [hPrepared] at hEnds
    exact hEnds
  | refuse was wrong =>
    simp only [was] at h
    exact absurd h.eq wrong
  | close was =>
    simp only [was] at h
  | skip | leave | bail => exact unharmed_departure hTeardown rfl
  | start | clear | call | emerge | account => trivial

end Agent

/-! ## Runs that are left alone -/

namespace Course

variable {network : Network σ} {state : σ} {hooks : Hooks R V} {resolved : ResolvedScenario}
  {quota : Nat} {prepared : Nat → Ending} {ending : Nat → Nat → Ending}

/-- Nobody tells the run to stop before all agents have left their loops. -/
def Undisturbed (c : Course network state hooks resolved) : Prop :=
  ∀ s, c.Passes s → s.world.stopRequested = true → ∀ a ∈ s.agents, a.hasLeft = true

/-- A run that has not been told to stop so far is left alone. -/
theorem undisturbed_of_last {c : Course network state hooks resolved}
    (h : c.last.world.stopRequested = false) : c.Undisturbed := by
  rintro s ⟨first, second, hMoves, hFirst⟩ hStop
  have hLast := State.stopRequested_applyAll (c.played_rest hMoves hFirst) hStop
  rw [h] at hLast
  cases hLast

theorem onQuota_last {c : Course network state hooks resolved}
    (hQuota : resolved.config.stopCondition = .iterations quota)
    (hAssigned : Assigned c.plan prepared ending) (hUndisturbed : c.Undisturbed) {index : Nat}
    {a : Agent V} (found : c.last.agents[index]? = some a) :
    a.OnQuota (prepared index) (ending index) quota := by
  refine c.forall_agents
    (P := fun index _ a ↦ a.OnQuota (prepared index) (ending index) quota) ?_ ?_ found
  · intro index
    exact rfl
  · intro now index a after deeds new world hNow found turn h
    refine turn.onQuota hQuota hAssigned (fun hStop ↦ ?_) h
    exact hUndisturbed now hNow hStop a (Array.mem_of_getElem? found)

/-- Nobody crashes in a run in which all setups go well and there is no teardown. -/
theorem hasCrash_last {c : Course network state hooks resolved}
    (hAssigned : Assigned c.plan prepared ending) (hPrepared : ∀ index, prepared index = .ok)
    (hTeardown : hooks.agent.teardown = none) : c.last.hasCrash = false := by
  rw [State.hasCrash, Array.any_eq_false']
  intro a hMem
  obtain ⟨index, found⟩ := Array.mem_iff_getElem?.1 hMem
  have hUnharmed : a.Unharmed := by
    refine c.forall_agents (P := fun _ _ a ↦ a.Unharmed) ?_ ?_ found
    · intro index
      trivial
    · intro now index a after deeds new world _ _ turn h
      exact turn.unharmed hAssigned (hPrepared index) hTeardown h
  unfold Agent.Unharmed at hUnharmed
  cases hPhase : a.phase <;> simp_all

/-- What the agents have counted at their ends. -/
theorem iterations_of_hasEnded {c : Course network state hooks resolved}
    (hQuota : resolved.config.stopCondition = .iterations quota)
    (hAssigned : Assigned c.plan prepared ending) (hUndisturbed : c.Undisturbed)
    (hEnded : c.last.hasEnded = true) :
    c.last.iterations = ((List.range resolved.config.concurrency).map fun index ↦
      Agent.share (prepared index) (ending index) quota).sum := by
  rw [← c.size_agents]
  apply State.total_eq
  intro index a found
  have hLeft : a.hasLeft = true := Agent.hasLeft_of_hasEnded (State.agent_hasEnded hEnded found)
  exact (onQuota_last hQuota hAssigned hUndisturbed found).iteration_eq hLeft

/-- Who was still running at its end. -/
theorem endCount_of_hasEnded {c : Course network state hooks resolved}
    (hQuota : resolved.config.stopCondition = .iterations quota)
    (hAssigned : Assigned c.plan prepared ending) (hUndisturbed : c.Undisturbed)
    (hEnded : c.last.hasEnded = true) (hCrash : c.last.hasCrash = false) :
    c.last.endCount = (List.range resolved.config.concurrency).countP fun index ↦
      Agent.Goes (prepared index) (ending index) quota := by
  rw [← c.size_agents]
  apply State.countP_agents
  intro index a found
  have hEnd : a.hasEnded = true := State.agent_hasEnded hEnded found
  have hOnQuota := onQuota_last hQuota hAssigned hUndisturbed found
  unfold Agent.OnQuota at hOnQuota
  unfold Agent.hasEnded at hEnd
  split at hEnd
  · next running hPhase =>
    simp only [hPhase] at hOnQuota ⊢
    exact hOnQuota.running_eq
  · next hPhase =>
    have hNone := Array.any_eq_false'.1 hCrash a (Array.mem_of_getElem? found)
    simp [hPhase] at hNone
  · cases hEnd

/-- A run with a quota that is left alone does exactly this: every agent begins the iterations of
its share in order, each of them once; and at the end the counter and the summary tell the sum of
all shares and how many agents were set up and never bailed out. -/
theorem exact_iterations (c : Course network state hooks resolved)
    (hQuota : resolved.config.stopCondition = .iterations quota)
    (hAssigned : Assigned c.plan prepared ending) (hUndisturbed : c.Undisturbed) :
    (∀ index a, c.last.agents[index]? = some a →
      let share := Agent.share (prepared index) (ending index) quota
      a.iteration ≤ quota ∧
      c.last.world.callsOf index <+: List.range share ∧
      (a.hasLeft = true → c.last.world.callsOf index = List.range share)) ∧
    (c.last.hasEnded = true →
      let iterations := (List.range resolved.config.concurrency).map fun index ↦
        Agent.share (prepared index) (ending index) quota
      let running := (List.range resolved.config.concurrency).countP fun index ↦
        Agent.Goes (prepared index) (ending index) quota
      c.last.world.counters.iterations = iterations.sum.toUInt64 ∧
      (c.last.hasCrash = false → c.last.endCount = running) ∧
      (∀ occasion account summary,
        finish network occasion hooks resolved c.shared c.last = some account →
        account.conclusion = .finished summary →
        summary.outcome.iterations = iterations.sum.toUInt64 ∧
        summary.agentEndCount = running.toUInt64) ∧
      (c.last.hasCrash = false → hooks.teardown = none → resolved.summaryFile = none →
        ∀ occasion, ∃ account summary,
          finish network occasion hooks resolved c.shared c.last = some account ∧
          account.conclusion = .finished summary)) := by
  refine ⟨fun index a found ↦ ?_, fun hEnded ↦ ?_⟩
  · have hOnQuota := onQuota_last hQuota hAssigned hUndisturbed found
    have hBegun := hOnQuota.begun_le
    refine ⟨?_, ?_, fun hLeft ↦ ?_⟩
    · calc
        a.iteration ≤ a.begun := Nat.le_add_right _ _
        _ ≤ Agent.share (prepared index) (ending index) quota := hBegun
        _ ≤ quota := Agent.share_le _ _ _
    · obtain ⟨more, hMore⟩ := Nat.exists_eq_add_of_le hBegun
      rw [c.callsOf_last found, hMore, List.range_add]
      exact List.prefix_append _ _
    · rw [c.callsOf_last found, ← hOnQuota.iteration_eq hLeft]
      rw [Agent.begun_of_atRest (Agent.isInFlight_of_hasLeft hLeft)]
  · have hIterations : c.last.world.counters.iterations = _ :=
      c.iterations_last.trans
        (congrArg Nat.toUInt64 (iterations_of_hasEnded hQuota hAssigned hUndisturbed hEnded))
    refine ⟨hIterations, endCount_of_hasEnded hQuota hAssigned hUndisturbed hEnded,
      fun occasion account summary hFinish hSummary ↦ ?_,
      fun hCrash hTeardown hFile occasion ↦
        exists_summary network occasion c.shared hCrash hTeardown hFile⟩
    obtain ⟨hCrash, result, after, hCalled, hOutcome, hEndCount⟩ :=
      summary_of_finish hFinish hSummary
    rw [hOutcome, hEndCount, endCount_of_hasEnded hQuota hAssigned hUndisturbed hEnded hCrash]
    have hFrame := (frame_of_callHook rfl hCalled).2
    exact ⟨hFrame.trans hIterations, rfl⟩

end Course

/-! ## Every assignment occurs -/

/-- Hooks that come out as they are told to and do nothing else. -/
def AgentHooks.told (prepared : Nat → Ending) (ending : Nat → Nat → Ending) :
    AgentHooks Unit Unit where
  setup := some fun context _ ↦ pure ((), prepared context.index)
  behaviour := some fun context _ ↦ pure ((), ending context.index context.iteration)
  teardown := none

theorem assigned_told (config : RunConfig) (shared : Unit) (prepared : Nat → Ending)
    (ending : Nat → Nat → Ending) :
    Assigned ⟨config, shared, .told prepared ending⟩ prepared ending where
  unprepared h := by cases h
  setup := by
    rintro hook ⟨⟩ index iteration value talk result hTalk
    obtain ⟨_, hResult⟩ := Program.yields_done_iff.1 hTalk
    rw [Program.done.inj hResult]
  behaviour := by
    rintro hook ⟨⟩ index iteration value talk result hTalk
    obtain ⟨_, hResult⟩ := Program.yields_done_iff.1 hTalk
    rw [Program.done.inj hResult]
  hasBehaviour := rfl

namespace Mishaps

/-- The setup of the third agent fails. -/
def prepared (index : Nat) : Ending :=
  if index = 2 then .failed (.ofMessage "no basket") else .ok

/-- The second agent bails out of its last iteration, the fourth one of its first. -/
def ending : Nat → Nat → Ending
  | 0, 0 => .failed (.ofMessage "no stock")
  | 0, _ => .panicked none
  | 1, 0 => .ok
  | _, _ => .failed .defaultBail

def hooks : Hooks Unit Unit := ⟨(), (), none, none, .told prepared ending⟩

def resolved : ResolvedScenario :=
  ⟨"mishaps", .of "" "" 4 (.iterations 2), true, .noop, none, none⟩

/-- The agents take turns as long as they can. -/
def moves : List Move :=
  [0, 1, 2, 3, 3, 2, 1, 0, 0, 1, 3, 3, 0, 1, 3, 3, 1, 1, 0, 0, 0, 0, 1, 1, 1, 1, 0, 0, 0].map .agent

def course : Course Network.unreachable () hooks resolved := .ofMoves rfl moves (by decide)

end Mishaps

theorem exact_iterations_mishaps :
    Mishaps.course.last.world.callsOf 1 = [0, 1] ∧
    Mishaps.course.last.world.counters.iterations = 5 ∧ Mishaps.course.last.endCount = 1 ∧
    ∀ occasion, ∃ account summary,
      finish Network.unreachable occasion Mishaps.hooks Mishaps.resolved () Mishaps.course.last =
        some account ∧
      account.conclusion = .finished summary ∧ summary.agentEndCount = 1 := by
  have hEnded : Mishaps.course.last.hasEnded = true := by
    rw [State.hasEnded, ← Array.all_toList]
    rfl
  have hCrash : Mishaps.course.last.hasCrash = false := by
    rw [State.hasCrash, ← Array.any_toList]
    rfl
  have h := Mishaps.course.exact_iterations rfl
    (assigned_told _ _ Mishaps.prepared Mishaps.ending) (Course.undisturbed_of_last rfl)
  obtain ⟨hIterations, hEndCount, hTold, hExists⟩ := h.2 hEnded
  refine ⟨(h.1 1 _ rfl).2.2 rfl, hIterations, hEndCount hCrash, fun occasion ↦ ?_⟩
  obtain ⟨account, summary, hFinish, hSummary⟩ := hExists hCrash rfl rfl occasion
  exact ⟨account, summary, hFinish, hSummary, (hTold occasion account summary hFinish hSummary).2⟩

end StorefrontLoad.Run
