import StorefrontLoad.Proofs.Run.LifeCycle
import Mathlib.Data.List.Shortlex

/-!
# A run returns

Nobody in a run waits for ever once it has been told to stop, nor when its agents have a quota and
hooks that do not wait for such a request. Then every beat of the conductor or of an agent leaves
less to do: fewer iterations to begin, a later part of the life of the agent or of the run, or less
of a hook. So the run returns whatever the order of the beats and whatever the hooks return, as long
as somebody who can go on does.
-/

namespace StorefrontLoad.Run

open Storefront (Network)

variable {R V σ : Type}

/-! ## Hooks that do not wait -/

/-- No action of the program waits for the run to be told to stop. -/
def Program.NeverWaits {α : Type} : Program α → Prop
  | done _ => True
  | step action next => action ≠ .awaitStop ∧ ∀ reply, (next reply).NeverWaits

/-- A hook that does not wait, if it is there. -/
def AgentHook.NeverWaits (hook? : Option (AgentHook R V)) : Prop :=
  ∀ hook, hook? = some hook → ∀ context value, (hook context value).NeverWaits

structure AgentHooks.NeverWait (hooks : AgentHooks R V) : Prop where
  setup : AgentHook.NeverWaits hooks.setup
  behaviour : AgentHook.NeverWaits hooks.behaviour
  teardown : AgentHook.NeverWaits hooks.teardown

namespace Agent

/-- The agent will not wait before the end of the hook it is in. -/
def NeverWaits (a : Agent V) : Prop :=
  ∀ stage rest, a.phase = .inHook stage rest → rest.NeverWaits

theorem NeverWaits.awaitsStop {a : Agent V} (h : a.NeverWaits) : a.awaitsStop = false := by
  unfold Agent.awaitsStop
  split
  · next hPhase => exact absurd rfl (h _ _ hPhase).1
  · rfl

section Steps

variable {plan : Plan R V} {network : Network σ} {index : Nat} {a after : Agent V}
  {w world : World σ}

theorem neverWaits_departure {running : Bool} {b : Agent V} (hHooks : plan.hooks.NeverWait)
    (h : after.phase = departure plan index running b) : after.NeverWaits := by
  intro stage rest hPhase
  rw [h] at hPhase
  unfold departure at hPhase
  split at hPhase
  · cases hPhase
  · next hook hTeardown =>
    cases hPhase
    exact hHooks.teardown hook hTeardown _ _

theorem Turn.neverWaits {new : List Deed} (turn : a.Turn plan network index w after new world)
    (hHooks : plan.hooks.NeverWait) (h : a.NeverWaits) : after.NeverWaits := by
  cases turn with
  | act phase performed =>
    rintro _ _ ⟨⟩
    exact (h _ _ phase).2 _
  | prepare phase setup world =>
    rintro _ _ ⟨⟩
    exact hHooks.setup _ setup _ _
  | call phase behaviour =>
    rintro _ _ ⟨⟩
    exact hHooks.behaviour _ behaviour _ _
  | skip | leave | bail => exact neverWaits_departure hHooks rfl
  | refuse was wrong phase_eq world =>
    rcases phase_eq with rfl | rfl <;> rintro _ _ ⟨⟩
  | close was phase_eq world =>
    rcases phase_eq with rfl | rfl <;> rintro _ _ ⟨⟩
  | start | clear | emerge | account => rintro _ _ ⟨⟩

end Steps

end Agent

/-! ## What is left to do -/

namespace Program

/-- One action of a program less is left. -/
inductive Shorter {α : Type} : Option (Program α) → Option (Program α) → Prop
  | action {action : Action} {next : action.Reply → Program α} (reply : action.Reply) :
    Shorter (some (next reply)) (some (step action next))

theorem wellFounded_shorter {α : Type} : WellFounded (@Shorter α) := by
  have hNone : Acc (@Shorter α) none := .intro _ fun _ h ↦ nomatch h
  refine ⟨fun rest ↦ ?_⟩
  cases rest with
  | none => exact hNone
  | some p =>
    induction p with
    | done a => exact .intro _ fun _ h ↦ nomatch h
    | step action next ih =>
      refine .intro _ fun rest h ↦ ?_
      cases h with
      | action reply => exact ih reply

end Program

/-- How many agents are to be joined or iterations to be begun, the part of the run or of the life
of an agent, counted from its end, and what is left of the hook in it. -/
abbrev Left (α : Type) := Nat × Nat × Option (Program α)

namespace Left

def Less {α : Type} : Left α → Left α → Prop :=
  Prod.Lex (· < ·) (Prod.Lex (· < ·) Program.Shorter)

theorem wellFounded_less {α : Type} : WellFounded (@Less α) :=
  Nat.lt_wfRel.wf.prod_lex (Nat.lt_wfRel.wf.prod_lex Program.wellFounded_shorter)

variable {α : Type} {x y : Left α}

theorem less_of_fewer (h : x.1 < y.1) : x.Less y := Prod.lex_def.2 (.inl h)

theorem less_of_later (hNoMore : x.1 ≤ y.1) (h : x.2.1 < y.2.1) : x.Less y := by
  rcases hNoMore.lt_or_eq with hFewer | hSame
  · exact less_of_fewer hFewer
  · exact Prod.lex_def.2 (.inr ⟨hSame, Prod.lex_def.2 (.inl h)⟩)

end Left

theorem shortlex_set {α : Type} {r : α → α → Prop} {list : List α} {index : Nat} {old new : α}
    (found : list[index]? = some old) (h : r new old) :
    List.Shortlex r (list.set index new) list := by
  refine .of_lex List.length_set ?_
  induction list generalizing index with
  | nil => cases found
  | cons head rest ih =>
    cases index with
    | zero =>
      cases found
      exact .rel h
    | succ index => exact .cons (ih found)

namespace Agent

/-- A quota matters only to a run that has one. -/
def left (quota : Nat) (a : Agent V) : Left (V × Ending) :=
  match a.phase with
  | .arriving => (quota - a.iteration, 7, none)
  | .inHook .setup rest => (quota - a.iteration, 6, some rest)
  | .cleared => (quota - (a.iteration + 1), 5, none)
  | .inHook .behaviour rest => (quota - (a.iteration + 1), 4, some rest)
  | .accounting _ => (quota - (a.iteration + 1), 3, none)
  | .deciding => (quota - a.iteration, 2, none)
  | .inHook (.teardown _) rest => (0, 1, some rest)
  | .ended _ | .crashed => (0, 0, none)

section Steps

variable {plan : Plan R V} {network : Network σ} {index quota : Nat} {a after : Agent V}
  {w world : World σ}

theorem less_departure {running : Bool} {b : Agent V}
    (h : after.phase = departure plan index running b) (hLater : 1 < (a.left quota).2.1) :
    (after.left quota).Less (a.left quota) := by
  have hEnd : (after.left quota).1 = 0 ∧ (after.left quota).2.1 ≤ 1 := by
    unfold departure at h
    unfold left
    split at h <;> simp [h]
  exact Left.less_of_later (hEnd.1 ▸ Nat.zero_le _) (hEnd.2.trans_lt hLater)

theorem left_of_isReady (quota : Nat) {value : V} (ready : a.IsReady plan value) :
    (a.left quota).1 = quota - a.iteration ∧ 5 < (a.left quota).2.1 := by
  unfold left
  rcases ready with ⟨hPhase, _⟩ | hPhase <;> simp [hPhase]

/-- An agent has less to do after each of its steps, unless it goes on without a quota in a run that
has not been told to stop. -/
theorem Turn.less {new : List Deed} (turn : a.Turn plan network index w after new world)
    (hEnds : w.stopRequested = true ∨ plan.config.stopCondition = .iterations quota) :
    (after.left quota).Less (a.left quota) := by
  cases turn with
  | @act stage action next taken phase performed =>
    -- the part of its life stays the same, and the hook in it gets shorter
    simp only [left, phase]
    cases stage <;> exact .right _ (.right _ (.action taken.reply))
  | clear phase unmet stop =>
    rcases hEnds with hStop | hQuota
    · rw [hStop] at stop
      cases stop
    · have hMore : a.iteration < quota := by simpa [hasMetQuota, hQuota] using unmet
      refine Left.less_of_fewer ?_
      simp only [left, phase]
      omega
  | start ready behaviour world =>
    obtain ⟨hIterations, hPart⟩ := left_of_isReady quota ready
    exact Left.less_of_later hIterations.ge ((by decide : 2 < 5).trans hPart)
  | skip ready behaviour world =>
    refine less_departure rfl ?_
    rcases ready with ready | ⟨phase, _⟩
    · exact (by decide : 1 < 5).trans (left_of_isReady quota ready).2
    · simp [left, phase]
  | leave phase | bail phase =>
    refine less_departure rfl ?_
    simp [left, phase]
  | refuse was wrong phase_eq world =>
    rcases phase_eq with rfl | rfl <;>
      exact Left.less_of_later (Nat.zero_le _) (by simp [left, was])
  | close was phase_eq world =>
    rcases phase_eq with rfl | rfl <;>
      exact Left.less_of_later (Nat.zero_le _) (by simp [left, was])
  | prepare phase | call phase | emerge phase | account phase =>
    exact Left.less_of_later (by simp [left, phase]) (by simp [left, phase])

end Steps

end Agent

/-! ## Nobody waits -/

theorem World.isSome_perform {network : Network σ} {agent : Option Nat} {w : World σ}
    {action : Action} (h : w.stopRequested = true ∨ action ≠ .awaitStop) :
    (w.perform network agent action).isSome := by
  cases action with
  | awaitStop =>
    have hStop := h.resolve_right (fun hWaits ↦ hWaits rfl)
    simp [World.perform, hStop]
  | post | record | log | pause | requestStop | isStopRequested | readOutcome => rfl

theorem Agent.isSome_step {plan : Plan R V} {network : Network σ} {index : Nat} {a : Agent V}
    {w : World σ} (h : w.stopRequested = true ∨ a.awaitsStop = false)
    (hMoves : a.hasEnded = false) : (a.step plan network index w).isSome := by
  unfold Agent.step
  unfold Agent.hasEnded at hMoves
  split
  · rfl
  · next hPhase =>
    rw [Option.isSome_map]
    refine World.isSome_perform (h.imp_right ?_)
    rintro hWaits rfl
    simp [Agent.awaitsStop, hPhase] at hWaits
  · rfl
  · rfl
  · rfl
  · rfl
  · next hPhase => simp [hPhase] at hMoves
  · next hPhase => simp [hPhase] at hMoves

theorem Agent.step_of_hasEnded {plan : Plan R V} {network : Network σ} {index : Nat} {a : Agent V}
    {w : World σ} (hEnded : a.hasEnded = true) : a.step plan network index w = none := by
  rcases Agent.phase_of_hasEnded hEnded with ⟨running, hPhase⟩ | hPhase
  · simp [Agent.step, hPhase]
  · simp [Agent.step, hPhase]

/-! ## The run as a whole -/

/-- Of the joins, only those to come count. -/
def Conductor.left (agents : Nat) : Conductor R → Left (R × Ending)
  | building | inHook .before _ _ => (agents, 5, none)
  | joining _ _ agent => (agents - agent, 4, none)
  | inHook .after _ rest => (0, 3, some rest)
  | reporting _ _ => (0, 2, none)
  | storing _ _ _ => (0, 1, none)
  | returned _ _ => (0, 0, none)

/-- Somebody goes on, which a request to stop is not. -/
def Beat.goesOn : Beat → Bool
  | stop _ => false
  | _ => true

namespace Performance

def HasReturned (p : Performance σ R V) : Prop :=
  ∃ conclusion shared, p.conductor = .returned conclusion shared

/-- What is left to do for the conductor and for each agent. -/
def left (quota : Nat) (p : Performance σ R V) :
    Left (R × Ending) × List (Left (V × Ending)) :=
  (p.conductor.left p.state.agents.size, p.state.agents.toList.map (Agent.left quota))

/-- Less is left for the conductor, or less for an agent and no more for the conductor. -/
def Less (quota : Nat) (next p : Performance σ R V) : Prop :=
  Prod.Lex Left.Less (List.Shortlex Left.Less) (next.left quota) (p.left quota)

theorem wellFounded_less (quota : Nat) : WellFounded (@Less R V σ quota) :=
  InvImage.wf (left quota)
    (Left.wellFounded_less.prod_lex (List.Shortlex.wf Left.wellFounded_less))

variable {setting : Setting σ R V} {trace : List Occurrence} {p next : Performance σ R V}

/-- What a beat of the conductor does once the agents are in. -/
structure Advances (p next : Performance σ R V) : Prop where
  plan : next.plan = p.plan
  agents : next.state.agents = p.state.agents
  stopped : p.state.world.stopRequested = true → next.state.world.stopRequested = true
  less : (next.conductor.left p.state.agents.size).Less (p.conductor.left p.state.agents.size)

theorem advances_dismiss {resolved : ResolvedScenario} {shared : R} {agent : Nat}
    (hConductor : p.conductor = .joining resolved shared agent) :
    Advances p (p.dismiss setting resolved shared) := by
  unfold Performance.dismiss
  cases setting.hooks.teardown with
  | none =>
    refine ⟨rfl, rfl, fun _ ↦ rfl, Left.less_of_later (Nat.zero_le _) ?_⟩
    simp [hConductor, turnTo, Conductor.left]
  | some hook =>
    refine ⟨rfl, rfl, fun _ ↦ rfl, Left.less_of_later (Nat.zero_le _) ?_⟩
    simp [hConductor, enter, turnTo, Conductor.left]

theorem advances_join {resolved : ResolvedScenario} {shared : R} {agent : Nat}
    (hConductor : p.conductor = .joining resolved shared agent)
    (hNext : p.join setting resolved shared agent = some next) : Advances p next := by
  unfold Performance.join at hNext
  split at hNext
  · cases hNext
    exact advances_dismiss hConductor
  · next a found =>
    have hThere := (Array.getElem?_eq_some_iff.1 found).1
    split at hNext
    · cases hNext
      refine ⟨rfl, rfl, id, Left.less_of_fewer ?_⟩
      simp only [hConductor, turnTo, Conductor.left]
      omega
    · cases hNext
      refine ⟨rfl, rfl, id, Left.less_of_later (Nat.zero_le _) ?_⟩
      simp [hConductor, conclude, Conductor.left]
    · cases hNext

theorem stopRequested_store (summary : RunSummary) (path : Option String) (disk : Disk)
    (w : World σ) : (Run.store summary path disk w).2.2.stopRequested = w.stopRequested := by
  unfold Run.store
  split
  · rfl
  · split <;> rfl

theorem advances_afterTeardown {resolved : ResolvedScenario} {shared : R} {ending : Ending}
    (hConductor : p.conductor = .inHook .after resolved (.done (shared, ending))) :
    Advances p (p.afterHook setting .after resolved shared ending) := by
  have hLines := World.murmurs_logAll (teardownLines ending) p.state.world
  cases ending with
  | panicked message =>
    refine ⟨rfl, rfl, id, Left.less_of_later (Nat.zero_le _) ?_⟩
    simp [hConductor, Performance.afterHook, conclude, Conductor.left]
  | ok | failed =>
    refine ⟨rfl, rfl, hLines.stopRequested.trans, Left.less_of_later (Nat.zero_le _) ?_⟩
    simp [hConductor, Performance.afterHook, turnTo, Conductor.left]

theorem Sound.advances (h : Sound setting trace p) (letIn : p.plan.isSome)
    (hNext : p.conduct setting = some next) : Advances p next := by
  have hPlace := h.place
  have hThere : ¬ p.IsEmpty := by
    intro hEmpty
    rw [hEmpty.plan] at letIn
    cases letIn
  unfold Performance.conduct at hNext
  split at hNext
  · next hConductor =>
    simp only [Place, hConductor] at hPlace
    exact absurd hPlace.1 hThere
  · next side resolved action program hConductor =>
    cases side with
    | before =>
      simp only [Place, hConductor] at hPlace
      exact absurd hPlace.1 hThere
    | after =>
      obtain ⟨taken, hTaken, rfl⟩ := Option.map_eq_some_iff.1 hNext
      refine ⟨rfl, rfl, (World.performs_of_perform hTaken).stopRequested, ?_⟩
      simp only [hConductor, turnTo, Conductor.left]
      exact .right _ (.right _ (.action taken.reply))
  · next side resolved shared ending hConductor =>
    cases side with
    | before =>
      simp only [Place, hConductor] at hPlace
      exact absurd hPlace.1 hThere
    | after =>
      cases hNext
      exact advances_afterTeardown hConductor
  · next hConductor => exact advances_join hConductor hNext
  · next resolved shared hConductor =>
    cases hNext
    have hFrame := frame_report resolved.reporter p.state.world.counters.snapshot p.state.world
    refine ⟨rfl, rfl, hFrame.2.trans, Left.less_of_later (Nat.zero_le _) ?_⟩
    simp [hConductor, Performance.report, turnTo, Conductor.left]
  · next resolved shared summary hConductor =>
    cases hNext
    have hStop := stopRequested_store summary resolved.summaryFile p.disk p.state.world
    refine ⟨rfl, rfl, hStop.trans, Left.less_of_later (Nat.zero_le _) ?_⟩
    simp [hConductor, Performance.store, turnTo, Conductor.left]
  · cases hNext

/-- Why the agents come to their ends. -/
inductive WillEnd (plan : Plan R V) (quota : Nat) (p : Performance σ R V) : Prop
  | stopped (stop : p.state.world.stopRequested = true)
  | ended (all : p.state.hasEnded = true)
  | quota (quota_eq : plan.config.stopCondition = .iterations quota)
      (hooks : plan.hooks.NeverWait) (agents : ∀ a ∈ p.state.agents, a.NeverWaits)

/-- The agents have been let in, and will come to their ends. -/
structure IsClosing (setting : Setting σ R V) (plan : Plan R V) (quota : Nat)
    (p : Performance σ R V) : Prop where
  sound : ∃ trace, Sound setting trace p
  agents : p.WillEnd plan quota
  plan : p.plan = some plan

section Closing

variable {plan : Plan R V} {quota : Nat}

theorem IsClosing.conduct (h : IsClosing setting plan quota p)
    (hNext : p.conduct setting = some next) :
    IsClosing setting plan quota next ∧ next.Less quota p := by
  obtain ⟨trace, hSound⟩ := h.sound
  have hAdvances := hSound.advances (by rw [h.plan]; rfl) hNext
  refine ⟨⟨⟨_, hSound.conduct hNext⟩, ?_, hAdvances.plan.trans h.plan⟩, ?_⟩
  · cases h.agents with
    | stopped stop => exact .stopped (hAdvances.stopped stop)
    | ended all =>
      refine .ended ?_
      rwa [State.hasEnded, hAdvances.agents]
    | quota quota_eq hooks agents =>
      refine .quota quota_eq hooks ?_
      rwa [hAdvances.agents]
  · unfold Less left
    rw [hAdvances.agents]
    exact .left _ _ hAdvances.less

theorem IsClosing.agent (h : IsClosing setting plan quota p) {index : Nat}
    (hNext : p.apply setting (.agent index) = some next) :
    IsClosing setting plan quota next ∧ next.Less quota p := by
  obtain ⟨trace, hSound⟩ := h.sound
  have hSoundNext := hSound.agent hNext
  obtain ⟨_, hPlan, hApplied⟩ := Option.bind_eq_some_iff.1 hNext
  obtain rfl := Option.some.inj (h.plan.symm.trans hPlan)
  obtain ⟨s, hState, rfl⟩ := Option.map_eq_some_iff.1 hApplied
  simp only [State.apply] at hState
  split at hState
  · cases hState
  · next a found =>
    split at hState
    · cases hState
    · next after world hStep =>
      cases hState
      have hTurn := Agent.turn_of_step hStep
      have hFound : (p.state.agents.toList.map (Agent.left quota))[index]? =
          some (a.left quota) := by
        rw [List.getElem?_map, Array.getElem?_toList, found, Option.map_some]
      have hLess (hEnds : p.state.world.stopRequested = true ∨
          plan.config.stopCondition = .iterations quota) :
          Less quota { p with state := ⟨p.state.agents.setIfInBounds index after, world⟩ } p := by
        unfold Less left
        rw [Array.size_setIfInBounds, Array.toList_setIfInBounds, List.map_set]
        exact .right _ (shortlex_set hFound (hTurn.less hEnds))
      cases h.agents with
      | stopped stop =>
        exact ⟨⟨⟨_, hSoundNext⟩, .stopped (hTurn.stopRequested stop), hPlan⟩, hLess (.inl stop)⟩
      | ended all =>
        rw [Agent.step_of_hasEnded (State.agent_hasEnded all found)] at hStep
        cases hStep
      | quota quota_eq hooks agents =>
        refine ⟨⟨⟨_, hSoundNext⟩, .quota quota_eq hooks ?_, hPlan⟩, hLess (.inr quota_eq)⟩
        intro b hMem
        rcases Array.mem_or_eq_of_mem_setIfInBounds hMem with hThere | rfl
        · exact agents b hThere
        · exact hTurn.neverWaits hooks (agents a (Array.mem_of_getElem? found))

theorem IsClosing.goesOn (h : IsClosing setting plan quota p) {beat : Beat}
    (hGoes : beat.goesOn = true) (hNext : p.apply setting beat = some next) :
    IsClosing setting plan quota next ∧ next.Less quota p := by
  cases beat with
  | conductor => exact h.conduct hNext
  | agent index => exact h.agent hNext
  | stop reason => cases hGoes

/-- Requests to stop neither add to what is left nor take from it. -/
theorem IsClosing.stops (h : IsClosing setting plan quota p) {reasons : List LogLine}
    (hNext : p.applyAll setting (reasons.map .stop) = some next) :
    IsClosing setting plan quota next ∧ next.left quota = p.left quota := by
  induction reasons generalizing p with
  | nil =>
    cases hNext
    exact ⟨h, rfl⟩
  | cons reason reasons ih =>
    obtain ⟨trace, hSound⟩ := h.sound
    obtain ⟨stopped, hStopped, hRest⟩ := Option.bind_eq_some_iff.1 hNext
    cases hStopped
    have hStill : IsClosing setting plan quota
        (p.turnTo p.conductor (p.state.world.log reason).requestStop) :=
      ⟨⟨_, hSound.stop reason⟩, .stopped rfl, h.plan⟩
    have hLast := ih hStill hRest
    exact hLast

/-- Once all agents have come to their ends, the conductor does not wait. -/
theorem Sound.possible (h : Sound setting trace p) (letIn : p.plan.isSome)
    (hEnded : p.state.hasEnded = true) (hReturned : ¬ p.HasReturned) :
    (p.conduct setting).isSome := by
  have hPlace := h.place
  unfold Performance.conduct
  split
  · rfl
  · next side resolved action program hConductor =>
    cases side with
    | before =>
      simp only [Place, hConductor] at hPlace
      rw [hPlace.1.plan] at letIn
      cases letIn
    | after =>
      simp only [Place, hConductor] at hPlace
      rw [Option.isSome_map]
      exact World.isSome_perform (.inl hPlace.2.1.stopped)
  · rfl
  · unfold Performance.join
    split
    · rfl
    · next a found =>
      have hEnd := State.agent_hasEnded hEnded found
      rcases Agent.phase_of_hasEnded hEnd with ⟨running, hPhase⟩ | hPhase
      · simp [hPhase]
      · simp [hPhase]
  · rfl
  · rfl
  · next hConductor => exact absurd ⟨_, _, hConductor⟩ hReturned

/-- As long as the run has not returned, the conductor or an agent can go on. -/
theorem IsClosing.possible (h : IsClosing setting plan quota p) (hReturned : ¬ p.HasReturned) :
    ∃ beat : Beat, beat.goesOn = true ∧ (p.apply setting beat).isSome := by
  obtain ⟨trace, hSound⟩ := h.sound
  by_cases hEnded : p.state.hasEnded = true
  · exact ⟨.conductor, rfl, hSound.possible (by rw [h.plan]; rfl) hEnded hReturned⟩
  · have hAwake : ∀ a ∈ p.state.agents, p.state.world.stopRequested = true ∨
        a.awaitsStop = false := by
      intro a hMem
      cases h.agents with
      | stopped stop => exact .inl stop
      | ended all => exact absurd all hEnded
      | quota quota_eq hooks agents => exact .inr (agents a hMem).awaitsStop
    rw [State.hasEnded, Array.all_eq_true] at hEnded
    push Not at hEnded
    obtain ⟨index, hThere, hMoves⟩ := hEnded
    have found := Array.getElem?_eq_getElem hThere
    have hStep : (p.state.agents[index].step plan setting.network index p.state.world).isSome :=
      Agent.isSome_step (hAwake _ (Array.getElem_mem hThere)) (by simpa using hMoves)
    obtain ⟨⟨after, world⟩, hAfter⟩ := Option.isSome_iff_exists.1 hStep
    refine ⟨.agent index, rfl, ?_⟩
    simp [apply, h.plan, State.apply, found, hAfter]

/-! ## To the end -/

/-- It comes to the goal whatever happens, as long as somebody who can go on does; the run may be
told to stop at any time. -/
inductive Inevitably (setting : Setting σ R V) (Goal : Performance σ R V → Prop) :
    Performance σ R V → Prop
  | now {p : Performance σ R V} (reached : Goal p) : Inevitably setting Goal p
  | later {p : Performance σ R V}
      (possible : ∃ beat : Beat, beat.goesOn = true ∧ (p.apply setting beat).isSome)
      (always : ∀ (reasons : List LogLine) (beat : Beat) (next : Performance σ R V),
        beat.goesOn = true → p.applyAll setting (reasons.map .stop ++ [beat]) = some next →
          Inevitably setting Goal next) : Inevitably setting Goal p

/-- A run whose agents will come to their ends returns. -/
theorem IsClosing.inevitably_hasReturned (h : IsClosing setting plan quota p) :
    Inevitably setting HasReturned p := by
  induction p using (wellFounded_less quota).induction with
  | _ p ih =>
    by_cases hReturned : p.HasReturned
    · exact .now hReturned
    · refine .later (h.possible hReturned) fun reasons beat next hGoes hNext ↦ ?_
      rw [applyAll_append, Option.bind_eq_some_iff] at hNext
      obtain ⟨stopped, hStops, hBeat⟩ := hNext
      obtain ⟨hStill, hLeft⟩ := h.stops hStops
      have hApplied : stopped.apply setting beat = some next := by simpa [applyAll] using hBeat
      obtain ⟨hClosing, hLess⟩ := hStill.goesOn hGoes hApplied
      rw [Less, hLeft] at hLess
      exact ih next hLess hClosing

/-! ## Who is let in -/

/-- The agents are as many as the scenario asks for, and none of them waits unless its hooks do. -/
structure IsCast (setting : Setting σ R V) (plan : Plan R V) (p : Performance σ R V) : Prop where
  built : ∃ resolved, setting.definition.build = .ok resolved ∧
    plan.config = resolved.config ∧ p.state.agents.size = resolved.config.concurrency
  awake : setting.hooks.agent.NeverWait → ∀ a ∈ p.state.agents, a.NeverWaits

theorem isCast_start {resolved : ResolvedScenario} (shared : R)
    (hBuilt : setting.definition.build = .ok resolved)
    (hPlan : (p.start setting resolved shared).plan = some plan) :
    IsCast setting plan (p.start setting resolved shared) := by
  cases hPlan
  refine ⟨⟨resolved, hBuilt, rfl, Array.size_replicate⟩, fun _ a hMem ↦ ?_⟩
  rintro stage rest hPhase
  rw [(Array.mem_replicate.1 hMem).2] at hPhase
  cases hPhase

/-- Only the build and the end of the setup let agents in. -/
theorem Sound.isCast (h : Sound setting trace p) (hNobody : p.plan = none)
    (hNext : p.conduct setting = some next) (hPlan : next.plan = some plan) :
    IsCast setting plan next := by
  have hPlace := h.place
  have hStill : next.plan ≠ p.plan := by simp [hPlan, hNobody]
  unfold Performance.conduct at hNext
  split at hNext
  · cases hNext
    unfold Performance.build at hPlan hStill ⊢
    split at hPlan
    · exact absurd hPlan (by simp [conclude, hNobody])
    · next resolved hBuilt =>
      cases hSetup : setting.hooks.setup with
      | none =>
        simp only [hSetup] at hPlan ⊢
        exact isCast_start _ hBuilt hPlan
      | some hook =>
        simp only [hSetup] at hPlan
        exact absurd hPlan (by simp [enter, turnTo, hNobody])
  · obtain ⟨taken, hTaken, rfl⟩ := Option.map_eq_some_iff.1 hNext
    exact absurd rfl hStill
  · next side resolved shared ending hConductor =>
    cases hNext
    unfold Performance.afterHook at hPlan hStill ⊢
    split at hPlan
    · exact absurd hPlan (by simp [conclude, hNobody])
    · exact absurd hPlan (by simp [conclude, hNobody])
    · simp only [Place, hConductor] at hPlace
      exact isCast_start _ hPlace.2.2.1 hPlan
    · exact absurd hPlan (by simp [turnTo, hNobody])
  · next hConductor => exact absurd (advances_join hConductor hNext).plan hStill
  · cases hNext
    exact absurd rfl hStill
  · cases hNext
    exact absurd rfl hStill
  · cases hNext

theorem IsCast.agent (h : IsCast setting plan p) (hHooks : plan.hooks = setting.hooks.agent)
    {index : Nat} {s : State σ V}
    (hState : p.state.apply plan setting.network (.agent index) = some s) :
    IsCast setting plan { p with state := s } := by
  simp only [State.apply] at hState
  split at hState
  · cases hState
  · next a found =>
    split at hState
    · cases hState
    · next after world hStep =>
      cases hState
      obtain ⟨resolved, hBuilt, hConfig, hSize⟩ := h.built
      refine ⟨⟨resolved, hBuilt, hConfig, ?_⟩, fun hNever b hMem ↦ ?_⟩
      · rwa [Array.size_setIfInBounds]
      · rcases Array.mem_or_eq_of_mem_setIfInBounds hMem with hThere | rfl
        · exact h.awake hNever b hThere
        · have hAwake := h.awake hNever a (Array.mem_of_getElem? found)
          exact (Agent.turn_of_step hStep).neverWaits (hHooks ▸ hNever) hAwake

theorem Comes.isCast (h : Comes setting trace p) (hPlan : p.plan = some plan) :
    IsCast setting plan p := by
  induction h with
  | initial => cases hPlan
  | @beat trace p next beat before applied ih =>
    have hSound := before.sound
    cases beat with
    | conductor =>
      cases hNow : p.plan with
      | none => exact hSound.isCast hNow applied hPlan
      | some now =>
        have hAdvances := hSound.advances (by rw [hNow]; rfl) applied
        have hCast := ih (hAdvances.plan.symm.trans hPlan)
        refine ⟨?_, ?_⟩
        · rw [hAdvances.agents]
          exact hCast.built
        · rw [hAdvances.agents]
          exact hCast.awake
    | agent index =>
      obtain ⟨now, hNow, hApplied⟩ := Option.bind_eq_some_iff.1 applied
      obtain ⟨s, hState, rfl⟩ := Option.map_eq_some_iff.1 hApplied
      obtain rfl := Option.some.inj (hNow.symm.trans hPlan)
      exact (ih hNow).agent (hSound.plan _ hNow) hState
    | stop reason =>
      cases applied
      obtain ⟨hBuilt, hAwake⟩ := ih hPlan
      exact ⟨hBuilt, hAwake⟩

/-- A run with its agents in returns if it has been told to stop, if its agents have come to their
ends, or if they have a quota and do not wait to be told to stop. -/
theorem Comes.inevitably_hasReturned (h : Comes setting trace p) (letIn : p.plan.isSome)
    {resolved : ResolvedScenario} (hBuilt : setting.definition.build = .ok resolved)
    (hEnds : p.state.world.stopRequested = true ∨ p.state.hasEnded = true ∨
      ((∃ count, resolved.config.stopCondition = .iterations count) ∧
        setting.hooks.agent.NeverWait)) : Inevitably setting HasReturned p := by
  obtain ⟨plan, hPlan⟩ := Option.isSome_iff_exists.1 letIn
  have hCast := h.isCast hPlan
  have hSound := h.sound
  rcases hEnds with hStop | hEnded | ⟨⟨count, hQuota⟩, hNever⟩
  · have hClosing : IsClosing setting plan 0 p := ⟨⟨trace, hSound⟩, .stopped hStop, hPlan⟩
    exact hClosing.inevitably_hasReturned
  · have hClosing : IsClosing setting plan 0 p := ⟨⟨trace, hSound⟩, .ended hEnded, hPlan⟩
    exact hClosing.inevitably_hasReturned
  · obtain ⟨built, hThis, hConfig, _⟩ := hCast.built
    obtain rfl := Except.ok.inj (hThis.symm.trans hBuilt)
    have hWillEnd : p.WillEnd plan count :=
      .quota (hConfig ▸ hQuota) (hSound.plan plan hPlan ▸ hNever) (hCast.awake hNever)
    have hClosing : IsClosing setting plan count p := ⟨⟨trace, hSound⟩, hWillEnd, hPlan⟩
    exact hClosing.inevitably_hasReturned

end Closing

end Performance

end StorefrontLoad.Run
