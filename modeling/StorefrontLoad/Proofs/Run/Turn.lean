import StorefrontLoad.Proofs.Run.Conversation
import StorefrontLoad.Run.State

/-!
# What a step of an agent can be

An agent has twelve kinds of steps. Each of them is told here once, with its conditions and with all
that it changes in the agent and in what the history says of calls and requests, so that an
invariant of a run is a case for each kind.
-/

namespace StorefrontLoad.Run

open Storefront (Network)

variable {R V σ : Type}

/-! ## Kinds of steps -/

/-- An action that an agent has taken, and where. -/
structure Deed where
  agent : Nat
  stage : Stage
  iteration : Nat
  exchange : Exchange

/-- Whether an agent that came to this end has asked to be taken out of the run. -/
def Ending.isBail : Ending → Bool
  | failed trouble => trouble.isBail
  | _ => false

namespace Agent

/-- The phase of an agent that has just left its loop, or has no loop to enter. -/
def departure (plan : Plan R V) (index : Nat) (running : Bool) (a : Agent V) : Phase V :=
  match plan.hooks.teardown with
  | none => .ended running
  | some hook => .inHook (.teardown running) (hook (a.context plan index) a.value)

/-- The agent has been set up and holds the value. -/
def IsReady (plan : Plan R V) (a : Agent V) (value : V) : Prop :=
  (a.phase = .arriving ∧ plan.hooks.setup = none ∧ value = a.value) ∨
    a.phase = .inHook .setup (.done (value, .ok))

/-- What one step can be: the agent after it, the action it took and the world after it. -/
inductive Turn (plan : Plan R V) (network : Network σ) (index : Nat) (a : Agent V) (w : World σ) :
    Agent V → List Deed → World σ → Prop
  | act {stage : Stage} {action : Action} {next : action.Reply → Program (V × Ending)}
      {taken : Step σ action.Reply} (phase : a.phase = .inHook stage (.step action next))
      (performed : w.perform network (some index) action = some taken) :
      Turn plan network index a w
        { a with phase := .inHook stage (next taken.reply), busy := a.busy.add taken.elapsed }
        [⟨index, stage, a.iteration, ⟨action, taken.reply⟩⟩] taken.world
  /-- Enters its setup. -/
  | prepare {hook : AgentHook R V} {after : World σ} (phase : a.phase = .arriving)
      (setup : plan.hooks.setup = some hook) (world : w.Murmurs after) :
      Turn plan network index a w
        { a with phase := .inHook .setup (hook (a.context plan index) a.value) } [] after
  /-- Enters its loop. -/
  | start {value : V} {after : World σ} (ready : a.IsReady plan value)
      (behaviour : plan.hooks.behaviour.isSome) (world : w.Murmurs after) :
      Turn plan network index a w { a with phase := .deciding, value := value } [] after
  /-- Leaves after a setup that went wrong. -/
  | refuse {value : V} {ending : Ending} {phase : Phase V} {after : World σ}
      (was : a.phase = .inHook .setup (.done (value, ending))) (wrong : ending ≠ .ok)
      (phase_eq : phase = .ended false ∨ phase = .crashed) (world : w.Murmurs after) :
      Turn plan network index a w { a with phase := phase, value := value } [] after
  /-- Has no behaviour to call. -/
  | skip {value : V} {after : World σ}
      (ready : a.IsReady plan value ∨ a.phase = .cleared ∧ value = a.value)
      (behaviour : plan.hooks.behaviour = none) (world : w.Murmurs after) :
      Turn plan network index a w
        { a with
          phase := departure plan index true { a with value := value }
          value := value }
        [] after
  /-- Finds a reason to stop. -/
  | leave {after : World σ} (phase : a.phase = .deciding)
      (reason : a.hasMetQuota plan.config = true ∨ w.stopRequested = true)
      (world : w.Murmurs after) :
      Turn plan network index a w { a with phase := departure plan index true a } [] after
  /-- Finds no reason to stop. -/
  | clear (phase : a.phase = .deciding) (quota : a.hasMetQuota plan.config = false)
      (stop : w.stopRequested = false) :
      Turn plan network index a w { a with phase := .cleared } [] w
  /-- Begins an iteration. -/
  | call {hook : AgentHook R V} (phase : a.phase = .cleared)
      (behaviour : plan.hooks.behaviour = some hook) :
      Turn plan network index a w
        { a with phase := .inHook .behaviour (hook (a.context plan index) a.value) } []
        (w.note (.called (.behaviour index a.iteration)))
  /-- Comes out of its behaviour. -/
  | emerge {value : V} {ending : Ending}
      (phase : a.phase = .inHook .behaviour (.done (value, ending))) :
      Turn plan network index a w { a with phase := .accounting ending, value := value } [] w
  /-- Counts an iteration and goes on. -/
  | account {ending : Ending} {after : World σ} (phase : a.phase = .accounting ending)
      (stays : ending.isBail = false) (world : w.recordIteration.Murmurs after) :
      Turn plan network index a w { a with phase := .deciding, iteration := a.iteration + 1 } []
        after
  /-- Counts an iteration and bails out. -/
  | bail {ending : Ending} {after : World σ} (phase : a.phase = .accounting ending)
      (bails : ending.isBail = true) (world : w.recordIteration.Murmurs after) :
      Turn plan network index a w
        { a with
          phase := departure plan index false { a with iteration := a.iteration + 1 }
          iteration := a.iteration + 1 }
        [] after
  /-- Comes out of its teardown. -/
  | close {running : Bool} {value : V} {ending : Ending} {phase : Phase V} {after : World σ}
      (was : a.phase = .inHook (.teardown running) (.done (value, ending)))
      (phase_eq : phase = .ended running ∨ phase = .crashed) (world : w.Murmurs after) :
      Turn plan network index a w { a with phase := phase, value := value } [] after

/-! ## The functions a step is made of -/

theorem leave_fst (plan : Plan R V) (index : Nat) (running : Bool) (a : Agent V) (w : World σ) :
    (a.leave plan index running w).1 = { a with phase := departure plan index running a } := by
  unfold leave departure
  cases plan.hooks.teardown <;> rfl

theorem murmurs_leave (plan : Plan R V) (index : Nat) (running : Bool) (a : Agent V)
    (w : World σ) : w.Murmurs (a.leave plan index running w).2 := by
  unfold leave
  cases plan.hooks.teardown with
  | none => exact .refl w
  | some hook => exact .called rfl w

theorem turn_begin {plan : Plan R V} {network : Network σ} {index : Nat} {a : Agent V}
    {w : World σ} {value : V} (ready : a.IsReady plan value) :
    Turn plan network index a w (({ a with value := value } : Agent V).begin plan index w).1 []
      (({ a with value := value } : Agent V).begin plan index w).2 := by
  unfold begin
  split
  · next hSome => exact .start ready hSome (.log _ w)
  · next hNone =>
    rw [leave_fst]
    exact .skip (.inl ready) (by simpa using hNone) (murmurs_leave ..)

theorem turn_continueOrLeave {plan : Plan R V} {network : Network σ} {index : Nat} {a : Agent V}
    {w : World σ} (phase : a.phase = .deciding) :
    Turn plan network index a w (a.continueOrLeave plan index w).1 []
      (a.continueOrLeave plan index w).2 := by
  unfold continueOrLeave
  split
  · next hQuota =>
    rw [leave_fst]
    exact .leave phase (.inl hQuota) ((World.Murmurs.log _ w).trans (murmurs_leave ..))
  · next hQuota =>
    split
    · next hStop =>
      rw [leave_fst]
      exact .leave phase (.inr hStop) ((World.Murmurs.log _ w).trans (murmurs_leave ..))
    · next hStop => exact .clear phase (by simpa using hQuota) (by simpa using hStop)

theorem turn_account {plan : Plan R V} {network : Network σ} {index : Nat} {a : Agent V}
    {w : World σ} {ending : Ending} (phase : a.phase = .accounting ending) :
    Turn plan network index a w (a.account plan index ending w).1 []
      (a.account plan index ending w).2 := by
  unfold account
  cases ending with
  | ok => exact .account phase rfl (.refl _)
  | panicked message => exact .account phase rfl (.log _ _)
  | failed trouble =>
    simp only
    split
    · next hBail =>
      rw [leave_fst]
      exact .bail phase hBail ((World.Murmurs.log _ _).trans (murmurs_leave ..))
    · next hStays => exact .account phase (by simpa [Ending.isBail] using hStays) (.log _ _)

theorem turn_afterHook {plan : Plan R V} {network : Network σ} {index : Nat} {a : Agent V}
    {w : World σ} {stage : Stage} {value : V} {ending : Ending}
    (phase : a.phase = .inHook stage (.done (value, ending))) :
    Turn plan network index a w (afterHook plan index stage ending { a with value := value } w).1 []
      (afterHook plan index stage ending { a with value := value } w).2 := by
  unfold afterHook
  cases stage with
  | behaviour => exact .emerge phase
  | setup =>
    cases ending with
    | ok => exact turn_begin (.inr phase)
    | failed trouble => exact .refuse phase (by simp) (.inl rfl) (.log _ w)
    | panicked message => exact .refuse phase (by simp) (.inr rfl) (.refl w)
  | teardown running =>
    cases ending with
    | ok => exact .close phase (.inl rfl) (.refl w)
    | failed trouble => exact .close phase (.inl rfl) (.log _ w)
    | panicked message => exact .close phase (.inr rfl) (.refl w)

/-- The action an agent takes when it steps next. -/
def deeds (network : Network σ) (index : Nat) (a : Agent V) (w : World σ) : List Deed :=
  match a.phase with
  | .inHook stage (.step action _) =>
    match w.perform network (some index) action with
    | some taken => [⟨index, stage, a.iteration, ⟨action, taken.reply⟩⟩]
    | none => []
  | _ => []

/-- Every step is one of these. -/
theorem turn_of_step {plan : Plan R V} {network : Network σ} {index : Nat} {a after : Agent V}
    {w world : World σ} (h : a.step plan network index w = some (after, world)) :
    Turn plan network index a w after (a.deeds network index w) world := by
  obtain ⟨phase, iteration, value, busy⟩ := a
  cases phase with
  | arriving =>
    obtain ⟨rfl, rfl⟩ := Prod.mk.inj (Option.some.inj h)
    simp only [deeds]
    split
    · next hNone => exact turn_begin (.inl ⟨rfl, hNone, rfl⟩)
    · next hook hSome => exact .prepare rfl hSome (.called rfl w)
  | inHook stage rest =>
    cases rest with
    | step action next =>
      obtain ⟨taken, hTaken, hEq⟩ := Option.map_eq_some_iff.1 h
      obtain ⟨rfl, rfl⟩ := Prod.mk.inj hEq
      simp only [deeds, hTaken]
      exact .act rfl hTaken
    | done result =>
      obtain ⟨rfl, rfl⟩ := Prod.mk.inj (Option.some.inj h)
      exact turn_afterHook rfl
  | deciding =>
    obtain ⟨rfl, rfl⟩ := Prod.mk.inj (Option.some.inj h)
    exact turn_continueOrLeave rfl
  | cleared =>
    obtain ⟨rfl, rfl⟩ := Prod.mk.inj (Option.some.inj h)
    simp only [deeds]
    split
    · next hNone =>
      rw [leave_fst]
      exact .skip (.inr ⟨rfl, rfl⟩) hNone (murmurs_leave ..)
    · next hook hSome => exact .call rfl hSome
  | accounting ending =>
    obtain ⟨rfl, rfl⟩ := Prod.mk.inj (Option.some.inj h)
    exact turn_account rfl
  | ended running => cases h
  | crashed => cases h

/-- A request to stop is never taken back. -/
theorem Turn.stopRequested {plan : Plan R V} {network : Network σ} {index : Nat} {a after : Agent V}
    {w world : World σ} {new : List Deed} (turn : a.Turn plan network index w after new world)
    (h : w.stopRequested = true) : world.stopRequested = true := by
  cases turn with
  | act _ performed => exact (World.performs_of_perform performed).stopRequested h
  | prepare _ _ world | start _ _ world | refuse _ _ _ world | skip _ _ world | leave _ _ world
  | close _ _ world | account _ _ world | bail _ _ world => rwa [world.stopRequested]
  | clear | call | emerge => exact h

end Agent

end StorefrontLoad.Run
