import StorefrontLoad.Run.Execution

/-!
# Performances

A run and its agents move side by side. The conductor builds the scenario, calls its setup hook,
lets the agents in and joins them in the order of their indices. An agent that crashed ends the run
as soon as it is joined, whatever the agents behind it are doing. After the last join everybody is
told to stop, and the teardown hook, the report and the summary follow. In which order conductor,
agents and requests to stop take their beats is left open.
-/

namespace StorefrontLoad.Run

open Storefront (Network)

/-- Everything that a run is given. -/
structure Setting (σ R V : Type) where
  network : Network σ
  /-- The network at the start. -/
  state : σ
  occasion : Occasion
  hooks : Hooks R V
  definition : ScenarioDefinition

/-- A scenario calls hooks of its own before and after its agents. -/
inductive Side
  | before
  | after
  deriving DecidableEq, Repr

def Side.hook : Side → Hook
  | before => .setup
  | after => .teardown

/-- Where the run itself is. -/
inductive Conductor (R : Type)
  | building
  | inHook (side : Side) (resolved : ResolvedScenario) (rest : Program (R × Ending))
  /-- Waits for this agent; all before it have been joined. -/
  | joining (resolved : ResolvedScenario) (shared : R) (agent : Nat)
  | reporting (resolved : ResolvedScenario) (shared : R)
  | storing (resolved : ResolvedScenario) (shared : R) (summary : RunSummary)
  | returned (conclusion : Conclusion) (shared : R)

structure Performance (σ R V : Type) where
  conductor : Conductor R
  /-- What the agents go by, once they have been let in. -/
  plan : Option (Plan R V)
  state : State σ V
  disk : Disk

inductive Beat
  | conductor
  | agent (index : Nat)
  /-- Somebody tells the run to stop, and logs why. -/
  | stop (reason : LogLine)
  deriving DecidableEq, Repr

namespace Performance

variable {σ R V : Type}

def initial (setting : Setting σ R V) : Performance σ R V :=
  ⟨.building, none, ⟨#[], .fresh setting.state⟩, setting.occasion.disk⟩

/-! ## Beats of the conductor -/

/-- The agents stay as they are. -/
def turnTo (conductor : Conductor R) (world : World σ) (p : Performance σ R V) :
    Performance σ R V :=
  { p with conductor := conductor, state := { p.state with world := world } }

def conclude (conclusion : Conclusion) (shared : R) (p : Performance σ R V) : Performance σ R V :=
  { p with conductor := .returned conclusion shared }

/-- Enters a hook of the scenario. -/
def enter (side : Side) (resolved : ResolvedScenario) (rest : Program (R × Ending))
    (p : Performance σ R V) : Performance σ R V :=
  p.turnTo (.inHook side resolved rest) (p.state.world.note (.called side.hook))

/-- Lets the agents in. -/
def start (setting : Setting σ R V) (resolved : ResolvedScenario) (shared : R)
    (p : Performance σ R V) : Performance σ R V :=
  { p with
    conductor := .joining resolved shared 0
    plan := some ⟨resolved.config, shared, setting.hooks.agent⟩
    state := .initial resolved.config setting.hooks.own p.state.world }

def build (setting : Setting σ R V) (p : Performance σ R V) : Performance σ R V :=
  match setting.definition.build with
  | .error e => p.conclude (.failed e.trouble) setting.hooks.shared
  | .ok resolved =>
    let p := p.turnTo .building (p.state.world.logAll (opening setting.hooks resolved))
    match setting.hooks.setup with
    | none => p.start setting resolved setting.hooks.shared
    | some hook => p.enter .before resolved (hook resolved.config setting.hooks.shared)

/-- Goes on after the last join. -/
def dismiss (setting : Setting σ R V) (resolved : ResolvedScenario) (shared : R)
    (p : Performance σ R V) : Performance σ R V :=
  let p := p.turnTo (.reporting resolved shared) p.state.world.requestStop
  match setting.hooks.teardown with
  | none => p
  | some hook => p.enter .after resolved (hook resolved.config shared)

/-- Joins an agent; `none` as long as it has not come to its end. -/
def join (setting : Setting σ R V) (resolved : ResolvedScenario) (shared : R) (agent : Nat)
    (p : Performance σ R V) : Option (Performance σ R V) :=
  match p.state.agents[agent]? with
  | none => some (p.dismiss setting resolved shared)
  | some a =>
    match a.phase with
    | .ended _ => some (p.turnTo (.joining resolved shared (agent + 1)) p.state.world)
    | .crashed => some (p.conclude (.failed crash) shared)
    | _ => none

/-- Goes on after a hook of the scenario has returned. -/
def afterHook (setting : Setting σ R V) (side : Side) (resolved : ResolvedScenario) (shared : R)
    (ending : Ending) (p : Performance σ R V) : Performance σ R V :=
  match side, ending with
  | _, .panicked message => p.conclude (.panicked message) shared
  | .before, .failed trouble => p.conclude (.failed trouble) shared
  | .before, .ok => p.start setting resolved shared
  | .after, ending =>
    p.turnTo (.reporting resolved shared) (p.state.world.logAll (teardownLines ending))

def report (setting : Setting σ R V) (resolved : ResolvedScenario) (shared : R)
    (p : Performance σ R V) : Performance σ R V :=
  let outcome := p.state.world.counters.snapshot
  let summary := summarise setting.occasion resolved p.state outcome
  let world := Run.report resolved.reporter outcome p.state.world
  p.turnTo (.storing resolved shared summary) (world.log (closing resolved p.state summary))

def store (resolved : ResolvedScenario) (shared : R) (summary : RunSummary)
    (p : Performance σ R V) : Performance σ R V :=
  let (conclusion, disk, world) := Run.store summary resolved.summaryFile p.disk p.state.world
  { p.turnTo (.returned conclusion shared) world with disk := disk }

/-- The next beat of the conductor; `none` when it waits or has returned. -/
def conduct (setting : Setting σ R V) (p : Performance σ R V) : Option (Performance σ R V) :=
  match p.conductor with
  | .building => some (p.build setting)
  | .inHook side resolved (.step action next) =>
    (p.state.world.perform setting.network none action).map fun taken ↦
      p.turnTo (.inHook side resolved (next taken.reply)) taken.world
  | .inHook side resolved (.done (shared, ending)) =>
    some (p.afterHook setting side resolved shared ending)
  | .joining resolved shared agent => p.join setting resolved shared agent
  | .reporting resolved shared => some (p.report setting resolved shared)
  | .storing resolved shared summary => some (p.store resolved shared summary)
  | .returned _ _ => none

/-! ## Beats of everybody -/

/-- The performance after a beat; `none` when the beat is not possible. -/
def apply (setting : Setting σ R V) (p : Performance σ R V) : Beat → Option (Performance σ R V)
  | .conductor => p.conduct setting
  | .agent index =>
    p.plan.bind fun plan ↦
      (p.state.apply plan setting.network (.agent index)).map fun s ↦ { p with state := s }
  | .stop reason => some (p.turnTo p.conductor (p.state.world.log reason).requestStop)

def applyAll (setting : Setting σ R V) (p : Performance σ R V) :
    List Beat → Option (Performance σ R V)
  | [] => some p
  | beat :: beats => (p.apply setting beat).bind fun p ↦ p.applyAll setting beats

theorem applyAll_append (setting : Setting σ R V) (p : Performance σ R V)
    (first second : List Beat) :
    p.applyAll setting (first ++ second) =
      (p.applyAll setting first).bind fun p ↦ p.applyAll setting second := by
  induction first generalizing p with
  | nil => rfl
  | cons beat beats ih =>
    simp only [List.cons_append, applyAll]
    cases p.apply setting beat with
    | none => rfl
    | some next => exact ih next

end Performance

end StorefrontLoad.Run
