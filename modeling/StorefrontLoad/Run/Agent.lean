import StorefrontLoad.Run.Config
import StorefrontLoad.Run.World

/-!
# Agents

An agent calls its setup hook, then its behaviour once per iteration until it has a reason to stop,
then its teardown hook. Whatever comes of a call of the behaviour, the iteration is over and
counted.
-/

namespace StorefrontLoad.Run

open Storefront (Network)

/-- How a call of a hook ended. -/
inductive Ending
  | ok
  | failed (trouble : Trouble)
  | panicked (message : Option String)
  deriving DecidableEq, Repr

/-- What a hook of an agent is told. -/
structure AgentContext (R : Type) where
  index : Nat
  /-- Iterations begun before this one. -/
  iteration : Nat
  config : RunConfig
  /-- What the setup of the scenario left to all agents. -/
  shared : R

/-- An agent's hook may change what belongs to its agent. -/
abbrev AgentHook (R V : Type) := AgentContext R → V → Program (V × Ending)

structure AgentHooks (R V : Type) where
  setup : Option (AgentHook R V)
  behaviour : Option (AgentHook R V)
  teardown : Option (AgentHook R V)

/-- What stays the same while agents run. -/
structure Plan (R V : Type) where
  config : RunConfig
  shared : R
  hooks : AgentHooks R V

/-- Which of its hooks an agent is in. -/
inductive Stage
  | setup
  | behaviour
  /-- With the answer it will give at its end. -/
  | teardown (running : Bool)
  deriving DecidableEq, Repr

inductive Phase (V : Type)
  | arriving
  | inHook (stage : Stage) (rest : Program (V × Ending))
  /-- About to look for a reason to stop. -/
  | deciding
  /-- Has found no reason to stop and is about to start an iteration. -/
  | cleared
  /-- Has left its behaviour; the iteration is not counted yet. -/
  | accounting (ending : Ending)
  /-- Says whether it was still running at its end. -/
  | ended (running : Bool)
  /-- Panicked outside of its behaviour. -/
  | crashed

structure Agent (V : Type) where
  phase : Phase V
  /-- Iterations begun so far. A natural number stands for a 64-bit word here: one agent is taken to
  begin fewer than 2^64 iterations. -/
  iteration : Nat
  value : V
  /-- How long its requests and pauses took. -/
  busy : Duration

namespace Agent

variable {R V σ : Type}

def initial (value : V) : Agent V := ⟨.arriving, 0, value, .zero⟩

def name (index : Nat) : String := s!"agent-{index}"

def context (plan : Plan R V) (index : Nat) (a : Agent V) : AgentContext R :=
  ⟨index, a.iteration, plan.config, plan.shared⟩

def enter (stage : Stage) (hook : Hook) (rest : Program (V × Ending)) (a : Agent V) (w : World σ) :
    Agent V × World σ :=
  ({ a with phase := .inHook stage rest }, w.note (.called hook))

/-- Calls the teardown hook, if there is one. -/
def leave (plan : Plan R V) (index : Nat) (running : Bool) (a : Agent V) (w : World σ) :
    Agent V × World σ :=
  match plan.hooks.teardown with
  | none => ({ a with phase := .ended running }, w)
  | some hook =>
    a.enter (.teardown running) (.agentTeardown index) (hook (a.context plan index) a.value) w

/-- Goes on after a setup that did not fail. -/
def begin (plan : Plan R V) (index : Nat) (a : Agent V) (w : World σ) : Agent V × World σ :=
  if plan.hooks.behaviour.isSome then
    ({ a with phase := .deciding }, w.log (.debug s!"Starting agent {name index}"))
  else a.leave plan index true w

def arrive (plan : Plan R V) (index : Nat) (a : Agent V) (w : World σ) : Agent V × World σ :=
  match plan.hooks.setup with
  | none => a.begin plan index w
  | some hook => a.enter .setup (.agentSetup index) (hook (a.context plan index) a.value) w

/-- Whether the agent has done all its iterations. -/
def hasMetQuota (config : RunConfig) (a : Agent V) : Bool :=
  match config.stopCondition with
  | .iterations count => count ≤ a.iteration
  | .duration _ => false

def continueOrLeave (plan : Plan R V) (index : Nat) (a : Agent V) (w : World σ) :
    Agent V × World σ :=
  if a.hasMetQuota plan.config then
    a.leave plan index true (w.log (.debug s!"Agent {name index} finished its iterations"))
  else if w.stopRequested then
    a.leave plan index true (w.log (.debug s!"Stopping agent {name index}"))
  else ({ a with phase := .cleared }, w)

def behave (plan : Plan R V) (index : Nat) (a : Agent V) (w : World σ) : Agent V × World σ :=
  match plan.hooks.behaviour with
  | none => a.leave plan index true w
  | some hook =>
    a.enter .behaviour (.behaviour index a.iteration) (hook (a.context plan index) a.value) w

/-- Counts the iteration; only a bail-out ends the agent. -/
def account (plan : Plan R V) (index : Nat) (ending : Ending) (a : Agent V) (w : World σ) :
    Agent V × World σ :=
  let a := { a with iteration := a.iteration + 1, phase := .deciding }
  let w := w.recordIteration
  match ending with
  | .ok => (a, w)
  | .panicked message =>
    let reason := message.getD "unknown panic"
    (a, w.log (.error s!"Agent behaviour panicked for agent {name index}: {reason}"))
  | .failed trouble =>
    if trouble.isBail then
      a.leave plan index false (w.log (.warn s!"Agent {name index} bailed: {trouble.message}"))
    else
      (a, w.log (.error s!"Agent behaviour failed for agent {name index}: {trouble.report}"))

/-- Goes on after a hook has returned. -/
def afterHook (plan : Plan R V) (index : Nat) (stage : Stage) (ending : Ending) (a : Agent V)
    (w : World σ) : Agent V × World σ :=
  match stage, ending with
  | .behaviour, ending => ({ a with phase := .accounting ending }, w)
  | .setup, .ok => a.begin plan index w
  | .setup, .failed trouble =>
    ({ a with phase := .ended false },
      w.log (.error s!"Agent setup failed for agent {name index}: {trouble.report}"))
  | .teardown running, .ok => ({ a with phase := .ended running }, w)
  | .teardown running, .failed trouble =>
    ({ a with phase := .ended running },
      w.log (.error s!"Agent teardown failed for agent {name index}: {trouble.report}"))
  | .setup, .panicked _ | .teardown _, .panicked _ => ({ a with phase := .crashed }, w)

/-- The next step of an agent; `none` when it waits or is at its end. -/
def step (plan : Plan R V) (network : Network σ) (index : Nat) (a : Agent V) (w : World σ) :
    Option (Agent V × World σ) :=
  match a.phase with
  | .arriving => some (a.arrive plan index w)
  | .inHook stage (.step action next) =>
    (w.perform network (some index) action).map fun step ↦
      ({ a with phase := .inHook stage (next step.reply), busy := a.busy.add step.elapsed },
        step.world)
  | .inHook stage (.done (value, ending)) =>
    some (afterHook plan index stage ending { a with value := value } w)
  | .deciding => some (a.continueOrLeave plan index w)
  | .cleared => some (a.behave plan index w)
  | .accounting ending => some (a.account plan index ending w)
  | .ended _ | .crashed => none

def hasEnded (a : Agent V) : Bool :=
  match a.phase with
  | .ended _ | .crashed => true
  | _ => false

/-- Whether the agent waits for the run to be told to stop. -/
def awaitsStop (a : Agent V) : Bool :=
  match a.phase with
  | .inHook _ (.step .awaitStop _) => true
  | _ => false

end Agent

end StorefrontLoad.Run
