import StorefrontLoad.Report
import StorefrontLoad.Run.Archive
import StorefrontLoad.Run.Definition
import StorefrontLoad.Run.Schedule

/-!
# Runs from their definition to their summary

A run builds its definition, calls the setup hook, lets all agents run to their ends, calls the
teardown hook, reports the outcome and stores the summary. An error of the build, of the setup hook
or of the last write is the run's own; every other one is logged.
-/

namespace StorefrontLoad.Run

open Storefront (Network)

/-- A hook of the scenario itself may change what all agents share. -/
abbrev ScenarioHook (R : Type) := RunConfig → R → Program (R × Ending)

structure Hooks (R V : Type) where
  /-- What is shared before the setup. -/
  shared : R
  /-- What belongs to an agent at its start. -/
  own : V
  setup : Option (ScenarioHook R)
  teardown : Option (ScenarioHook R)
  agent : AgentHooks R V

/-- What a run takes from its surroundings beside the network. -/
structure Occasion where
  /-- Names the run unless its definition does. -/
  freshId : String
  /-- Unix time in seconds. -/
  startedAt : Int64
  disk : Disk
  /-- A bound on the moves of the agents. -/
  mostMoves : Nat

inductive Conclusion
  | finished (summary : RunSummary)
  | failed (trouble : Trouble)
  | panicked (message : Option String)

/-- What is left of a run. -/
structure Account (R V : Type) where
  conclusion : Conclusion
  events : List Event
  shared : R
  own : List V
  disk : Disk

namespace Account

variable {R V : Type}

def lines (account : Account R V) : List LogLine := account.events.filterMap Event.line?

def requests (account : Account R V) : List Storefront.Request :=
  account.events.filterMap Event.request?

/-- Everything printed, in order. -/
def printed (account : Account R V) : String := String.join (account.events.filterMap Event.text?)

end Account

variable {R V σ : Type}

/-! ## Before the agents -/

def opening (hooks : Hooks R V) (resolved : ResolvedScenario) : List LogLine :=
  let name := resolved.name
  let target := resolved.config.targetUrl
  let agents := resolved.config.concurrency
  let warning := .warn
    s!"Scenario [{name}] has no agent behaviour, agents will only run setup and teardown"
  let running := .info s!"Running scenario: {name} against {target} with {agents} agents"
  (if hooks.agent.behaviour.isNone then [warning] else []) ++ [running]

/-- Calls a hook of the scenario, if there is one. -/
def callHook (network : Network σ) (config : RunConfig) (hook : Hook)
    (code : Option (ScenarioHook R)) (shared : R) (w : World σ) :
    Option ((R × Ending) × World σ) :=
  match code with
  | none => some ((shared, .ok), w)
  | some code => (code config shared).complete network (w.note (.called hook))

/-! ## After the agents -/

def teardownLines : Ending → List LogLine
  | .failed trouble => [.error ("Teardown failed: " ++ trouble.report)]
  | _ => []

def World.logAll (lines : List LogLine) (w : World σ) : World σ :=
  lines.foldl (fun w line ↦ w.log line) w

def summarise (occasion : Occasion) (resolved : ResolvedScenario) (s : State σ V)
    (outcome : OutcomeSummary) : RunSummary :=
  let config := resolved.config
  let (runDurationMs, iterationsPerAgent) := match config.stopCondition with
    | .duration length => (some length.milliseconds, none)
    | .iterations count => (none, some count.toUInt64)
  { runId := resolved.runId.getD occasion.freshId
    scenarioName := resolved.name
    startedAt := occasion.startedAt
    runDurationMs := runDurationMs
    iterationsPerAgent := iterationsPerAgent
    elapsedMs := s.elapsed.milliseconds
    agentCount := config.concurrency.toUInt64
    agentEndCount := s.endCount.toUInt64
    channel := config.channel
    targetUrl := config.targetUrl
    outcome := outcome
    version := RunSummary.currentVersion }

def closing (resolved : ResolvedScenario) (s : State σ V) (summary : RunSummary) : LogLine :=
  let agents := s!"{s.endCount}/{resolved.config.concurrency} agents still running"
  let outcome := summary.outcome.display
  .info s!"Run {summary.runId} finished in {s.elapsed.text} with {agents}: {outcome}"

def report (reporter : Reporter) (outcome : OutcomeSummary) (w : World σ) : World σ :=
  match reporter with
  | .inMemory => w.note (.printed (Report.printed outcome))
  | .noop => w

/-- Adds the summary to the file the definition names, if it names one. -/
def store (summary : RunSummary) (path : Option String) (disk : Disk) (w : World σ) :
    Conclusion × Disk × World σ :=
  match path with
  | none => (.finished summary, disk, w)
  | some path =>
    match summary.appendTo path disk with
    | .ok disk => (.finished summary, disk, w.note (.stored path summary))
    | .error fault =>
      let trouble := (Trouble.ofMessage fault.message).context
        s!"Failed to write run summary to {path}"
      (.failed trouble, disk, w)

/-- An agent that crashed is found when the agents are joined. -/
def crash : Trouble := .ofMessage "Error joining thread for test agent: Any \x7b .. \x7d"

/-! ## All of it -/

def conclude (conclusion : Conclusion) (shared : R) (own : List V) (disk : Disk) (w : World σ) :
    Account R V :=
  ⟨conclusion, w.events, shared, own, disk⟩

/-- What comes after the last agent has ended. -/
def finish (network : Network σ) (occasion : Occasion) (hooks : Hooks R V)
    (resolved : ResolvedScenario) (shared : R) (s : State σ V) : Option (Account R V) :=
  let own := s.agents.toList.map Agent.value
  if s.hasCrash then some (conclude (.failed crash) shared own occasion.disk s.world)
  else
    let stopped := s.world.requestStop
    let called := callHook network resolved.config .teardown hooks.teardown shared stopped
    called.map fun ((shared, ending), w) ↦
      match ending with
      | .panicked message => conclude (.panicked message) shared own occasion.disk w
      | ending =>
        let w := w.logAll (teardownLines ending)
        let outcome := w.counters.snapshot
        let summary := summarise occasion resolved s outcome
        let w := (report resolved.reporter outcome w).log (closing resolved s summary)
        let (conclusion, disk, w) := store summary resolved.summaryFile occasion.disk w
        conclude conclusion shared own disk w

/-- Runs the agents of a scenario that has been built. -/
def perform (network : Network σ) (occasion : Occasion) (hooks : Hooks R V)
    (resolved : ResolvedScenario) (w : World σ) : Option (Account R V) :=
  let w := w.logAll (opening hooks resolved)
  match callHook network resolved.config .setup hooks.setup hooks.shared w with
  | none => none
  | some ((shared, .failed trouble), w) =>
    some (conclude (.failed trouble) shared [] occasion.disk w)
  | some ((shared, .panicked message), w) =>
    some (conclude (.panicked message) shared [] occasion.disk w)
  | some ((shared, .ok), w) =>
    let plan := ⟨resolved.config, shared, hooks.agent⟩
    let s := State.initial resolved.config hooks.own w
    (Schedule.play plan network occasion.mostMoves Schedule.start s).bind
      (finish network occasion hooks resolved shared)

/-- Runs a scenario; `none` when a hook waits for ever or the agents need too many moves. -/
def execute (network : Network σ) (state : σ) (occasion : Occasion) (hooks : Hooks R V)
    (definition : ScenarioDefinition) : Option (Account R V) :=
  match definition.build with
  | .error e =>
    some (conclude (.failed e.trouble) hooks.shared [] occasion.disk (World.fresh state))
  | .ok resolved => perform network occasion hooks resolved (World.fresh state)

end StorefrontLoad.Run
