import StorefrontLoad.CommandLine
import StorefrontLoad.Run.Config

/-!
# Scenario definitions

A definition names a scenario and says where its configuration comes from. What the command line
leaves open is filled in from the scenario's defaults, and of several defaults for one setting the
last one counts. A ready-made configuration is taken as it is.
-/

namespace StorefrontLoad

inductive ConfigSource
  | commandLine (arguments : CommandLine.Arguments)
  | config (config : RunConfig)
  deriving DecidableEq, Repr

structure ScenarioDefinition where
  name : String
  source : ConfigSource
  defaultConcurrency : Option Nat
  defaultStopCondition : Option StopCondition
  deriving DecidableEq, Repr

/-- What a definition comes down to. -/
structure ResolvedScenario where
  name : String
  config : RunConfig
  noProgress : Bool
  reporter : Reporter
  runId : Option String
  summaryFile : Option String
  deriving DecidableEq, Repr

namespace ScenarioDefinition

def ofSource (name : String) (source : ConfigSource) : ScenarioDefinition :=
  ⟨name, source, none, none⟩

def ofArguments (name : String) (arguments : CommandLine.Arguments) : ScenarioDefinition :=
  ofSource name (.commandLine arguments)

def ofConfig (name : String) (config : RunConfig) : ScenarioDefinition :=
  ofSource name (.config config)

def withDefaultConcurrency (count : Nat) (d : ScenarioDefinition) : ScenarioDefinition :=
  { d with defaultConcurrency := some count }

def withDefaultIterations (count : Nat) (d : ScenarioDefinition) : ScenarioDefinition :=
  { d with defaultStopCondition := some (.iterations count) }

def withDefaultSeconds (seconds : Nat) (d : ScenarioDefinition) : ScenarioDefinition :=
  { d with defaultStopCondition := some (.duration (.ofSeconds seconds)) }

inductive BuildError
  | noStopCondition
  | invalid (reason : RunConfig.Invalid)
  deriving DecidableEq, Repr

def BuildError.trouble : BuildError → Trouble
  | .noStopCondition =>
    .ofMessage "No stop condition set, pass --iterations or --duration"
  | .invalid reason => reason.trouble

/-- Iterations on the command line count before a duration there, and either before a default. -/
def stopCondition? (arguments : CommandLine.Arguments) (default : Option StopCondition) :
    Option StopCondition :=
  match arguments.iterations, arguments.duration with
  | some count, _ => some (.iterations count.toNat)
  | none, some seconds => some (.duration (.ofSeconds seconds.toNat))
  | none, none => default

/-- Without any setting there is one agent. -/
def concurrencyOf (arguments : CommandLine.Arguments) (default : Option Nat) : Nat :=
  ((arguments.concurrency.map UInt64.toNat) <|> default).getD 1

def configOf (arguments : CommandLine.Arguments) (concurrency : Nat)
    (stopCondition : StopCondition) : RunConfig where
  concurrency := concurrency
  stopCondition := stopCondition
  targetUrl := arguments.targetUrl
  channel := arguments.channel
  maxDuration := .ofSeconds arguments.maxDuration.toNat
  thinkTime := .ofMilliseconds arguments.thinkTimeMs.toNat
  requestTimeout := .ofSeconds arguments.requestTimeout.toNat
  seed := arguments.seed

/-- Fills in the defaults. -/
def resolve (d : ScenarioDefinition) : Except BuildError ResolvedScenario :=
  match d.source with
  | .config config => .ok ⟨d.name, config, true, .noop, none, none⟩
  | .commandLine arguments =>
    match stopCondition? arguments d.defaultStopCondition with
    | none => .error .noStopCondition
    | some stopCondition => .ok {
        name := d.name
        config := configOf arguments (concurrencyOf arguments d.defaultConcurrency) stopCondition
        noProgress := arguments.noProgress
        reporter := arguments.reporter
        runId := arguments.runId
        summaryFile := arguments.summaryFile }

/-- Resolves a definition and checks the configuration it comes down to. -/
def build (d : ScenarioDefinition) : Except BuildError ResolvedScenario :=
  match d.resolve with
  | .error e => .error e
  | .ok resolved =>
    match resolved.config.validate with
    | .error reason => .error (.invalid reason)
    | .ok () => .ok resolved

end ScenarioDefinition

end StorefrontLoad
