import StorefrontLoad.Duration
import StorefrontLoad.Run.Trouble
import StorefrontLoad.Text.Blank
import StorefrontLoad.Text.Quoted
import StorefrontLoad.Url

/-!
# The configuration of a run

A configuration is fixed before the run starts and shared by all agents. It is checked in a fixed
order, and the first rule it breaks is the one reported.
-/

namespace StorefrontLoad

/-- When an agent stops to start iterations. -/
inductive StopCondition
  | iterations (count : Nat)
  | duration (length : Duration)
  deriving DecidableEq, Repr

structure RunConfig where
  concurrency : Nat
  stopCondition : StopCondition
  targetUrl : String
  channel : String
  /-- The run ends after this time, whatever the stop condition says. -/
  maxDuration : Duration
  /-- Pause at the end of each iteration. -/
  thinkTime : Duration
  requestTimeout : Duration
  seed : Option UInt64
  deriving DecidableEq, Repr

namespace RunConfig

def of (targetUrl channel : String) (concurrency : Nat) (stopCondition : StopCondition) :
    RunConfig where
  concurrency := concurrency
  stopCondition := stopCondition
  targetUrl := targetUrl
  channel := channel
  maxDuration := .ofSeconds (4 * 60 * 60)
  thinkTime := .ofSeconds 1
  requestTimeout := .ofSeconds 60
  seed := none

/-- How long after its start the run is told to stop. -/
def deadline (c : RunConfig) : Duration :=
  match c.stopCondition with
  | .duration length => length.min c.maxDuration
  | .iterations _ => c.maxDuration

/-- Whether the deadline is the ceiling and not the end that was asked for. -/
def hitsCeiling (c : RunConfig) : Bool :=
  match c.stopCondition with
  | .duration length => c.maxDuration < length
  | .iterations _ => true

inductive Invalid
  | noAgents
  | noIterations
  | noDuration
  | noMaxDuration
  | blankChannel
  | badUrl (url : String) (reason : Url.ParseError)
  | foreignScheme (scheme : String)
  deriving DecidableEq, Repr

def Invalid.trouble : Invalid → Trouble
  | .noAgents => .ofMessage "Concurrency must be at least 1"
  | .noIterations => .ofMessage "Iterations per agent must be at least 1"
  | .noDuration => .ofMessage "Run duration must be greater than zero"
  | .noMaxDuration => .ofMessage "Maximum run duration must be greater than zero"
  | .blankChannel => .ofMessage "Channel must not be empty"
  | .badUrl url reason => (Trouble.ofMessage reason.message).context s!"Invalid target URL '{url}'"
  | .foreignScheme scheme => .ofMessage s!"Target URL must use http or https, got '{scheme}'"

def validate (c : RunConfig) : Except Invalid Unit :=
  if c.concurrency = 0 then .error .noAgents
  else if c.stopCondition = .iterations 0 then .error .noIterations
  else if c.stopCondition = .duration .zero then .error .noDuration
  else if c.maxDuration.isZero then .error .noMaxDuration
  else if Text.isBlank c.channel.toList then .error .blankChannel
  else match Url.parse c.targetUrl with
    | .error reason => .error (.badUrl c.targetUrl reason)
    | .ok url =>
      if url.schemeText = "http" ∨ url.schemeText = "https" then .ok ()
      else .error (.foreignScheme url.schemeText)

end RunConfig

end StorefrontLoad
