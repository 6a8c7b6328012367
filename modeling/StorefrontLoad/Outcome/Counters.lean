import StorefrontLoad.Duration
import StorefrontLoad.Outcome.Kind
import StorefrontLoad.Outcome.Summary

/-!
# Outcome counters

Counters are shared by all agents of a run. Every change below acts on a single word, so a record is
a sequence of such changes and agents may interleave between any two of them.
-/

namespace StorefrontLoad

/-- The counters of one step. Latencies are whole microseconds. -/
structure StepCounters where
  attempted : UInt64
  succeeded : UInt64
  failedTransport : UInt64
  failedParse : UInt64
  failedBusiness : UInt64
  noUsableData : UInt64
  totalMicros : UInt64
  /-- The largest word until a latency has been recorded. -/
  minMicros : UInt64
  maxMicros : UInt64
  deriving DecidableEq, Repr

namespace StepCounters

def unmeasured : UInt64 := 0xFFFFFFFFFFFFFFFF

def fresh : StepCounters := ⟨0, 0, 0, 0, 0, 0, 0, unmeasured, 0⟩

def category (c : StepCounters) : OutcomeKind → UInt64
  | .succeeded => c.succeeded
  | .transportFailure => c.failedTransport
  | .parseFailure => c.failedParse
  | .businessFailure => c.failedBusiness
  | .noUsableData => c.noUsableData

def countCategory (kind : OutcomeKind) (c : StepCounters) : StepCounters :=
  match kind with
  | .succeeded => { c with succeeded := c.succeeded + 1 }
  | .transportFailure => { c with failedTransport := c.failedTransport + 1 }
  | .parseFailure => { c with failedParse := c.failedParse + 1 }
  | .businessFailure => { c with failedBusiness := c.failedBusiness + 1 }
  | .noUsableData => { c with noUsableData := c.noUsableData + 1 }

def countAttempt (c : StepCounters) : StepCounters := { c with attempted := c.attempted + 1 }

def addLatency (micros : UInt64) (c : StepCounters) : StepCounters :=
  { c with totalMicros := c.totalMicros + micros }

def lowerMin (micros : UInt64) (c : StepCounters) : StepCounters :=
  { c with minMicros := if micros < c.minMicros then micros else c.minMicros }

def raiseMax (micros : UInt64) (c : StepCounters) : StepCounters :=
  { c with maxMicros := if c.maxMicros < micros then micros else c.maxMicros }

/-- The changes of one record, in the order in which they are made. -/
def changes (kind : OutcomeKind) (latency : Duration) : List (StepCounters → StepCounters) :=
  [countCategory kind, countAttempt, addLatency latency.microseconds,
    lowerMin latency.microseconds, raiseMax latency.microseconds]

/-- Counts one outcome under its category and as an attempt. -/
def record (kind : OutcomeKind) (latency : Duration) (c : StepCounters) : StepCounters :=
  (changes kind latency).foldl (fun c change ↦ change c) c

/-- The words of a step in the order in which a snapshot copies them. -/
def copies : List (StepCounters → StepCounters → StepCounters) := [
  fun c seen ↦ { seen with attempted := c.attempted },
  fun c seen ↦ { seen with minMicros := c.minMicros },
  fun c seen ↦ { seen with maxMicros := c.maxMicros },
  fun c seen ↦ { seen with succeeded := c.succeeded },
  fun c seen ↦ { seen with failedTransport := c.failedTransport },
  fun c seen ↦ { seen with failedParse := c.failedParse },
  fun c seen ↦ { seen with failedBusiness := c.failedBusiness },
  fun c seen ↦ { seen with noUsableData := c.noUsableData },
  fun c seen ↦ { seen with totalMicros := c.totalMicros }]

/-- Copies of all words make up the whole. -/
theorem foldl_copies (c seen : StepCounters) :
    copies.foldl (fun seen copy ↦ copy c seen) seen = c := rfl

def milliseconds (micros : UInt64) : Float := micros.toFloat / 1000

def snapshot (c : StepCounters) : StepSummary where
  attempted := c.attempted
  succeeded := c.succeeded
  failedTransport := c.failedTransport
  failedParse := c.failedParse
  failedBusiness := c.failedBusiness
  noUsableData := c.noUsableData
  totalLatencyMs := milliseconds c.totalMicros
  minLatencyMs := if c.minMicros = unmeasured then none else some (milliseconds c.minMicros)
  maxLatencyMs := if c.minMicros = unmeasured then none else some (milliseconds c.maxMicros)

end StepCounters

/-- The counters of a run. A step appears when it is first named. -/
structure Counters where
  iterations : UInt64
  steps : Dictionary StepCounters
  deriving DecidableEq, Repr

namespace Counters

def fresh : Counters := ⟨0, []⟩

/-- Makes sure that a step is there. -/
def touch (step : String) (c : Counters) : Counters :=
  { c with steps := c.steps.update step .fresh id }

def record (step : String) (kind : OutcomeKind) (latency : Duration) (c : Counters) : Counters :=
  { c with steps := c.steps.update step .fresh (StepCounters.record kind latency) }

@[simp] theorem find?_steps_record (step name : String) (kind : OutcomeKind) (latency : Duration)
    (c : Counters) :
    (c.record step kind latency).steps.find? name =
      if step = name then some (((c.steps.find? step).getD .fresh).record kind latency)
      else c.steps.find? name := by
  simp only [record, Dictionary.find?_update]

def recordIteration (c : Counters) : Counters := { c with iterations := c.iterations + 1 }

def snapshot (c : Counters) : OutcomeSummary :=
  ⟨c.iterations, c.steps.map fun (name, step) ↦ (name, step.snapshot)⟩

end Counters

end StorefrontLoad
