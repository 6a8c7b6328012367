import StorefrontLoad.Json.Decoder

/-!
# Outcomes of a run, step by step

Counts are 64-bit words. Latencies are milliseconds; the shortest and the longest one are absent
until a step has been measured.
-/

namespace StorefrontLoad

structure StepSummary where
  attempted : UInt64
  succeeded : UInt64
  failedTransport : UInt64
  failedParse : UInt64
  failedBusiness : UInt64
  noUsableData : UInt64
  totalLatencyMs : Float
  minLatencyMs : Option Float
  maxLatencyMs : Option Float

namespace StepSummary

def empty : StepSummary := ⟨0, 0, 0, 0, 0, 0, 0, none, none⟩

/-- Every outcome that was not a success. -/
def failed (s : StepSummary) : UInt64 :=
  s.failedTransport + s.failedParse + s.failedBusiness + s.noUsableData

def meanLatencyMs (s : StepSummary) : Option Float :=
  if s.attempted = 0 then none else some (s.totalLatencyMs / s.attempted.toFloat)

def countText (n : UInt64) : List Char := Nat.toDigits 10 n.toNat

/-- Only finite numbers can be written; any other is written as null. -/
def latencyText (x : Float) : List Char :=
  if x.isFinite then Json.realText x else ['n', 'u', 'l', 'l']

def text (s : StepSummary) : List Char :=
  Json.objectText [
    ("attempted", countText s.attempted),
    ("succeeded", countText s.succeeded),
    ("failed_transport", countText s.failedTransport),
    ("failed_parse", countText s.failedParse),
    ("failed_business", countText s.failedBusiness),
    ("no_usable_data", countText s.noUsableData),
    ("total_latency_ms", latencyText s.totalLatencyMs),
    ("min_latency_ms", Json.optionText latencyText s.minLatencyMs),
    ("max_latency_ms", Json.optionText latencyText s.maxLatencyMs)]

structure Draft where
  attempted : Option UInt64
  succeeded : Option UInt64
  failedTransport : Option UInt64
  failedParse : Option UInt64
  failedBusiness : Option UInt64
  noUsableData : Option UInt64
  totalLatencyMs : Option Float
  minLatencyMs : Option (Option Float)
  maxLatencyMs : Option (Option Float)

def count (name : String) (get : Draft → Option UInt64) (set : Draft → UInt64 → Draft) :
    Json.Field Draft := .of name (.unsigned "u64") get set

def record : Json.Record Draft StepSummary where
  name := "StepSummary"
  empty := ⟨none, none, none, none, none, none, none, none, none⟩
  fields := [
    count "attempted" Draft.attempted fun d n ↦ { d with attempted := some n },
    count "succeeded" Draft.succeeded fun d n ↦ { d with succeeded := some n },
    count "failed_transport" Draft.failedTransport fun d n ↦ { d with failedTransport := some n },
    count "failed_parse" Draft.failedParse fun d n ↦ { d with failedParse := some n },
    count "failed_business" Draft.failedBusiness fun d n ↦ { d with failedBusiness := some n },
    count "no_usable_data" Draft.noUsableData fun d n ↦ { d with noUsableData := some n },
    .of "total_latency_ms" .real Draft.totalLatencyMs
      fun d x ↦ { d with totalLatencyMs := some x },
    .of "min_latency_ms" (.optional .real) Draft.minLatencyMs
      fun d x ↦ { d with minLatencyMs := some x },
    .of "max_latency_ms" (.optional .real) Draft.maxLatencyMs
      fun d x ↦ { d with maxLatencyMs := some x }]
  finish d := do
    .ok {
      attempted := ← Json.Field.required "attempted" d.attempted
      succeeded := ← Json.Field.required "succeeded" d.succeeded
      failedTransport := ← Json.Field.required "failed_transport" d.failedTransport
      failedParse := ← Json.Field.required "failed_parse" d.failedParse
      failedBusiness := ← Json.Field.required "failed_business" d.failedBusiness
      noUsableData := ← Json.Field.required "no_usable_data" d.noUsableData
      totalLatencyMs := ← Json.Field.required "total_latency_ms" d.totalLatencyMs
      minLatencyMs := d.minLatencyMs.join
      maxLatencyMs := d.maxLatencyMs.join }

end StepSummary

/-- Outcomes of a whole run. -/
structure OutcomeSummary where
  /-- Iterations that ran to their end, over all agents. -/
  iterations : UInt64
  steps : Dictionary StepSummary

namespace OutcomeSummary

def empty : OutcomeSummary := ⟨0, []⟩

/-- Zeroes for a step that never ran. -/
def stepOrEmpty (outcome : OutcomeSummary) (name : String) : StepSummary :=
  (outcome.steps.find? name).getD .empty

/-- One line: the iterations, then successes and attempts of each step. -/
def display (outcome : OutcomeSummary) : String :=
  String.intercalate " " (s!"iterations={outcome.iterations}" ::
    outcome.steps.map fun (name, step) ↦ s!"{name}={step.succeeded}/{step.attempted}")

def text (outcome : OutcomeSummary) : List Char :=
  Json.objectText [
    ("iterations", StepSummary.countText outcome.iterations),
    ("steps", Json.objectText (outcome.steps.map fun (name, step) ↦ (name, step.text)))]

structure Draft where
  iterations : Option UInt64
  steps : Option (Dictionary StepSummary)

def record : Json.Record Draft OutcomeSummary where
  name := "OutcomeSummary"
  empty := ⟨none, none⟩
  fields := [
    .of "iterations" (.unsigned "u64") Draft.iterations fun d n ↦ { d with iterations := some n },
    .of "steps" (.dictionary StepSummary.record.decoder) Draft.steps
      fun d steps ↦ { d with steps := some steps }]
  finish d := do
    .ok {
      iterations := ← Json.Field.required "iterations" d.iterations
      steps := ← Json.Field.required "steps" d.steps }

def ofText (text : String) : Except Json.ReadError OutcomeSummary :=
  Json.document record.decoder (Text.symbolsOfText text.toList)

end OutcomeSummary

end StorefrontLoad
