import StorefrontLoad.Digest.Sha3
import StorefrontLoad.Outcome.Summary

/-!
# Run summaries

A summary is stored as one line of JSON whose members stand in a fixed order. Its fingerprint
identifies the configuration of the run, so that runs of the same shape can be compared; the target
is left out, because the same test is often pointed at different environments.
-/

namespace StorefrontLoad

structure RunSummary where
  runId : String
  scenarioName : String
  /-- Unix time in seconds. -/
  startedAt : Int64
  /-- Set for a run that is bounded by a duration. -/
  runDurationMs : Option UInt64
  /-- Set for a run that is bounded by iterations. -/
  iterationsPerAgent : Option UInt64
  elapsedMs : UInt64
  agentCount : UInt64
  /-- Agents that neither failed their setup nor bailed out. -/
  agentEndCount : UInt64
  channel : String
  targetUrl : String
  outcome : OutcomeSummary
  version : String

namespace RunSummary

/-- The version of this library that summaries name. -/
def currentVersion : String := "0.1.0"

/-! ## Fingerprint -/

def wordBytes (n : UInt64) : List UInt8 := Digest.bytesOfWord n

def textBytes (s : String) : List UInt8 := s.toUTF8.toList

/-- The bytes that are hashed. -/
def fingerprintBytes (s : RunSummary) : List UInt8 :=
  textBytes s.scenarioName ++
    (match s.runDurationMs with
      | some ms => textBytes "duration" ++ wordBytes ms
      | none => []) ++
    (match s.iterationsPerAgent with
      | some n => textBytes "iterations" ++ wordBytes n
      | none => []) ++
    wordBytes s.agentCount ++ textBytes s.channel ++ textBytes s.version

def fingerprint (s : RunSummary) : String := Digest.hex (Digest.sha3 s.fingerprintBytes)

/-! ## Stored text -/

def wordText (n : UInt64) : List Char := Nat.toDigits 10 n.toNat

def text (s : RunSummary) : List Char :=
  Json.objectText [
    ("run_id", Json.quote s.runId),
    ("scenario_name", Json.quote s.scenarioName),
    ("started_at", Json.wholeText s.startedAt.toInt),
    ("run_duration_ms", Json.optionText wordText s.runDurationMs),
    ("iterations_per_agent", Json.optionText wordText s.iterationsPerAgent),
    ("elapsed_ms", wordText s.elapsedMs),
    ("agent_count", wordText s.agentCount),
    ("agent_end_count", wordText s.agentEndCount),
    ("channel", Json.quote s.channel),
    ("target_url", Json.quote s.targetUrl),
    ("outcome", s.outcome.text),
    ("gale_version", Json.quote s.version)]

structure Draft where
  runId : Option String
  scenarioName : Option String
  startedAt : Option Int64
  runDurationMs : Option (Option UInt64)
  iterationsPerAgent : Option (Option UInt64)
  elapsedMs : Option UInt64
  agentCount : Option UInt64
  agentEndCount : Option UInt64
  channel : Option String
  targetUrl : Option String
  outcome : Option OutcomeSummary
  version : Option String

def record : Json.Record Draft RunSummary where
  name := "RunSummary"
  empty := ⟨none, none, none, none, none, none, none, none, none, none, none, none⟩
  fields := [
    .of "run_id" .string Draft.runId fun d s ↦ { d with runId := some s },
    .of "scenario_name" .string Draft.scenarioName fun d s ↦ { d with scenarioName := some s },
    .of "started_at" .signed Draft.startedAt fun d n ↦ { d with startedAt := some n },
    .of "run_duration_ms" (.optional (.unsigned "u64")) Draft.runDurationMs
      fun d n ↦ { d with runDurationMs := some n },
    .of "iterations_per_agent" (.optional (.unsigned "u64")) Draft.iterationsPerAgent
      fun d n ↦ { d with iterationsPerAgent := some n },
    .of "elapsed_ms" (.unsigned "u64") Draft.elapsedMs fun d n ↦ { d with elapsedMs := some n },
    .of "agent_count" (.unsigned "usize") Draft.agentCount
      fun d n ↦ { d with agentCount := some n },
    .of "agent_end_count" (.unsigned "usize") Draft.agentEndCount
      fun d n ↦ { d with agentEndCount := some n },
    .of "channel" .string Draft.channel fun d s ↦ { d with channel := some s },
    .of "target_url" .string Draft.targetUrl fun d s ↦ { d with targetUrl := some s },
    .of "outcome" OutcomeSummary.record.decoder Draft.outcome
      fun d outcome ↦ { d with outcome := some outcome },
    .of "gale_version" .string Draft.version fun d s ↦ { d with version := some s }]
  finish d := do
    .ok {
      runId := ← Json.Field.required "run_id" d.runId
      scenarioName := ← Json.Field.required "scenario_name" d.scenarioName
      startedAt := ← Json.Field.required "started_at" d.startedAt
      runDurationMs := d.runDurationMs.join
      iterationsPerAgent := d.iterationsPerAgent.join
      elapsedMs := ← Json.Field.required "elapsed_ms" d.elapsedMs
      agentCount := ← Json.Field.required "agent_count" d.agentCount
      agentEndCount := ← Json.Field.required "agent_end_count" d.agentEndCount
      channel := ← Json.Field.required "channel" d.channel
      targetUrl := ← Json.Field.required "target_url" d.targetUrl
      outcome := ← Json.Field.required "outcome" d.outcome
      version := ← Json.Field.required "gale_version" d.version }

def ofSymbols (symbols : List Text.Symbol) : Except Json.ReadError RunSummary :=
  Json.document record.decoder symbols

def ofText (text : List Char) : Except Json.ReadError RunSummary :=
  ofSymbols (Text.symbolsOfText text)

def ofBytes (bytes : List UInt8) : Except Json.ReadError RunSummary :=
  ofSymbols (Text.symbolsOfBytes bytes)

end RunSummary

end StorefrontLoad
