import StorefrontLoad.Outcome.Counters
import StorefrontLoad.Proofs.Dictionary

/-!
# Counters and true numbers

A tally says how often every step has ended in every way. Counters hold a tally up to multiples of
2^64, and a step appears in them as soon as it has been attempted. Apart from latencies they hold
nothing else, so the order of the records does not matter.
-/

namespace StorefrontLoad

/-- How often a step has ended in each way. -/
abbrev StepTally := OutcomeKind → Nat

namespace StepTally

def attempts (tally : StepTally) : Nat :=
  tally .succeeded + tally .transportFailure + tally .parseFailure + tally .businessFailure +
    tally .noUsableData

/-- One more outcome of this kind. -/
def add (kind : OutcomeKind) (tally : StepTally) : StepTally :=
  fun k ↦ tally k + if k = kind then 1 else 0

theorem attempts_add (kind : OutcomeKind) (tally : StepTally) :
    (tally.add kind).attempts = tally.attempts + 1 := by
  unfold attempts add
  cases kind <;> simp <;> omega

end StepTally

namespace StepSummary

/-- What is left of a step when nobody looks at a clock. -/
def withoutLatencies (s : StepSummary) : StepSummary :=
  { s with totalLatencyMs := 0, minLatencyMs := none, maxLatencyMs := none }

end StepSummary

namespace StepCounters

/-- The words of a step hold the numbers of a tally. -/
structure Tells (tally : StepTally) (c : StepCounters) : Prop where
  category : ∀ kind, c.category kind = (tally kind).toUInt64
  attempted : c.attempted = tally.attempts.toUInt64

theorem category_record (kind k : OutcomeKind) (latency : Duration) (c : StepCounters) :
    (c.record kind latency).category k = c.category k + if k = kind then 1 else 0 := by
  cases kind <;> cases k <;> simp [record, changes, countCategory, countAttempt, addLatency,
    lowerMin, raiseMax, category]

theorem attempted_record (kind : OutcomeKind) (latency : Duration) (c : StepCounters) :
    (c.record kind latency).attempted = c.attempted + 1 := by
  cases kind <;> rfl

theorem tells_fresh : fresh.Tells fun _ ↦ 0 where
  category kind := by cases kind <;> rfl
  attempted := rfl

theorem Tells.record {tally : StepTally} {c : StepCounters} (h : c.Tells tally)
    (kind : OutcomeKind) (latency : Duration) : (c.record kind latency).Tells (tally.add kind) where
  category k := by
    rw [category_record, h.category, StepTally.add]
    split
    · exact (UInt64.ofNat_add _ _).symm
    · exact UInt64.add_zero _
  attempted := by
    rw [attempted_record, h.attempted, StepTally.attempts_add]
    exact (UInt64.ofNat_add _ _).symm

/-- Every attempt is counted under exactly one category. -/
theorem Tells.balanced {tally : StepTally} {c : StepCounters} (h : c.Tells tally) :
    c.attempted = c.succeeded + c.failedTransport + c.failedParse + c.failedBusiness +
      c.noUsableData := by
  have hSum : tally.attempts.toUInt64 = (tally .succeeded).toUInt64 +
      (tally .transportFailure).toUInt64 + (tally .parseFailure).toUInt64 +
      (tally .businessFailure).toUInt64 + (tally .noUsableData).toUInt64 := by
    unfold StepTally.attempts
    simp only [Nat.toUInt64, UInt64.ofNat_add]
  rw [h.attempted, hSum, ← h.category, ← h.category, ← h.category, ← h.category, ← h.category]
  rfl

/-- Latencies aside, a step is known by its tally. -/
theorem Tells.snapshot_eq {tally : StepTally} {c d : StepCounters} (hc : c.Tells tally)
    (hd : d.Tells tally) : c.snapshot.withoutLatencies = d.snapshot.withoutLatencies := by
  have hAttempted : c.attempted = d.attempted := hc.attempted.trans hd.attempted.symm
  have hCategory : ∀ kind, c.category kind = d.category kind := fun kind ↦
    (hc.category kind).trans (hd.category kind).symm
  have hSucceeded : c.succeeded = d.succeeded := hCategory .succeeded
  have hTransport : c.failedTransport = d.failedTransport := hCategory .transportFailure
  have hParse : c.failedParse = d.failedParse := hCategory .parseFailure
  have hBusiness : c.failedBusiness = d.failedBusiness := hCategory .businessFailure
  have hNoData : c.noUsableData = d.noUsableData := hCategory .noUsableData
  simp only [StepCounters.snapshot, StepSummary.withoutLatencies, hAttempted, hSucceeded,
    hTransport, hParse, hBusiness, hNoData]

end StepCounters

namespace OutcomeSummary

/-- What is left of an outcome when nobody looks at a clock. -/
def withoutLatencies (outcome : OutcomeSummary) : OutcomeSummary :=
  { outcome with steps := outcome.steps.map fun (name, step) ↦ (name, step.withoutLatencies) }

end OutcomeSummary

/-- How often every step has ended in each way. -/
abbrev Tally := String → StepTally

namespace Tally

/-- One more outcome of this step and kind. -/
def add (step : String) (kind : OutcomeKind) (tally : Tally) : Tally :=
  fun name k ↦ tally name k + if name = step ∧ k = kind then 1 else 0

theorem add_self (step : String) (kind : OutcomeKind) (tally : Tally) :
    tally.add step kind step = (tally step).add kind := by
  funext k
  simp [add, StepTally.add]

theorem add_of_ne {step name : String} (h : name ≠ step) (kind : OutcomeKind) (tally : Tally) :
    tally.add step kind name = tally name := by
  funext k
  simp [add, h]

end Tally

namespace Counters

/-- The counters of a step that may not be there yet. -/
def stepOrFresh (c : Counters) (step : String) : StepCounters := (c.steps.find? step).getD .fresh

theorem find?_snapshot (c : Counters) (step : String) :
    c.snapshot.steps.find? step = (c.steps.find? step).map StepCounters.snapshot :=
  Dictionary.find?_map c.steps StepCounters.snapshot step

/-- The counters hold the numbers of a tally, and name the steps that were attempted in order. -/
structure Tells (tally : Tally) (c : Counters) : Prop where
  sorted : Dictionary.Sorted c.steps
  step : ∀ name, (c.stepOrFresh name).Tells (tally name)
  named : ∀ name, (c.steps.find? name).isSome = true ↔ 0 < (tally name).attempts

theorem tells_of_steps_eq_nil {c : Counters} (h : c.steps = []) : c.Tells fun _ _ ↦ 0 where
  sorted := h ▸ List.Pairwise.nil
  step name := by
    rw [stepOrFresh, h]
    exact StepCounters.tells_fresh
  named name := by
    rw [h]
    simp [Dictionary.find?, StepTally.attempts]

theorem Tells.congr {tally : Tally} {c d : Counters} (h : c.Tells tally)
    (hSteps : d.steps = c.steps) : d.Tells tally where
  sorted := hSteps ▸ h.sorted
  step name := by
    rw [stepOrFresh, hSteps]
    exact h.step name
  named name := hSteps ▸ h.named name

theorem Tells.record {tally : Tally} {c : Counters} (h : c.Tells tally) (step : String)
    (kind : OutcomeKind) (latency : Duration) :
    (c.record step kind latency).Tells (tally.add step kind) where
  sorted := Dictionary.sorted_update h.sorted _ _ _
  step name := by
    rw [stepOrFresh, find?_steps_record]
    split
    · next hName =>
      subst hName
      rw [Tally.add_self]
      exact (h.step step).record kind latency
    · next hName =>
      rw [Tally.add_of_ne (Ne.symm hName)]
      exact h.step name
  named name := by
    rw [find?_steps_record]
    split
    · next hName =>
      subst hName
      rw [Tally.add_self, StepTally.attempts_add]
      simp
    · next hName =>
      rw [Tally.add_of_ne (Ne.symm hName)]
      exact h.named name

/-- Latencies aside, the outcome of a run is known by its tally and its iterations. -/
theorem Tells.snapshot_eq {tally : Tally} {c d : Counters} (hc : c.Tells tally)
    (hd : d.Tells tally) (hIterations : c.iterations = d.iterations) :
    c.snapshot.withoutLatencies = d.snapshot.withoutLatencies := by
  unfold snapshot OutcomeSummary.withoutLatencies
  rw [hIterations]
  refine congrArg _ (Dictionary.eq_of_find? ?_ ?_ fun name ↦ ?_)
  · exact Dictionary.sorted_map (Dictionary.sorted_map hc.sorted _) _
  · exact Dictionary.sorted_map (Dictionary.sorted_map hd.sorted _) _
  · simp only [Dictionary.find?_map]
    have hNamed : (c.steps.find? name).isSome = (d.steps.find? name).isSome := by
      rw [Bool.eq_iff_iff, hc.named, hd.named]
    have hStep := (hc.step name).snapshot_eq (hd.step name)
    unfold stepOrFresh at hStep
    cases hFound : c.steps.find? name with
    | none =>
      rw [hFound] at hNamed
      have hOther : d.steps.find? name = none := by simpa using hNamed.symm
      rw [hOther]
    | some step =>
      rw [hFound] at hNamed hStep
      obtain ⟨other, hOther⟩ := Option.isSome_iff_exists.1 hNamed.symm
      rw [hOther] at hStep ⊢
      exact congrArg some hStep

end Counters

end StorefrontLoad
