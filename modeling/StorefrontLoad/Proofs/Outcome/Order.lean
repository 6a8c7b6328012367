import StorefrontLoad.Proofs.Outcome.Snapshot

/-!
# Counters forget the order of the calls

When calls are made one after the other, a step holds what its own records have made of it, and
iterations are counted apart from all steps. The records of a step commute: its counts and its total
are sums up to multiples of 2^64, its shortest and its longest latency are a minimum and a maximum.
So the counters depend on the calls that were made and not on their order.
-/

namespace StorefrontLoad

open Contention (Call Word)

/-- How a step has ended, and how long it took. -/
structure StepRecord where
  kind : OutcomeKind
  latency : Duration
  deriving DecidableEq

theorem toUInt64_countP_concat {α : Type} (p : α → Bool) (all : List α) (a : α) :
    ((all ++ [a]).countP p).toUInt64 = (all.countP p).toUInt64 + if p a then 1 else 0 := by
  rw [List.countP_append, List.countP_singleton]
  split
  · exact UInt64.ofNat_add _ _
  · exact (UInt64.add_zero _).symm

/-! ## One step -/

namespace StepCounters

theorem totalMicros_record (kind : OutcomeKind) (latency : Duration) (c : StepCounters) :
    (c.record kind latency).totalMicros = c.totalMicros + latency.microseconds := by
  cases kind <;> rfl

theorem toNat_minMicros_record (kind : OutcomeKind) (latency : Duration) (c : StepCounters) :
    (c.record kind latency).minMicros.toNat =
      min c.minMicros.toNat latency.microseconds.toNat := by
  have hWord : (c.record kind latency).minMicros =
      if latency.microseconds < c.minMicros then latency.microseconds else c.minMicros := by
    cases kind <;> rfl
  rw [hWord]
  split
  · next hLess => exact (Nat.min_eq_right (UInt64.lt_iff_toNat_lt.1 hLess).le).symm
  · next hNot =>
    exact (Nat.min_eq_left (UInt64.le_iff_toNat_le.1 (UInt64.not_lt.1 hNot))).symm

theorem toNat_maxMicros_record (kind : OutcomeKind) (latency : Duration) (c : StepCounters) :
    (c.record kind latency).maxMicros.toNat =
      max c.maxMicros.toNat latency.microseconds.toNat := by
  have hWord : (c.record kind latency).maxMicros =
      if c.maxMicros < latency.microseconds then latency.microseconds else c.maxMicros := by
    cases kind <;> rfl
  rw [hWord]
  split
  · next hLess => exact (Nat.max_eq_right (UInt64.lt_iff_toNat_lt.1 hLess).le).symm
  · next hNot =>
    exact (Nat.max_eq_left (UInt64.le_iff_toNat_le.1 (UInt64.not_lt.1 hNot))).symm

theorem read_record (word : Word) (kind : OutcomeKind) (latency : Duration) (c : StepCounters) :
    word.read (c.record kind latency) = word.read c + if word.concerns kind then 1 else 0 := by
  cases word with
  | attempted => exact attempted_record kind latency c
  | category k => simpa [Word.read, Word.concerns] using category_record kind k latency c

/-- A step is known by its words. -/
theorem eq_of_words {c d : StepCounters} (hRead : ∀ word : Word, word.read c = word.read d)
    (hTotal : c.totalMicros = d.totalMicros) (hMin : c.minMicros = d.minMicros)
    (hMax : c.maxMicros = d.maxMicros) : c = d := by
  have hAttempted : c.attempted = d.attempted := hRead .attempted
  have hSucceeded : c.succeeded = d.succeeded := hRead (.category .succeeded)
  have hTransport : c.failedTransport = d.failedTransport := hRead (.category .transportFailure)
  have hParse : c.failedParse = d.failedParse := hRead (.category .parseFailure)
  have hBusiness : c.failedBusiness = d.failedBusiness := hRead (.category .businessFailure)
  have hNoData : c.noUsableData = d.noUsableData := hRead (.category .noUsableData)
  cases c
  cases d
  simp_all

theorem record_right_comm (c : StepCounters) (first second : StepRecord) :
    (c.record first.kind first.latency).record second.kind second.latency =
      (c.record second.kind second.latency).record first.kind first.latency := by
  apply eq_of_words
  · intro word
    simp only [read_record]
    ac_rfl
  · simp only [totalMicros_record]
    ac_rfl
  · apply UInt64.toNat_inj.1
    simp only [toNat_minMicros_record]
    exact min_right_comm _ _ _
  · apply UInt64.toNat_inj.1
    simp only [toNat_maxMicros_record]
    exact max_right_comm _ _ _

/-- What some records make of a step. -/
def ofRecords (records : List StepRecord) : StepCounters :=
  records.foldl (fun c r ↦ c.record r.kind r.latency) fresh

theorem ofRecords_append (records : List StepRecord) (r : StepRecord) :
    ofRecords (records ++ [r]) = (ofRecords records).record r.kind r.latency := by
  simp [ofRecords]

theorem ofRecords_perm {records other : List StepRecord} (h : other.Perm records) :
    ofRecords other = ofRecords records :=
  h.foldl_eq' (fun first _ second _ c ↦ record_right_comm c first second) fresh

/-- A word counts the records that concern it. -/
theorem read_ofRecords (word : Word) (records : List StepRecord) :
    word.read (ofRecords records) =
      (records.countP fun r ↦ word.concerns r.kind).toUInt64 := by
  induction records using List.reverseRecOn with
  | nil => exact word.read_fresh
  | append_singleton records r ih =>
    rw [ofRecords_append, read_record, ih, toUInt64_countP_concat]

end StepCounters

/-! ## All steps -/

namespace Contention.Call

/-- What a call does to the counters when it is the only one at work. -/
def perform : Call → Counters → Counters
  | record step kind latency => .record step kind latency
  | touch step => .touch step
  | countIteration => .recordIteration

/-- What a call records of this step. -/
def record? (step : String) : Call → Option StepRecord
  | record name kind latency => if name = step then some ⟨kind, latency⟩ else none
  | touch _ | countIteration => none

variable (call : Call) (step : String) (c : Counters)

/-- A call changes the step that it names, which is there from then on, and no other. -/
theorem find?_perform :
    (call.perform c).steps.find? step =
      if call.step? = some step then
        some (((call.record? step).elim id fun r ↦ .record r.kind r.latency) (c.stepOrFresh step))
      else c.steps.find? step := by
  cases call with
  | record name kind latency =>
    by_cases hName : name = step
    · subst hName
      simp [perform, step?, record?, Counters.stepOrFresh]
    · simp [perform, step?, hName]
  | touch name =>
    by_cases hName : name = step
    · subst hName
      simp [perform, step?, record?, Counters.touch, Counters.stepOrFresh]
    · simp [perform, step?, hName, Counters.touch]
  | countIteration => simp [perform, step?, Counters.recordIteration]

theorem sorted_perform (h : Dictionary.Sorted c.steps) :
    Dictionary.Sorted (call.perform c).steps := by
  cases call with
  | record | touch => exact Dictionary.sorted_update h _ _ _
  | countIteration => exact h

theorem iterations_perform :
    (call.perform c).iterations = c.iterations + if call.isIteration then 1 else 0 := by
  cases call with
  | record | touch => exact (UInt64.add_zero _).symm
  | countIteration => rfl

/-- A call that does not name a step records nothing of it. -/
theorem record?_of_ne (h : call.step? ≠ some step) : call.record? step = none := by
  cases call with
  | record name kind latency =>
    have hName : name ≠ step := fun hEq ↦ h (congrArg some hEq)
    exact if_neg hName
  | touch | countIteration => rfl

theorem countP_record? (word : Word) (calls : List Call) :
    (calls.filterMap (record? step)).countP (fun r ↦ word.concerns r.kind) =
      calls.countP (counts step word) := by
  rw [List.countP_filterMap]
  refine List.countP_congr fun call _ ↦ ?_
  cases call with
  | record name kind latency => by_cases hName : name = step <;> simp [record?, counts, hName]
  | touch | countIteration => rfl

end Contention.Call

namespace Counters

/-- The counters after some calls, one after the other. -/
def ofCalls (calls : List Call) : Counters := calls.foldl (fun c call ↦ call.perform c) fresh

theorem ofCalls_append (calls : List Call) (call : Call) :
    ofCalls (calls ++ [call]) = call.perform (ofCalls calls) := by
  simp [ofCalls]

theorem sorted_ofCalls (calls : List Call) : Dictionary.Sorted (ofCalls calls).steps := by
  induction calls using List.reverseRecOn with
  | nil => exact .nil
  | append_singleton calls call ih =>
    rw [ofCalls_append]
    exact call.sorted_perform _ ih

theorem iterations_ofCalls (calls : List Call) :
    (ofCalls calls).iterations = (calls.countP Call.isIteration).toUInt64 := by
  induction calls using List.reverseRecOn with
  | nil => rfl
  | append_singleton calls call ih =>
    rw [ofCalls_append, Call.iterations_perform, ih, toUInt64_countP_concat]

/-- A step is there as soon as a call has named it, and holds what its own records have made of
it. -/
theorem find?_ofCalls (calls : List Call) (step : String) :
    (ofCalls calls).steps.find? step =
      if ∃ call ∈ calls, call.step? = some step then
        some (.ofRecords (calls.filterMap (Call.record? step)))
      else none := by
  induction calls using List.reverseRecOn with
  | nil => simp [ofCalls, fresh, Dictionary.find?]
  | append_singleton calls call ih =>
    -- Without a call that names the step there is nothing recorded of it either.
    have hHeld : (ofCalls calls).stepOrFresh step =
        .ofRecords (calls.filterMap (Call.record? step)) := by
      rw [stepOrFresh, ih]
      split
      · rfl
      · next hNone =>
        have hNothing : calls.filterMap (Call.record? step) = [] :=
          List.filterMap_eq_nil_iff.2 fun other hMem ↦
            other.record?_of_ne step fun hStep ↦ hNone ⟨other, hMem, hStep⟩
        rw [hNothing]
        rfl
    rw [ofCalls_append, Call.find?_perform, hHeld, ih, List.filterMap_append]
    by_cases hStep : call.step? = some step
    · rw [if_pos hStep, if_pos ⟨call, by simp, hStep⟩]
      cases hRecord : call.record? step with
      | none => simp [hRecord]
      | some r => simp [hRecord, StepCounters.ofRecords_append]
    · have hNothing := call.record?_of_ne step hStep
      simp [hStep, hNothing, or_and_right, exists_or]

theorem ofCalls_perm {calls other : List Call} (h : other.Perm calls) :
    ofCalls other = ofCalls calls := by
  have hSteps : (ofCalls other).steps = (ofCalls calls).steps := by
    refine Dictionary.eq_of_find? (sorted_ofCalls _) (sorted_ofCalls _) fun step ↦ ?_
    simp only [find?_ofCalls, h.mem_iff, StepCounters.ofRecords_perm (h.filterMap _)]
  have hIterations : (ofCalls other).iterations = (ofCalls calls).iterations := by
    rw [iterations_ofCalls, iterations_ofCalls, h.countP_eq]
  calc
    ofCalls other = ⟨(ofCalls other).iterations, (ofCalls other).steps⟩ := rfl
    _ = ⟨(ofCalls calls).iterations, (ofCalls calls).steps⟩ := by rw [hSteps, hIterations]
    _ = ofCalls calls := rfl

/-- Without a call of its own a step is as before. -/
theorem find?_snapshot_perform {call : Call} {step : String} (h : call.step? ≠ some step)
    (c : Counters) : (call.perform c).snapshot.steps.find? step = c.snapshot.steps.find? step := by
  rw [find?_snapshot, find?_snapshot, Call.find?_perform, if_neg h]

theorem mem_keys_ofCalls (calls : List Call) (step : String) :
    step ∈ (ofCalls calls).snapshot.steps.keys ↔ ∃ call ∈ calls, call.step? = some step := by
  rw [← Dictionary.isSome_find?_iff, find?_snapshot, find?_ofCalls, Option.isSome_map]
  split <;> simp_all

/-- While a word can count all calls, it is the number of those that concern it. -/
theorem told_ofCalls {calls : List Call} (hFew : calls.length < 2 ^ 64) {step : String}
    {summary : StepSummary} (h : (ofCalls calls).snapshot.steps.find? step = some summary)
    (word : Word) : (word.told summary).toNat = calls.countP (Call.counts step word) := by
  rw [find?_snapshot, find?_ofCalls, Option.map_eq_some_iff] at h
  obtain ⟨c, hFound, rfl⟩ := h
  split at hFound
  · obtain rfl := Option.some.inj hFound
    rw [Word.told_snapshot, StepCounters.read_ofRecords, Call.countP_record?]
    exact Nat.mod_eq_of_lt (List.countP_le_length.trans_lt hFew)
  · cases hFound

/-- Counters are exact whatever the order of the calls: the steps are those that were named,
iterations and outcomes are the numbers of calls that count them, and every attempt is a success or
a failure. A call leaves all steps alone but its own. The same calls in another order come to the
same outcome, latencies included. -/
theorem exact_in_any_order (calls : List Call) (hFew : calls.length < 2 ^ 64) :
    let outcome := (ofCalls calls).snapshot
    (∀ step, step ∈ outcome.steps.keys ↔ ∃ call ∈ calls, call.step? = some step) ∧
    outcome.steps.keys.Nodup ∧
    outcome.iterations.toNat = calls.countP Call.isIteration ∧
    (∀ step summary, outcome.steps.find? step = some summary →
      (∀ word : Word, (word.told summary).toNat = calls.countP (Call.counts step word)) ∧
      summary.failed.toNat = summary.failedTransport.toNat + summary.failedParse.toNat +
        summary.failedBusiness.toNat + summary.noUsableData.toNat ∧
      summary.attempted.toNat = summary.succeeded.toNat + summary.failed.toNat) ∧
    (∀ (c : Counters) (call : Call) (step : String), call.step? ≠ some step →
      (call.perform c).snapshot.steps.find? step = c.snapshot.steps.find? step) ∧
    ∀ other : List Call, other.Perm calls → (ofCalls other).snapshot = outcome := by
  intro outcome
  refine ⟨mem_keys_ofCalls calls, ?_, ?_, ?_, fun c call step ↦ (find?_snapshot_perform · c), ?_⟩
  · exact Dictionary.nodup_keys (Dictionary.sorted_map (sorted_ofCalls calls) _)
  · have hIterations : outcome.iterations = (calls.countP Call.isIteration).toUInt64 :=
      iterations_ofCalls calls
    rw [hIterations]
    exact Nat.mod_eq_of_lt (List.countP_le_length.trans_lt hFew)
  · intro step summary hFound
    have hTold := told_ofCalls hFew hFound
    have hAttempts := Contention.countP_attempted calls step
    simp only [← hTold, Word.told] at hAttempts
    have hBound := summary.attempted.toNat_lt
    -- All outcomes together fit into a word, so the sum of the failures does.
    have hFailed : summary.failed.toNat = summary.failedTransport.toNat +
        summary.failedParse.toNat + summary.failedBusiness.toNat + summary.noUsableData.toNat := by
      simp only [StepSummary.failed, UInt64.toNat_add]
      omega
    exact ⟨hTold, hFailed, by omega⟩
  · intro other hPerm
    rw [ofCalls_perm hPerm]

namespace Mixed

/-- Two steps in turn. One of them is looked at before anything is known of it, and one latency is
too long for a word. -/
def calls : List Call :=
  [.touch "b", .record "a" .succeeded ⟨2500⟩, .countIteration,
    .record "b" .parseFailure (.ofSeconds (2 ^ 64)), .record "a" .noUsableData .zero]

end Mixed

theorem exact_in_any_order_mixed :
    Mixed.calls.length < 2 ^ 64 ∧
    (ofCalls Mixed.calls).snapshot.iterations.toNat = 1 ∧
    (∃ summary, (ofCalls Mixed.calls).snapshot.steps.find? "a" = some summary ∧
      summary.attempted.toNat = 2 ∧ summary.succeeded.toNat = 1 ∧ summary.failed.toNat = 1) ∧
    (ofCalls Mixed.calls.reverse).snapshot = (ofCalls Mixed.calls).snapshot := by
  have hFew : Mixed.calls.length < 2 ^ 64 := by decide
  obtain ⟨hNamed, _, hIterations, hSteps, _, hPerm⟩ := exact_in_any_order Mixed.calls hFew
  have hThere : "a" ∈ (ofCalls Mixed.calls).snapshot.steps.keys :=
    (hNamed "a").2 ⟨.record "a" .noUsableData .zero, by decide, rfl⟩
  obtain ⟨summary, hFound⟩ := Option.isSome_iff_exists.1 (Dictionary.isSome_find?_iff.2 hThere)
  obtain ⟨hTold, _, hBalance⟩ := hSteps "a" summary hFound
  have hAttempted : summary.attempted.toNat = 2 := hTold .attempted
  have hSucceeded : summary.succeeded.toNat = 1 := hTold (.category .succeeded)
  exact ⟨hFew, hIterations, ⟨summary, hFound, hAttempted, hSucceeded, by omega⟩,
    hPerm _ Mixed.calls.reverse_perm⟩

end Counters

end StorefrontLoad
