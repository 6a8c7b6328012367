import StorefrontLoad.Proofs.Outcome.Order
import Mathlib.Algebra.Order.BigOperators.Group.List
import Mathlib.Algebra.Order.Field.Rat
import Mathlib.Order.Bounds.Basic

/-!
# What a step tells of its latencies

Latencies are kept as whole microseconds, those too long for a word as the largest word. The
shortest and the longest one are kept as they are, and the sum up to multiples of 2^64. The largest
word also stands for a step that has not been measured. So the statistics of a step fit together as
long as the sum fits into a word and some latency is shorter than the largest one, and not beyond.
-/

namespace StorefrontLoad

namespace StepRecord

/-- The whole microseconds of a latency, as far as a word can hold them. -/
def micros (r : StepRecord) : Nat := min (r.latency.nanoseconds / 1000) (2 ^ 64 - 1)

theorem micros_le (r : StepRecord) : r.micros ≤ 2 ^ 64 - 1 := Nat.min_le_right _ _

def latencies (records : List StepRecord) : Set Nat := {l | ∃ r ∈ records, r.micros = l}

theorem latencies_nil : latencies [] = ∅ := by simp [latencies]

theorem latencies_append (records : List StepRecord) (r : StepRecord) :
    latencies (records ++ [r]) = latencies records ∪ {r.micros} := by
  ext l
  simp only [latencies, Set.mem_ofPred_eq, List.mem_append, List.mem_singleton, or_and_right,
    exists_or, exists_eq_left, Set.mem_union, Set.mem_singleton_iff, @eq_comm _ l]

end StepRecord

namespace StepCounters

theorem toNat_microseconds (r : StepRecord) : r.latency.microseconds.toNat = r.micros :=
  r.latency.toNat_microseconds

theorem toNat_unmeasured : unmeasured.toNat = 2 ^ 64 - 1 := rfl

/-! ## The words of a step -/

theorem toNat_attempted_ofRecords (records : List StepRecord) :
    (ofRecords records).attempted.toNat = records.length % 2 ^ 64 := by
  have hRead := read_ofRecords .attempted records
  rw [Contention.Word.read] at hRead
  have hAll : records.countP (fun r ↦ Contention.Word.attempted.concerns r.kind) =
      records.length := List.countP_eq_length.2 fun _ _ ↦ rfl
  rw [hRead, hAll]
  exact UInt64.toNat_ofNat'

theorem toNat_totalMicros_ofRecords (records : List StepRecord) :
    (ofRecords records).totalMicros.toNat = (records.map StepRecord.micros).sum % 2 ^ 64 := by
  induction records using List.reverseRecOn with
  | nil => rfl
  | append_singleton records r ih =>
    rw [ofRecords_append, totalMicros_record, UInt64.toNat_add, ih, toNat_microseconds,
      Nat.mod_add_mod, List.map_append, List.sum_append, List.map_singleton, List.sum_singleton]

/-- The first latency takes the place of the largest word. -/
theorem isLeast_minMicros {records : List StepRecord} (h : records ≠ []) :
    IsLeast (StepRecord.latencies records) (ofRecords records).minMicros.toNat := by
  induction records using List.reverseRecOn with
  | nil => exact absurd rfl h
  | append_singleton records r ih =>
    rw [ofRecords_append, toNat_minMicros_record, toNat_microseconds, StepRecord.latencies_append]
    by_cases hFirst : records = []
    · subst hFirst
      have hMin : min (ofRecords []).minMicros.toNat r.micros = r.micros :=
        Nat.min_eq_right r.micros_le
      rw [hMin, StepRecord.latencies_nil, Set.empty_union]
      exact isLeast_singleton
    · exact (ih hFirst).union isLeast_singleton

theorem isGreatest_maxMicros {records : List StepRecord} (h : records ≠ []) :
    IsGreatest (StepRecord.latencies records) (ofRecords records).maxMicros.toNat := by
  induction records using List.reverseRecOn with
  | nil => exact absurd rfl h
  | append_singleton records r ih =>
    rw [ofRecords_append, toNat_maxMicros_record, toNat_microseconds, StepRecord.latencies_append]
    by_cases hFirst : records = []
    · subst hFirst
      have hMax : max (ofRecords []).maxMicros.toNat r.micros = r.micros :=
        Nat.max_eq_right (Nat.zero_le _)
      rw [hMax, StepRecord.latencies_nil, Set.empty_union]
      exact isGreatest_singleton
    · exact (ih hFirst).union isGreatest_singleton

/-! ## What is told of them -/

theorem latencies_of_unmeasured {c : StepCounters} (h : c.minMicros = unmeasured) :
    c.snapshot.minLatencyMs = none ∧ c.snapshot.maxLatencyMs = none := by
  simp only [snapshot, if_pos h, and_self]

theorem latencies_of_ne_unmeasured {c : StepCounters} (h : c.minMicros ≠ unmeasured) :
    c.snapshot.minLatencyMs = some (milliseconds c.minMicros) ∧
      c.snapshot.maxLatencyMs = some (milliseconds c.maxMicros) := by
  simp only [snapshot, if_neg h, and_self]

/-- A step counts as measured unless all its latencies are the largest word. -/
theorem minMicros_eq_unmeasured_iff {records : List StepRecord} (h : records ≠ []) :
    (ofRecords records).minMicros = unmeasured ↔ ∀ r ∈ records, r.micros = 2 ^ 64 - 1 := by
  obtain ⟨⟨first, hMem, hFirst⟩, hLeast⟩ := isLeast_minMicros h
  rw [← UInt64.toNat_inj, toNat_unmeasured]
  constructor
  · intro hMin r hThere
    exact Nat.le_antisymm r.micros_le (hMin ▸ hLeast ⟨r, hThere, rfl⟩)
  · intro hAll
    rw [← hFirst, hAll first hMem]

/-- What one expects of the latencies of a step: all attempts are counted, the shortest and the
longest latency and the sum are those that were recorded, they are shown, and the mean lies between
the shortest and the longest. -/
structure IsCoherent (records : List StepRecord) (c : StepCounters) : Prop where
  attempted : c.attempted.toNat = records.length
  least : IsLeast (StepRecord.latencies records) c.minMicros.toNat
  greatest : IsGreatest (StepRecord.latencies records) c.maxMicros.toNat
  total : c.totalMicros.toNat = (records.map StepRecord.micros).sum
  minShown : c.snapshot.minLatencyMs = some (milliseconds c.minMicros)
  maxShown : c.snapshot.maxLatencyMs = some (milliseconds c.maxMicros)
  meanShown : c.snapshot.meanLatencyMs = some (milliseconds c.totalMicros / c.attempted.toFloat)
  lower : c.attempted.toNat * c.minMicros.toNat ≤ c.totalMicros.toNat
  upper : c.totalMicros.toNat ≤ c.attempted.toNat * c.maxMicros.toNat
  mean_ge : (c.minMicros.toNat : ℚ) ≤ c.totalMicros.toNat / c.attempted.toNat
  mean_le : (c.totalMicros.toNat / c.attempted.toNat : ℚ) ≤ c.maxMicros.toNat

/-- The sum of latencies between two bounds. -/
theorem sum_micros_bounds {records : List StepRecord} {least greatest : Nat}
    (hLeast : least ∈ lowerBounds (StepRecord.latencies records))
    (hGreatest : greatest ∈ upperBounds (StepRecord.latencies records)) :
    records.length * least ≤ (records.map StepRecord.micros).sum ∧
      (records.map StepRecord.micros).sum ≤ records.length * greatest := by
  have hLower := List.card_nsmul_le_sum (records.map StepRecord.micros) least fun l hMem ↦
    hLeast (List.mem_map.1 hMem)
  have hUpper := List.sum_le_card_nsmul (records.map StepRecord.micros) greatest fun l hMem ↦
    hGreatest (List.mem_map.1 hMem)
  rw [List.length_map, nsmul_eq_mul, Nat.cast_id] at hLower hUpper
  exact ⟨hLower, hUpper⟩

theorem isCoherent_of_fits {records : List StepRecord} (hSome : records ≠ [])
    (hFew : records.length < 2 ^ 64) (hSum : (records.map StepRecord.micros).sum < 2 ^ 64)
    (hMeasured : ∃ r ∈ records, r.micros < 2 ^ 64 - 1) :
    IsCoherent records (ofRecords records) := by
  have hAttempted : (ofRecords records).attempted.toNat = records.length := by
    rw [toNat_attempted_ofRecords, Nat.mod_eq_of_lt hFew]
  have hTotal : (ofRecords records).totalMicros.toNat = (records.map StepRecord.micros).sum := by
    rw [toNat_totalMicros_ofRecords, Nat.mod_eq_of_lt hSum]
  have hLeast := isLeast_minMicros hSome
  have hGreatest := isGreatest_maxMicros hSome
  have hPositive : 0 < (ofRecords records).attempted.toNat := by
    rw [hAttempted]
    exact List.length_pos_iff.2 hSome
  have hMin : (ofRecords records).minMicros ≠ unmeasured := by
    obtain ⟨r, hMem, hLess⟩ := hMeasured
    rw [Ne, minMicros_eq_unmeasured_iff hSome]
    exact fun hAll ↦ absurd (hAll r hMem) hLess.ne
  have hBounds := sum_micros_bounds hLeast.2 hGreatest.2
  rw [← hTotal, ← hAttempted] at hBounds
  obtain ⟨hMinShown, hMaxShown⟩ := latencies_of_ne_unmeasured hMin
  refine ⟨hAttempted, hLeast, hGreatest, hTotal, hMinShown, hMaxShown, if_neg ?_, hBounds.1,
    hBounds.2, ?_, ?_⟩
  · exact fun hZero ↦ hPositive.ne' (congrArg UInt64.toNat hZero)
  · rw [le_div_iff₀ (Nat.cast_pos.2 hPositive), mul_comm]
    exact_mod_cast hBounds.1
  · rw [div_le_iff₀ (Nat.cast_pos.2 hPositive), mul_comm]
    exact_mod_cast hBounds.2

/-- Without records a step tells nothing of latencies. With some, what it tells is coherent if and
only if a word can count them and hold their sum, and some latency is below the largest word. -/
theorem coherent_iff_fits (records : List StepRecord) :
    (records = [] → (ofRecords records).snapshot.minLatencyMs = none ∧
      (ofRecords records).snapshot.maxLatencyMs = none ∧
      (ofRecords records).snapshot.meanLatencyMs = none) ∧
    (records ≠ [] → (IsCoherent records (ofRecords records) ↔
      records.length < 2 ^ 64 ∧ (records.map StepRecord.micros).sum < 2 ^ 64 ∧
        ∃ r ∈ records, r.micros < 2 ^ 64 - 1)) := by
  constructor
  · rintro rfl
    exact ⟨rfl, rfl, rfl⟩
  · intro hSome
    refine ⟨fun h ↦ ⟨?_, ?_, ?_⟩, fun ⟨hFew, hSum, hMeasured⟩ ↦
      isCoherent_of_fits hSome hFew hSum hMeasured⟩
    · rw [← h.attempted]
      exact UInt64.toNat_lt _
    · rw [← h.total]
      exact UInt64.toNat_lt _
    · by_contra hNone
      have hAll : ∀ r ∈ records, r.micros = 2 ^ 64 - 1 := by
        intro r hMem
        exact Nat.le_antisymm r.micros_le (Nat.not_lt.1 fun hLess ↦ hNone ⟨r, hMem, hLess⟩)
      have hHidden := latencies_of_unmeasured ((minMicros_eq_unmeasured_iff hSome).2 hAll)
      exact Option.some_ne_none _ (h.minShown.symm.trans hHidden.1)

theorem coherent_iff_fits_mixed :
    let records : List StepRecord :=
      [⟨.succeeded, ⟨2500⟩⟩, ⟨.transportFailure, .zero⟩, ⟨.succeeded, .ofSeconds (2 ^ 43)⟩]
    IsCoherent records (ofRecords records) := by
  intro records
  refine ((coherent_iff_fits records).2 (by decide)).2 ⟨by decide, by decide, ?_⟩
  exact ⟨⟨.succeeded, ⟨2500⟩⟩, by decide, by decide⟩

/-- A single latency that is too long for a word counts as none. Two latencies that are not add up
to a sum that is. -/
theorem incoherent_long :
    let long := ofRecords [⟨.succeeded, ⟨(2 ^ 64 - 1) * 1000⟩⟩]
    let twice := ofRecords (List.replicate 2 ⟨.succeeded, ⟨2 ^ 63 * 1000⟩⟩)
    (long.attempted = 1 ∧ long.snapshot.minLatencyMs = none ∧ long.snapshot.maxLatencyMs = none) ∧
    twice.attempted = 2 ∧ twice.minMicros.toNat = 2 ^ 63 ∧ twice.totalMicros = 0 ∧
      ¬ twice.attempted.toNat * twice.minMicros.toNat ≤ twice.totalMicros.toNat := by
  intro long twice
  have hMin : long.minMicros = unmeasured := by decide
  exact ⟨⟨by decide, latencies_of_unmeasured hMin⟩, by decide⟩

end StepCounters

end StorefrontLoad
