import StorefrontLoad.Run.Definition

/-!
# What a definition has to come down to

A definition is built exactly when what it comes down to obeys every rule for a configuration. The
rules are enough for a deadline that comes, and neither after the ceiling nor after the duration
that was asked for.
-/

namespace StorefrontLoad

/-- It takes some iterations or some time. -/
def StopCondition.IsPositive : StopCondition → Prop
  | iterations count => 0 < count
  | duration length => 0 < length.nanoseconds

theorem StopCondition.isPositive_iff (stop : StopCondition) :
    stop.IsPositive ↔ stop ≠ .iterations 0 ∧ stop ≠ .duration .zero := by
  cases stop with
  | iterations count => simp [IsPositive, Nat.pos_iff_ne_zero]
  | duration length =>
    cases length with
    | mk nanoseconds => simp [IsPositive, Nat.pos_iff_ne_zero, Duration.zero]

theorem Text.isBlank_eq_false_iff (text : List Char) :
    Text.isBlank text = false ↔ ∃ char ∈ text, Text.isWhiteSpace char = false := by
  simp [Text.isBlank]

namespace RunConfig

/-- The rules for a configuration. -/
structure IsRunnable (c : RunConfig) : Prop where
  agents : 1 ≤ c.concurrency
  stop : c.stopCondition.IsPositive
  ceiling : 0 < c.maxDuration.nanoseconds
  channel : ∃ char ∈ c.channel.toList, Text.isWhiteSpace char = false
  target : ∃ url, Url.parse c.targetUrl = .ok url ∧
    (url.schemeText = "http" ∨ url.schemeText = "https")

theorem rule_iff {p : Prop} [Decidable p] {reason : Invalid} {more : Except Invalid Unit} :
    (if p then .error reason else more) = .ok () ↔ ¬ p ∧ more = .ok () := by
  split <;> simp [*]

/-- The order in which the rules are checked only decides which error comes first. -/
theorem validate_eq_ok_iff (c : RunConfig) : c.validate = .ok () ↔ c.IsRunnable := by
  have hCeiling : ¬ c.maxDuration.isZero = true ↔ 0 < c.maxDuration.nanoseconds := by
    simp [Duration.isZero, Nat.pos_iff_ne_zero]
  rw [validate, rule_iff, rule_iff, rule_iff, rule_iff, rule_iff, hCeiling, Bool.not_eq_true,
    Text.isBlank_eq_false_iff]
  constructor
  · rintro ⟨hAgents, hIterations, hDuration, hMax, hChannel, hUrl⟩
    have hStop := (StopCondition.isPositive_iff _).2 ⟨hIterations, hDuration⟩
    refine ⟨Nat.pos_of_ne_zero hAgents, hStop, hMax, hChannel, ?_⟩
    split at hUrl
    · cases hUrl
    · next url hParse =>
      split at hUrl
      · next hScheme => exact ⟨url, hParse, hScheme⟩
      · cases hUrl
  · intro h
    obtain ⟨hIterations, hDuration⟩ := (StopCondition.isPositive_iff _).1 h.stop
    obtain ⟨url, hParse, hScheme⟩ := h.target
    refine ⟨Nat.ne_of_gt h.agents, hIterations, hDuration, h.ceiling, h.channel, ?_⟩
    simp only [hParse, if_pos hScheme]

theorem isRunnable_of_isOk {c : RunConfig} (h : c.validate.isOk = true) : c.IsRunnable := by
  cases hResult : c.validate with
  | error reason =>
    rw [hResult] at h
    cases h
  | ok => exact c.validate_eq_ok_iff.1 hResult

/-- The run is told to stop some time after its start, at its ceiling or before. -/
structure EndsInTime (c : RunConfig) : Prop where
  positive : 0 < c.deadline.nanoseconds
  ceiling : c.deadline.nanoseconds ≤ c.maxDuration.nanoseconds
  duration : ∀ length, c.stopCondition = .duration length →
    c.deadline.nanoseconds ≤ length.nanoseconds

theorem IsRunnable.endsInTime {c : RunConfig} (h : c.IsRunnable) : c.EndsInTime := by
  have hStop := h.stop
  cases hCondition : c.stopCondition with
  | iterations count =>
    have hDeadline : c.deadline = c.maxDuration := by rw [deadline, hCondition]
    refine ⟨hDeadline ▸ h.ceiling, hDeadline ▸ Nat.le_refl _, fun length hLength ↦ ?_⟩
    cases hCondition.symm.trans hLength
  | duration length =>
    have hDeadline : c.deadline.nanoseconds =
        Min.min length.nanoseconds c.maxDuration.nanoseconds := by
      rw [deadline, hCondition, Duration.nanoseconds_min]
    rw [hCondition] at hStop
    refine ⟨hDeadline ▸ Nat.lt_min.2 ⟨hStop, h.ceiling⟩, hDeadline ▸ Nat.min_le_right _ _,
      fun other hOther ↦ ?_⟩
    cases hCondition.symm.trans hOther
    exact hDeadline ▸ Nat.min_le_left _ _

end RunConfig

namespace ScenarioDefinition

theorem build_eq_ok_iff (d : ScenarioDefinition) (resolved : ResolvedScenario) :
    d.build = .ok resolved ↔ d.resolve = .ok resolved ∧ resolved.config.IsRunnable := by
  unfold build
  cases d.resolve with
  | error e => simp
  | ok found =>
    have hValid := found.config.validate_eq_ok_iff
    cases hResult : found.config.validate with
    | error reason =>
      rw [hResult] at hValid
      simp only [reduceCtorEq, false_iff] at hValid
      simp only [reduceCtorEq, hResult, Except.ok.injEq, false_iff, not_and]
      rintro rfl
      exact hValid
    | ok =>
      simp only [hResult, Except.ok.injEq, iff_self_and]
      rintro rfl
      exact hValid.1 hResult

end ScenarioDefinition

end StorefrontLoad
