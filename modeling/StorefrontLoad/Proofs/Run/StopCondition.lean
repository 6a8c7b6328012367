import StorefrontLoad.Proofs.Run.Definition
import StorefrontLoad.Proofs.Run.Fingerprint
import StorefrontLoad.Proofs.Run.Performance

/-!
# Runs told apart by their stop conditions

A summary keeps a count of iterations as it is and a duration in whole milliseconds, as far as a
word can hold them. Nothing else of the stop condition comes into the fingerprint, and all of this
does. So two runs that are configured alike up to their stop conditions are told apart unless both
are bounded by durations of the same whole milliseconds.
-/

namespace StorefrontLoad

/-! ## What a summary keeps -/

namespace StopCondition

def bound : StopCondition → RunSummary.Bound
  | .iterations count => .iterations count.toUInt64
  | .duration length => .duration length.milliseconds

/-- Iterations are counted by a word. -/
def IsWord : StopCondition → Prop
  | .iterations count => count < 2 ^ 64
  | .duration _ => True

/-- The same count, or the same whole milliseconds up to the largest word. -/
def SameBound : StopCondition → StopCondition → Prop
  | .iterations m, .iterations n => m = n
  | .duration a, .duration b =>
    min (a.nanoseconds / 1000000) (2 ^ 64 - 1) = min (b.nanoseconds / 1000000) (2 ^ 64 - 1)
  | .iterations _, .duration _ | .duration _, .iterations _ => False

theorem bound_eq_iff {s t : StopCondition} (hs : s.IsWord) (ht : t.IsWord) :
    s.bound = t.bound ↔ s.SameBound t := by
  cases s with
  | iterations m =>
    cases t with
    | iterations n =>
      have hWords : m.toUInt64 = n.toUInt64 ↔ m = n := by
        rw [← UInt64.toNat_inj]
        simp only [UInt64.toNat_ofNat', Nat.toUInt64_eq, Nat.mod_eq_of_lt hs, Nat.mod_eq_of_lt ht]
      simpa [bound, SameBound] using hWords
    | duration b => simp [bound, SameBound]
  | duration a =>
    cases t with
    | iterations n => simp [bound, SameBound]
    | duration b =>
      have hWords : a.milliseconds = b.milliseconds ↔
          (StopCondition.duration a).SameBound (.duration b) := by
        rw [← UInt64.toNat_inj, Duration.toNat_milliseconds, Duration.toNat_milliseconds]
        exact Iff.rfl
      simpa [bound] using hWords

end StopCondition

/-- The configurations differ in nothing but their stop conditions. -/
def RunConfig.IsAlikeUpToStop (c d : RunConfig) : Prop :=
  d = { c with stopCondition := d.stopCondition }

namespace RunSummary

/-- The summary names the scenario and its configuration. -/
structure Describes (summary : RunSummary) (resolved : ResolvedScenario) : Prop where
  scenarioName : summary.scenarioName = resolved.name
  bound : summary.IsBoundedBy resolved.config.stopCondition.bound
  agentCount : summary.agentCount = resolved.config.concurrency.toUInt64
  channel : summary.channel = resolved.config.channel
  version : summary.version = currentVersion

/-- Of scenarios that are alike up to their stop conditions the fingerprint sees these. -/
theorem Describes.fingerprintBytes_eq_iff {s t : RunSummary} {first second : ResolvedScenario}
    (hs : s.Describes first) (ht : t.Describes second) (hName : first.name = second.name)
    (hAlike : first.config.IsAlikeUpToStop second.config) :
    s.fingerprintBytes = t.fingerprintBytes ↔
      first.config.stopCondition.bound = second.config.stopCondition.bound := by
  unfold RunConfig.IsAlikeUpToStop at hAlike
  have hAgents : second.config.concurrency = first.config.concurrency := by rw [hAlike]
  have hChannel : second.config.channel = first.config.channel := by rw [hAlike]
  rw [fingerprintBytes_eq hs.bound, fingerprintBytes_eq ht.bound, hs.scenarioName, ht.scenarioName,
    hs.agentCount, ht.agentCount, hs.channel, ht.channel, hs.version, ht.version, hName, hAgents,
    hChannel]
  constructor
  · intro h
    exact (Bound.eq_of_bytes (List.append_cancel_left h)).1
  · intro h
    rw [h]

end RunSummary

/-! ## What a run hands out -/

namespace Run

variable {σ R V : Type} {setting : Setting σ R V}

theorem describes_summarise (occasion : Occasion) (resolved : ResolvedScenario) (s : State σ V)
    (outcome : OutcomeSummary) : (summarise occasion resolved s outcome).Describes resolved := by
  have hBound : (summarise occasion resolved s outcome).IsBoundedBy
      resolved.config.stopCondition.bound := by
    cases hStop : resolved.config.stopCondition with
    | iterations count =>
      simp only [summarise, hStop]
      exact ⟨rfl, rfl⟩
    | duration length =>
      simp only [summarise, hStop]
      exact ⟨rfl, rfl⟩
  exact ⟨rfl, hBound, rfl, rfl, rfl⟩

namespace Performance

/-- Wherever the conductor is, it goes by the scenario that was built, and a summary describes this
scenario. -/
def GoesByBuild (setting : Setting σ R V) (p : Performance σ R V) : Prop :=
  match p.conductor with
  | .building | .returned (.failed _) _ | .returned (.panicked _) _ => True
  | .inHook _ resolved _ | .joining resolved _ _ | .reporting resolved _ =>
    setting.definition.build = .ok resolved
  | .storing resolved _ summary =>
    setting.definition.build = .ok resolved ∧ summary.Describes resolved
  | .returned (.finished summary) _ =>
    ∃ resolved, setting.definition.build = .ok resolved ∧ summary.Describes resolved

theorem goesByBuild_build (p : Performance σ R V) : (p.build setting).GoesByBuild setting := by
  unfold build
  cases hBuild : setting.definition.build with
  | error e => trivial
  | ok resolved =>
    cases hHook : setting.hooks.setup with
    | none => exact hBuild
    | some hook => exact hBuild

theorem goesByBuild_dismiss {resolved : ResolvedScenario}
    (hBuilt : setting.definition.build = .ok resolved) (shared : R) (p : Performance σ R V) :
    (p.dismiss setting resolved shared).GoesByBuild setting := by
  unfold dismiss
  cases hHook : setting.hooks.teardown with
  | none => exact hBuilt
  | some hook => exact hBuilt

theorem goesByBuild_afterHook {resolved : ResolvedScenario}
    (hBuilt : setting.definition.build = .ok resolved) (side : Side) (shared : R) (ending : Ending)
    (p : Performance σ R V) :
    (p.afterHook setting side resolved shared ending).GoesByBuild setting := by
  unfold afterHook
  cases side with
  | before =>
    cases ending with
    | ok => exact hBuilt
    | failed | panicked => trivial
  | after =>
    cases ending with
    | ok | failed => exact hBuilt
    | panicked => trivial

theorem goesByBuild_join {resolved : ResolvedScenario}
    (hBuilt : setting.definition.build = .ok resolved) {shared : R} {agent : Nat}
    {p next : Performance σ R V} (h : p.join setting resolved shared agent = some next) :
    next.GoesByBuild setting := by
  unfold join at h
  split at h
  · cases h
    exact goesByBuild_dismiss hBuilt shared p
  · split at h
    · cases h
      exact hBuilt
    · cases h
      trivial
    · cases h

theorem goesByBuild_store {resolved : ResolvedScenario}
    (hBuilt : setting.definition.build = .ok resolved) {summary : RunSummary}
    (hDescribes : summary.Describes resolved) (shared : R) (p : Performance σ R V) :
    (p.store resolved shared summary).GoesByBuild setting := by
  have hConductor : (p.store resolved shared summary).conductor =
      .returned (Run.store summary resolved.summaryFile p.disk p.state.world).1 shared := rfl
  unfold GoesByBuild
  rw [hConductor]
  cases hStored : (Run.store summary resolved.summaryFile p.disk p.state.world).1 with
  | finished stored =>
    obtain rfl := eq_of_store hStored
    exact ⟨resolved, hBuilt, hDescribes⟩
  | failed trouble => trivial
  | panicked message => trivial

theorem GoesByBuild.conduct {p next : Performance σ R V} (h : p.GoesByBuild setting)
    (hNext : p.conduct setting = some next) : next.GoesByBuild setting := by
  unfold Performance.conduct at hNext
  unfold GoesByBuild at h
  split at hNext
  · cases hNext
    exact goesByBuild_build p
  · next side resolved action rest hConductor =>
    rw [hConductor] at h
    obtain ⟨taken, _, rfl⟩ := Option.map_eq_some_iff.1 hNext
    exact h
  · next side resolved shared ending hConductor =>
    rw [hConductor] at h
    cases hNext
    exact goesByBuild_afterHook h side shared ending p
  · next resolved shared agent hConductor =>
    rw [hConductor] at h
    exact goesByBuild_join h hNext
  · next resolved shared hConductor =>
    rw [hConductor] at h
    cases hNext
    exact ⟨h, describes_summarise _ resolved _ _⟩
  · next resolved shared summary hConductor =>
    rw [hConductor] at h
    cases hNext
    exact goesByBuild_store h.1 h.2 shared p
  · cases hNext

/-- Only the conductor's own beats matter. -/
theorem GoesByBuild.apply {p next : Performance σ R V} (h : p.GoesByBuild setting) {beat : Beat}
    (hNext : p.apply setting beat = some next) : next.GoesByBuild setting := by
  cases beat with
  | conductor => exact h.conduct hNext
  | agent index =>
    obtain ⟨plan, _, hMove⟩ := Option.bind_eq_some_iff.1 hNext
    obtain ⟨s, _, rfl⟩ := Option.map_eq_some_iff.1 hMove
    exact h
  | stop reason =>
    cases hNext
    exact h

theorem GoesByBuild.applyAll {p last : Performance σ R V} (h : p.GoesByBuild setting)
    {beats : List Beat} (hPlayed : p.applyAll setting beats = some last) :
    last.GoesByBuild setting := by
  induction beats generalizing p with
  | nil =>
    cases hPlayed
    exact h
  | cons beat beats ih =>
    obtain ⟨next, hNext, hRest⟩ := Option.bind_eq_some_iff.1 hPlayed
    exact ih (h.apply hNext) hRest

end Performance

/-- Some performance of the setting ends with this summary. -/
def Setting.ComesTo (setting : Setting σ R V) (summary : RunSummary) : Prop :=
  ∃ last shared, Performance.Leads setting (.initial setting) last ∧
    last.conductor = .returned (.finished summary) shared

theorem Setting.ComesTo.describes {summary : RunSummary} (h : setting.ComesTo summary)
    {resolved : ResolvedScenario} (hBuilt : setting.definition.build = .ok resolved) :
    summary.Describes resolved := by
  obtain ⟨last, shared, ⟨beats, hPlayed⟩, hReturned⟩ := h
  have hStart : (Performance.initial setting).GoesByBuild setting := trivial
  have hLast := hStart.applyAll hPlayed
  rw [Performance.GoesByBuild, hReturned] at hLast
  obtain ⟨other, hOther, hDescribes⟩ := hLast
  obtain rfl := Except.ok.inj (hBuilt.symm.trans hOther)
  exact hDescribes

/-- The summary of an execution is that of a performance. -/
theorem Setting.comesTo_of_execute {account : Account R V} {summary : RunSummary}
    (h : execute setting.network setting.state setting.occasion setting.hooks setting.definition =
      some account)
    (hSummary : account.conclusion = .finished summary) : setting.ComesTo summary := by
  obtain ⟨last, hLeads, hAccount⟩ := Performance.leads_execute setting h
  unfold Performance.account? at hAccount
  split at hAccount
  · next conclusion shared hConductor =>
    cases hAccount
    cases hSummary
    exact ⟨last, shared, hLeads, hConductor⟩
  · cases hAccount

/-- Two scenarios of one name have been built and are configured alike up to their stop conditions.
Whatever else happens in their runs, the same bytes are hashed for their summaries if and only if
they are bounded by the same count of iterations or by the same whole milliseconds. -/
theorem fingerprint_tells_stop {σ' R' V' : Type} {first : Setting σ R V}
    {second : Setting σ' R' V'} {resolved resolved' : ResolvedScenario}
    {summary summary' : RunSummary}
    (hBuilt : first.definition.build = .ok resolved)
    (hBuilt' : second.definition.build = .ok resolved')
    (hName : resolved.name = resolved'.name)
    (hAlike : resolved.config.IsAlikeUpToStop resolved'.config)
    (hWord : resolved.config.stopCondition.IsWord)
    (hWord' : resolved'.config.stopCondition.IsWord)
    (hSummary : first.ComesTo summary) (hSummary' : second.ComesTo summary') :
    summary.fingerprintBytes = summary'.fingerprintBytes ↔
      resolved.config.stopCondition.SameBound resolved'.config.stopCondition := by
  have hBytes := (hSummary.describes hBuilt).fingerprintBytes_eq_iff (hSummary'.describes hBuilt')
    hName hAlike
  exact hBytes.trans (StopCondition.bound_eq_iff hWord hWord')

namespace Brief

def hooks : Hooks Unit Unit where
  shared := ()
  own := ()
  setup := none
  teardown := none
  agent := ⟨none, none, none⟩

def resolved (stop : StopCondition) : ResolvedScenario :=
  ⟨"brief", .of "http://a" "b" 1 stop, true, .noop, none, none⟩

/-- One agent without a behaviour, so the run is over at once. -/
def launch (stop : StopCondition) : Setting Unit Unit Unit :=
  ⟨.unreachable, (), ⟨"", 0, .empty [], 2⟩, hooks, .ofConfig "brief" (resolved stop).config⟩

def stops : List StopCondition := [.iterations 1, .duration ⟨1000000⟩, .duration ⟨1500000⟩]

def isFinished : Conclusion → Bool
  | .finished _ => true
  | .failed _ | .panicked _ => false

theorem build_launch {stop : StopCondition} (h : stop ∈ stops) :
    (launch stop).definition.build = .ok (resolved stop) := by
  have hAll : ∀ stop ∈ stops, (resolved stop).config.validate.isOk = true := by decide +kernel
  exact (ScenarioDefinition.build_eq_ok_iff _ _).2
    ⟨rfl, RunConfig.isRunnable_of_isOk (hAll stop h)⟩

theorem exists_comesTo {stop : StopCondition} (h : stop ∈ stops) :
    ∃ summary, (launch stop).ComesTo summary := by
  have hAll : ∀ stop ∈ stops, ((execute (launch stop).network (launch stop).state
      (launch stop).occasion (launch stop).hooks (launch stop).definition).any
        (isFinished ·.conclusion)) = true := by
    decide +kernel
  obtain ⟨account, hAccount, hFinished⟩ := Option.any_eq_true _ _ |>.1 (hAll stop h)
  cases hConclusion : account.conclusion with
  | finished summary => exact ⟨summary, Setting.comesTo_of_execute hAccount hConclusion⟩
  | failed | panicked =>
    rw [hConclusion] at hFinished
    cases hFinished

end Brief

theorem fingerprint_tells_stop_brief :
    ∃ summary summary', (Brief.launch (.iterations 1)).ComesTo summary ∧
      (Brief.launch (.duration ⟨1000000⟩)).ComesTo summary' ∧
      summary.fingerprintBytes ≠ summary'.fingerprintBytes := by
  have hFirst : .iterations 1 ∈ Brief.stops := by decide
  have hSecond : .duration ⟨1000000⟩ ∈ Brief.stops := by decide
  obtain ⟨summary, hSummary⟩ := Brief.exists_comesTo hFirst
  obtain ⟨summary', hSummary'⟩ := Brief.exists_comesTo hSecond
  refine ⟨summary, summary', hSummary, hSummary', fun hSame ↦ ?_⟩
  have hWord : (1 : Nat) < 2 ^ 64 := by decide
  exact (fingerprint_tells_stop (Brief.build_launch hFirst) (Brief.build_launch hSecond) rfl rfl
    hWord trivial hSummary hSummary').1 hSame

/-- Half a millisecond makes no difference. -/
theorem mistaken_brief :
    let one : StopCondition := .duration ⟨1000000⟩
    let more : StopCondition := .duration ⟨1500000⟩
    one ≠ more ∧ (Brief.resolved one).config.IsAlikeUpToStop (Brief.resolved more).config ∧
      (Brief.launch one).definition.build = .ok (Brief.resolved one) ∧
      (Brief.launch more).definition.build = .ok (Brief.resolved more) ∧
      ∃ summary summary', (Brief.launch one).ComesTo summary ∧
        (Brief.launch more).ComesTo summary' ∧
        summary.fingerprintBytes = summary'.fingerprintBytes := by
  intro one more
  have hFirst : one ∈ Brief.stops := by decide
  have hSecond : more ∈ Brief.stops := by decide
  have hOne : (Brief.launch one).definition.build = .ok (Brief.resolved one) :=
    Brief.build_launch hFirst
  have hMore : (Brief.launch more).definition.build = .ok (Brief.resolved more) :=
    Brief.build_launch hSecond
  have hAlike : (Brief.resolved one).config.IsAlikeUpToStop (Brief.resolved more).config := rfl
  obtain ⟨summary, hSummary⟩ := Brief.exists_comesTo hFirst
  obtain ⟨summary', hSummary'⟩ := Brief.exists_comesTo hSecond
  refine ⟨by decide, hAlike, hOne, hMore, summary, summary', hSummary, hSummary', ?_⟩
  refine ((hSummary.describes hOne).fingerprintBytes_eq_iff (hSummary'.describes hMore) rfl
    hAlike).2 ?_
  exact congrArg RunSummary.Bound.duration (by decide)

end Run

end StorefrontLoad
