import StorefrontLoad.Proofs.Run.Definition
import StorefrontLoad.Run.Builder

/-!
# What a builder comes down to

Only the last call for a part counts, and calls for different parts do not get in each other's way.
What the command line says counts before what the calls say, and a ready-made configuration makes
all defaults idle. Whatever the configuration comes from, it is built exactly when it obeys every
rule.
-/

namespace StorefrontLoad.Run.Builder

open ScenarioDefinition (stopCondition? concurrencyOf configOf)

variable {R V : Type}

/-! ## Calls one after the other -/

/-- What a call can set. -/
inductive Part
  | concurrency
  | stopCondition
  | setup
  | agentSetup
  | agentBehaviour
  | agentTeardown
  | teardown
  deriving DecidableEq, Repr

def Call.part : Call R V → Part
  | defaultConcurrency _ => .concurrency
  | defaultIterations _ | defaultSeconds _ => .stopCondition
  | setup _ => .setup
  | agentSetup _ => .agentSetup
  | agentBehaviour _ => .agentBehaviour
  | agentTeardown _ => .agentTeardown
  | teardown _ => .teardown

/-- Whether the part is a default for the configuration and not a hook. -/
def Part.isDefault : Part → Bool
  | concurrency | stopCondition => true
  | setup | agentSetup | agentBehaviour | agentTeardown | teardown => false

theorem apply_comm (b : Builder R V) {first second : Call R V} (h : first.part ≠ second.part) :
    (b.apply first).apply second = (b.apply second).apply first := by
  cases first <;> cases second <;> first | exact absurd rfl h | rfl

theorem applyAll_append (b : Builder R V) (calls more : List (Call R V)) :
    b.applyAll (calls ++ more) = (b.applyAll calls).applyAll more := List.foldl_append

theorem applyAll_swap (b : Builder R V) {first second : Call R V} (h : first.part ≠ second.part)
    (calls more : List (Call R V)) :
    b.applyAll (calls ++ first :: second :: more) =
      b.applyAll (calls ++ second :: first :: more) := by
  rw [applyAll_append, applyAll_append]
  exact congrArg (·.applyAll more) ((b.applyAll calls).apply_comm h)

/-- What no call changes stays. -/
theorem applyAll_eq_of_apply {α : Type} (get : Builder R V → α)
    (h : ∀ b call, get (b.apply call) = get b) (b : Builder R V) (calls : List (Call R V)) :
    get (b.applyAll calls) = get b := by
  induction calls generalizing b with
  | nil => rfl
  | cons call calls ih => exact (ih (b.apply call)).trans (h b call)

/-- What a call replaces is in the end what the last call has given. -/
theorem applyAll_last {α : Type} (get : Builder R V → Option α) (given? : Call R V → Option α)
    (h : ∀ b call, get (b.apply call) = (given? call).or (get b)) (b : Builder R V)
    (calls : List (Call R V)) :
    get (b.applyAll calls) = (calls.filterMap given?).getLast?.or (get b) := by
  induction calls generalizing b with
  | nil => rfl
  | cons call calls ih =>
    calc get ((b.apply call).applyAll calls)
        = (calls.filterMap given?).getLast?.or ((given? call).or (get b)) := by rw [ih, h]
      _ = ((call :: calls).filterMap given?).getLast?.or (get b) := by
        -- A later call hides what this one has given.
        cases hGiven : given? call with
        | none => simp [hGiven]
        | some a => cases hLast : (calls.filterMap given?).getLast? <;>
            simp [hGiven, hLast, List.getLast?_cons]

/-! ## Defaults -/

/-- The number of agents that a call gives. -/
def Call.concurrency? : Call R V → Option Nat
  | defaultConcurrency count => some count
  | _ => none

def Call.stopCondition? : Call R V → Option StopCondition
  | defaultIterations count => some (.iterations count)
  | defaultSeconds seconds => some (.duration (.ofSeconds seconds))
  | _ => none

def lastConcurrency? (calls : List (Call R V)) : Option Nat :=
  (calls.filterMap Call.concurrency?).getLast?

def lastStopCondition? (calls : List (Call R V)) : Option StopCondition :=
  (calls.filterMap Call.stopCondition?).getLast?

/-- Of all calls only the last ones for each default are left in the definition. -/
theorem definition_applyAll (name : String) (source : ConfigSource) (shared : R) (own : V)
    (calls : List (Call R V)) :
    ((ofSource name source shared own).applyAll calls).definition =
      ⟨name, source, lastConcurrency? calls, lastStopCondition? calls⟩ := by
  have hName := applyAll_eq_of_apply (·.definition.name) (fun _ call ↦ by cases call <;> rfl)
    (ofSource name source shared own) calls
  have hSource := applyAll_eq_of_apply (·.definition.source) (fun _ call ↦ by cases call <;> rfl)
    (ofSource name source shared own) calls
  have hConcurrency := applyAll_last (·.definition.defaultConcurrency) Call.concurrency?
    (fun _ call ↦ by cases call <;> rfl) (ofSource name source shared own) calls
  have hStop := applyAll_last (·.definition.defaultStopCondition) Call.stopCondition?
    (fun _ call ↦ by cases call <;> rfl) (ofSource name source shared own) calls
  calc ((ofSource name source shared own).applyAll calls).definition
      = ⟨name, source, (lastConcurrency? calls).or none, (lastStopCondition? calls).or none⟩ := by
        cases hAll : ((ofSource name source shared own).applyAll calls).definition with
        | mk _ _ _ _ =>
          rw [hAll] at hName hSource hConcurrency hStop
          rw [ScenarioDefinition.mk.injEq]
          exact ⟨hName, hSource, hConcurrency, hStop⟩
    _ = ⟨name, source, lastConcurrency? calls, lastStopCondition? calls⟩ := by
        rw [Option.or_none, Option.or_none]

/-! ## The configuration -/

/-- Iterations on the command line count before a duration there, and either before the last
default. -/
inductive StopsBy (arguments : CommandLine.Arguments) (calls : List (Call R V)) :
    StopCondition → Prop
  | iterations {count : UInt64} (given : arguments.iterations = some count) :
      StopsBy arguments calls (.iterations count.toNat)
  | duration {seconds : UInt64} (uncounted : arguments.iterations = none)
      (given : arguments.duration = some seconds) :
      StopsBy arguments calls (.duration (.ofSeconds seconds.toNat))
  | default {stop : StopCondition} (uncounted : arguments.iterations = none)
      (untimed : arguments.duration = none) (last : lastStopCondition? calls = some stop) :
      StopsBy arguments calls stop

/-- The command line counts before the last default, and without either there is one agent. -/
inductive RunsWith (arguments : CommandLine.Arguments) (calls : List (Call R V)) : Nat → Prop
  | given {count : UInt64} (given : arguments.concurrency = some count) :
      RunsWith arguments calls count.toNat
  | default {count : Nat} (uncounted : arguments.concurrency = none)
      (last : lastConcurrency? calls = some count) : RunsWith arguments calls count
  | single (uncounted : arguments.concurrency = none)
      (unset : ∀ call ∈ calls, call.concurrency? = none) : RunsWith arguments calls 1

theorem stopsBy_iff {arguments : CommandLine.Arguments} {calls : List (Call R V)}
    {stop : StopCondition} : StopsBy arguments calls stop ↔
      stopCondition? arguments (lastStopCondition? calls) = some stop := by
  constructor
  · intro h
    cases h with
    | iterations given => rw [stopCondition?, given]
    | duration uncounted given => rw [stopCondition?, uncounted, given]
    | default uncounted untimed last => rw [stopCondition?, uncounted, untimed, last]
  · intro h
    unfold stopCondition? at h
    split at h
    · next given =>
      cases h
      exact .iterations given
    · next uncounted given =>
      cases h
      exact .duration uncounted given
    · next uncounted untimed => exact .default uncounted untimed h

theorem runsWith_iff {arguments : CommandLine.Arguments} {calls : List (Call R V)} {agents : Nat} :
    RunsWith arguments calls agents ↔
      agents = concurrencyOf arguments (lastConcurrency? calls) := by
  have hNone : lastConcurrency? calls = none ↔ ∀ call ∈ calls, call.concurrency? = none := by
    simp [lastConcurrency?]
  constructor
  · intro h
    cases h with
    | given given => simp [concurrencyOf, given]
    | default uncounted last => simp [concurrencyOf, uncounted, last]
    | single uncounted unset => simp [concurrencyOf, uncounted, hNone.2 unset]
  · rintro rfl
    cases hGiven : arguments.concurrency with
    | some count => simpa [concurrencyOf, hGiven] using RunsWith.given hGiven
    | none =>
      cases hLast : lastConcurrency? calls with
      | some count => simpa [concurrencyOf, hGiven] using RunsWith.default hGiven hLast
      | none => simpa [concurrencyOf, hGiven] using RunsWith.single hGiven (hNone.1 hLast)

/-- The configuration that the command line and, where it is silent, the calls come down to. -/
structure Settles (arguments : CommandLine.Arguments) (calls : List (Call R V))
    (config : RunConfig) : Prop where
  stop : StopsBy arguments calls config.stopCondition
  agents : RunsWith arguments calls config.concurrency
  targetUrl : config.targetUrl = arguments.targetUrl
  channel : config.channel = arguments.channel
  maxDuration : config.maxDuration = .ofSeconds arguments.maxDuration.toNat
  thinkTime : config.thinkTime = .ofMilliseconds arguments.thinkTimeMs.toNat
  requestTimeout : config.requestTimeout = .ofSeconds arguments.requestTimeout.toNat
  seed : config.seed = arguments.seed

/-- Calls count for nothing beside a ready-made configuration. -/
def ComesTo (calls : List (Call R V)) : ConfigSource → RunConfig → Prop
  | .commandLine arguments, config => Settles arguments calls config
  | .config ready, config => config = ready

theorem settles_iff {arguments : CommandLine.Arguments} {calls : List (Call R V)}
    {config : RunConfig} : Settles arguments calls config ↔
      ∃ stop, stopCondition? arguments (lastStopCondition? calls) = some stop ∧
        config = configOf arguments (concurrencyOf arguments (lastConcurrency? calls)) stop := by
  constructor
  · intro h
    refine ⟨config.stopCondition, stopsBy_iff.1 h.stop, ?_⟩
    cases config
    simp only [configOf, RunConfig.mk.injEq]
    exact ⟨runsWith_iff.1 h.agents, trivial, h.targetUrl, h.channel, h.maxDuration, h.thinkTime,
      h.requestTimeout, h.seed⟩
  · rintro ⟨stop, hStop, rfl⟩
    exact ⟨stopsBy_iff.2 hStop, runsWith_iff.2 rfl, rfl, rfl, rfl, rfl, rfl, rfl⟩

/-! ## The build -/

section Build

variable {name : String} {source : ConfigSource} {shared : R} {own : V}
  {calls : List (Call R V)} {config : RunConfig}

theorem comesTo_iff : ComesTo calls source config ↔
    ∃ resolved, ((ofSource name source shared own).applyAll calls).definition.resolve =
      .ok resolved ∧ resolved.config = config := by
  rw [definition_applyAll, ScenarioDefinition.resolve]
  cases source with
  | config ready => simp [ComesTo, eq_comm]
  | commandLine arguments =>
    rw [ComesTo, settles_iff]
    cases hStop : stopCondition? arguments (lastStopCondition? calls) with
    | none => simp [hStop]
    | some stop => simp [hStop, eq_comm]

theorem build_eq_ok_iff (b : Builder R V) (resolved : ResolvedScenario) (hooks : Hooks R V) :
    b.build = .ok (resolved, hooks) ↔ b.definition.build = .ok resolved ∧ b.hooks = hooks := by
  unfold build
  cases b.definition.build with
  | error e => simp [Except.map]
  | ok found => simp [Except.map]

theorem comesTo_of_build {resolved : ResolvedScenario} {hooks : Hooks R V}
    (h : ((ofSource name source shared own).applyAll calls).build = .ok (resolved, hooks)) :
    ComesTo calls source resolved.config ∧ resolved.config.IsRunnable := by
  have hBuilt := ((build_eq_ok_iff _ _ _).1 h).1
  obtain ⟨hResolved, hRunnable⟩ := (ScenarioDefinition.build_eq_ok_iff _ _).1 hBuilt
  exact ⟨comesTo_iff.2 ⟨resolved, hResolved, rfl⟩, hRunnable⟩

theorem exists_build_iff :
    (∃ built, ((ofSource name source shared own).applyAll calls).build = .ok built) ↔
      ∃ config, ComesTo calls source config ∧ config.IsRunnable := by
  constructor
  · rintro ⟨⟨resolved, hooks⟩, hBuilt⟩
    exact ⟨resolved.config, comesTo_of_build hBuilt⟩
  · rintro ⟨config, hComes, hRunnable⟩
    obtain ⟨resolved, hResolved, rfl⟩ := comesTo_iff.1 hComes
    have hBuilt := (ScenarioDefinition.build_eq_ok_iff _ _).2 ⟨hResolved, hRunnable⟩
    exact ⟨_, (build_eq_ok_iff _ _ _).2 ⟨hBuilt, rfl⟩⟩

theorem build_of_endless {arguments : CommandLine.Arguments}
    (h : ∀ stop, ¬ StopsBy arguments calls stop) :
    ((ofSource name (.commandLine arguments) shared own).applyAll calls).build =
      .error .noStopCondition := by
  have hNone : stopCondition? arguments (lastStopCondition? calls) = none :=
    Option.eq_none_iff_forall_ne_some.2 fun stop hStop ↦ h stop (stopsBy_iff.2 hStop)
  rw [build, definition_applyAll, ScenarioDefinition.build, ScenarioDefinition.resolve]
  simp only [hNone]
  rfl

end Build

/-! ## Ready-made configurations -/

theorem hooks_apply_of_isDefault (b : Builder R V) {call : Call R V}
    (h : call.part.isDefault = true) : (b.apply call).hooks = b.hooks := by
  cases call <;> first | rfl | cases h

theorem hooks_apply_congr {b c : Builder R V} (h : b.hooks = c.hooks) (call : Call R V) :
    (b.apply call).hooks = (c.apply call).hooks := by
  cases call <;> simp [apply, h]

def withoutDefaults (calls : List (Call R V)) : List (Call R V) :=
  calls.filter fun call ↦ !call.part.isDefault

theorem hooks_applyAll_withoutDefaults {b c : Builder R V} (h : b.hooks = c.hooks)
    (calls : List (Call R V)) :
    (b.applyAll calls).hooks = (c.applyAll (withoutDefaults calls)).hooks := by
  -- There are two builders, for a default that is left out changes one of them and not the other.
  induction calls generalizing b c with
  | nil => exact h
  | cons call calls ih =>
    cases hDefault : call.part.isDefault with
    | true =>
      have hKept : withoutDefaults (call :: calls) = withoutDefaults calls :=
        List.filter_cons_of_neg (by simp [hDefault])
      rw [hKept]
      exact ih ((hooks_apply_of_isDefault b hDefault).trans h)
    | false =>
      have hKept : withoutDefaults (call :: calls) = call :: withoutDefaults calls :=
        List.filter_cons_of_pos (by simp [hDefault])
      rw [hKept]
      exact ih (hooks_apply_congr h call)

theorem build_withoutDefaults (name : String) (config : RunConfig) (shared : R) (own : V)
    (calls : List (Call R V)) :
    ((ofSource name (.config config) shared own).applyAll calls).build =
      ((ofSource name (.config config) shared own).applyAll (withoutDefaults calls)).build := by
  have hDefinition (calls : List (Call R V)) :
      ((ofSource name (.config config) shared own).applyAll calls).definition.build =
        (ScenarioDefinition.ofConfig name config).build := by
    rw [definition_applyAll]
    rfl
  rw [build, build, hDefinition, hDefinition, hooks_applyAll_withoutDefaults rfl]

/-! ## Every builder -/

/-- Whatever a builder is made from and however often it is called, it is built if and only if it
comes to a configuration that obeys every rule. It is built with this configuration, which ends in
time, and without a stop condition it is not built. Calls for different parts can be swapped, and
beside a ready-made configuration all defaults can be left out. -/
theorem resolves_and_validates (name : String) (source : ConfigSource) (shared : R) (own : V)
    (calls : List (Call R V)) :
    let start := ofSource name source shared own
    ((∃ built, (start.applyAll calls).build = .ok built) ↔
      ∃ config, ComesTo calls source config ∧ config.IsRunnable) ∧
    (∀ resolved hooks, (start.applyAll calls).build = .ok (resolved, hooks) →
      ComesTo calls source resolved.config ∧ resolved.config.EndsInTime) ∧
    (∀ arguments, source = .commandLine arguments → (∀ stop, ¬ StopsBy arguments calls stop) →
      (start.applyAll calls).build = .error .noStopCondition) ∧
    (∀ first second more, first.part ≠ second.part →
      start.applyAll (calls ++ first :: second :: more) =
        start.applyAll (calls ++ second :: first :: more)) ∧
    ∀ config, source = .config config →
      (start.applyAll calls).build = (start.applyAll (withoutDefaults calls)).build := by
  intro start
  refine ⟨exists_build_iff, fun resolved hooks hBuilt ↦ ?_, ?_,
    fun first second more hParts ↦ start.applyAll_swap hParts calls more, ?_⟩
  · obtain ⟨hComes, hRunnable⟩ := comesTo_of_build hBuilt
    exact ⟨hComes, hRunnable.endsInTime⟩
  · rintro arguments rfl hEndless
    exact build_of_endless hEndless
  · rintro config rfl
    exact build_withoutDefaults name config shared own calls

namespace Silent

/-- Leaves open whatever a command line can leave open. -/
def arguments : CommandLine.Arguments :=
  ⟨"http://a", "b", none, none, none, 60, 0, 5, none, true, .noop, none, none⟩

def calls : List (Call Unit Unit) :=
  [.defaultIterations 5, .defaultConcurrency 1000, .defaultSeconds 30]

def config : RunConfig := configOf arguments 1000 (.duration (.ofSeconds 30))

theorem isRunnable_config : config.IsRunnable := RunConfig.isRunnable_of_isOk (by decide +kernel)

theorem comesTo_config : ComesTo calls (.commandLine arguments) config :=
  settles_iff.2 ⟨_, rfl, rfl⟩

end Silent

/-- The later of two defaults for the stop condition counts, wherever the one for the number of
agents stands. Without a call there is no stop condition, and a ready-made configuration keeps its
own. -/
theorem resolves_and_validates_silent :
    let start : Builder Unit Unit := ofSource "s" (.commandLine Silent.arguments) () ()
    let ready : Builder Unit Unit := ofSource "s" (.config Silent.config) () ()
    (∃ resolved hooks, (start.applyAll Silent.calls).build = .ok (resolved, hooks) ∧
      resolved.config = Silent.config ∧ resolved.config.EndsInTime) ∧
    start.build = .error .noStopCondition ∧
    start.applyAll Silent.calls = start.applyAll
      [.defaultConcurrency 1000, .defaultIterations 5, .defaultSeconds 30] ∧
    (ready.applyAll [.defaultSeconds 1]).build = ready.build := by
  intro start ready
  obtain ⟨hBuilt, hComes, -⟩ :=
    resolves_and_validates "s" (.commandLine Silent.arguments) () () Silent.calls
  obtain ⟨-, -, hEndless, hSwap, -⟩ :=
    resolves_and_validates "s" (.commandLine Silent.arguments) () () []
  obtain ⟨-, -, -, -, hReady⟩ :=
    resolves_and_validates "s" (.config Silent.config) () () [.defaultSeconds 1]
  obtain ⟨⟨resolved, hooks⟩, hOk⟩ :=
    hBuilt.2 ⟨Silent.config, Silent.comesTo_config, Silent.isRunnable_config⟩
  obtain ⟨hSettles, hInTime⟩ := hComes resolved hooks hOk
  obtain ⟨stop, hStop, hConfig⟩ := settles_iff.1 hSettles
  obtain rfl := Option.some.inj hStop
  refine ⟨⟨resolved, hooks, hOk, hConfig, hInTime⟩, hEndless _ rfl fun stop hStop ↦ ?_,
    hSwap _ _ _ (by decide), hReady _ rfl⟩
  cases stopsBy_iff.1 hStop

end StorefrontLoad.Run.Builder
