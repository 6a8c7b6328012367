import StorefrontLoad.Proofs.Run.Course
import StorefrontLoad.Run.Performance

/-!
# Traces of a performance

A trace tells, in order, all that others can notice of a performance beside its log, and also how
each hook returned. Its events are those of the history of the world, so a trace says nothing of its
own but the returns.
-/

namespace StorefrontLoad.Run

open Storefront (Network)

variable {R V σ : Type}

/-! ## Occurrences -/

/-- What a trace tells. Lines of the log are no occurrences. -/
inductive Occurrence
  | event (event : Event)
  | returned (hook : Hook) (ending : Ending)

/-- The agent that a hook belongs to. -/
def Hook.agent? : Hook → Option Nat
  | setup | teardown => none
  | agentSetup agent | behaviour agent _ | agentTeardown agent => some agent

namespace Occurrence

abbrev called (hook : Hook) : Occurrence := event (.called hook)

/-- The agent that an occurrence belongs to; the others belong to the run itself. -/
def who : Occurrence → Option Nat
  | event (.called hook) => hook.agent?
  | event (.posted agent _) => agent
  | event _ => none
  | returned hook _ => hook.agent?

def calls (hook : Hook) : Occurrence → Bool
  | event (.called other) => other = hook
  | _ => false

/-- What a run hands out at its end. -/
def output? : Occurrence → Option Event
  | event (.printed text) => some (.printed text)
  | event (.stored path summary) => some (.stored path summary)
  | _ => none

def event? : Occurrence → Option Event
  | event e => some e
  | returned _ _ => none

def return? : Occurrence → Option (Hook × Ending)
  | event _ => none
  | returned hook ending => some (hook, ending)

end Occurrence

/-- The part of a trace that belongs to an agent, or to the run itself. -/
def mine (who : Option Nat) (trace : List Occurrence) : List Occurrence :=
  trace.filter (·.who = who)

/-- The hook that somebody with such a past is in. -/
def within (past : List Occurrence) : Option Hook :=
  past.foldl
    (fun now occurrence ↦ match occurrence with
      | .event (.called hook) => some hook
      | .returned _ _ => none
      | _ => now)
    none

def outputs (trace : List Occurrence) : List Event := trace.filterMap Occurrence.output?

theorem mine_append (who : Option Nat) (past new : List Occurrence) :
    mine who (past ++ new) = mine who past ++ mine who new := List.filter_append past new

theorem mine_of_forall {who : Option Nat} {trace : List Occurrence}
    (h : ∀ occurrence ∈ trace, occurrence.who = who) : mine who trace = trace := by
  rw [mine, List.filter_eq_self]
  simpa using h

theorem mine_append_of_ne {who other : Option Nat} {new : List Occurrence}
    (h : ∀ occurrence ∈ new, occurrence.who = other) (hne : other ≠ who)
    (past : List Occurrence) : mine who (past ++ new) = mine who past := by
  have hNothing : mine who new = [] := by
    rw [mine, List.filter_eq_nil_iff]
    intro occurrence hMem
    rw [h occurrence hMem]
    simpa using hne
  rw [mine_append, hNothing, List.append_nil]

@[simp] theorem within_append_called (past : List Occurrence) (hook : Hook) :
    within (past ++ [.called hook]) = some hook := by
  simp [within]

@[simp] theorem within_append_returned (past : List Occurrence) (hook : Hook) (ending : Ending) :
    within (past ++ [.returned hook ending]) = none := by
  simp [within]

theorem within_append_event {event : Event} (past : List Occurrence)
    (h : ∀ hook, event ≠ .called hook) : within (past ++ [.event event]) = within past := by
  simp only [within, List.foldl_append, List.foldl_cons, List.foldl_nil]
  cases event with
  | called hook => exact absurd rfl (h hook)
  | posted | logged | printed | stored => rfl

theorem outputs_append (past new : List Occurrence) :
    outputs (past ++ new) = outputs past ++ outputs new := List.filterMap_append

/-- Everything in the new part fits what was before it. -/
def Follows (Fit : List Occurrence → Occurrence → Prop) (past new : List Occurrence) : Prop :=
  ∀ before occurrence after, new = before ++ occurrence :: after → Fit (past ++ before) occurrence

namespace Follows

variable {Fit : List Occurrence → Occurrence → Prop} {past first second : List Occurrence}

theorem nil : Follows Fit past [] := by
  intro before occurrence after h
  simp at h

theorem cons {occurrence : Occurrence} {rest : List Occurrence} (h : Fit past occurrence)
    (hRest : Follows Fit (past ++ [occurrence]) rest) : Follows Fit past (occurrence :: rest) := by
  intro before other after hSplit
  cases before with
  | nil =>
    cases hSplit
    rwa [List.append_nil]
  | cons head before =>
    obtain ⟨rfl, hTail⟩ := List.cons.inj hSplit
    have hLater := hRest before other after hTail
    rwa [List.append_assoc] at hLater

theorem head {occurrence : Occurrence} {rest : List Occurrence}
    (h : Follows Fit past (occurrence :: rest)) : Fit past occurrence := by
  have hFirst := h [] occurrence rest rfl
  rwa [List.append_nil] at hFirst

theorem tail {occurrence : Occurrence} {rest : List Occurrence}
    (h : Follows Fit past (occurrence :: rest)) : Follows Fit (past ++ [occurrence]) rest := by
  intro before other after hSplit
  have hLater := h (occurrence :: before) other after (by rw [hSplit, List.cons_append])
  rwa [List.append_assoc]

theorem append (h : Follows Fit past first) (h' : Follows Fit (past ++ first) second) :
    Follows Fit past (first ++ second) := by
  induction first generalizing past with
  | nil =>
    rw [List.append_nil] at h'
    exact h'
  | cons occurrence rest ih =>
    refine .cons h.head (ih h.tail ?_)
    rwa [List.append_assoc]

end Follows

/-! ## What a world shows -/

namespace World

/-- The history without the log. -/
def outward (w : World σ) : List Event := w.events.filter (·.line?.isNone)

theorem outward_note (event : Event) (w : World σ) :
    (w.note event).outward = w.outward ++ [event].filter (·.line?.isNone) := by
  simp only [outward, events, note, List.reverse_cons, List.filter_append]

@[simp] theorem outward_log (line : LogLine) (w : World σ) : (w.log line).outward = w.outward :=
  (outward_note _ w).trans (List.append_nil _)

@[simp] theorem outward_logAll (lines : List LogLine) (w : World σ) :
    (w.logAll lines).outward = w.outward := by
  induction lines generalizing w with
  | nil => rfl
  | cons line lines ih => exact (ih (w.log line)).trans (outward_log line w)

@[simp] theorem outward_recordIteration (w : World σ) :
    w.recordIteration.outward = w.outward := rfl

@[simp] theorem outward_called (hook : Hook) (w : World σ) :
    (w.note (.called hook)).outward = w.outward ++ [.called hook] := outward_note _ w

theorem outward_prefix_note (event : Event) (w : World σ) :
    w.outward <+: (w.note event).outward := by
  rw [outward_note]
  exact List.prefix_append _ _

theorem outward_perform {network : Network σ} {agent : Option Nat} {w : World σ} {action : Action}
    {taken : Step σ action.Reply} (h : w.perform network agent action = some taken) :
    taken.world.outward = w.outward ++ action.request?.toList.map (.posted agent) := by
  cases action with
  | post target request =>
    cases h
    exact outward_note _ _
  | log line =>
    cases h
    simp [Action.request?]
  | awaitStop =>
    simp only [perform] at h
    split at h
    · cases h
      simp [Action.request?]
    · cases h
  | record | pause | requestStop | isStopRequested | readOutcome =>
    cases h
    exact (List.append_nil _).symm

end World

/-! ## What an agent shows -/

/-- The hook of a stage. -/
def Stage.hook (agent iteration : Nat) : Stage → Hook
  | setup => .agentSetup agent
  | behaviour => .behaviour agent iteration
  | teardown _ => .agentTeardown agent

namespace Agent

/-- The hook an agent has just entered. -/
def entered (index : Nat) (a : Agent V) : List Event :=
  match a.phase with
  | .inHook stage _ => [.called (stage.hook index a.iteration)]
  | _ => []

/-- What others can notice of a step that leaves the agent like this. -/
def shown (index : Nat) (a after : Agent V) : List Event :=
  match a.phase with
  | .inHook _ (.step action _) => action.request?.toList.map (.posted (some index))
  | _ => after.entered index

/-- The hook that returns in the next step of an agent. -/
def returning (index : Nat) (a : Agent V) : List Occurrence :=
  match a.phase with
  | .inHook stage (.done (_, ending)) => [.returned (stage.hook index a.iteration) ending]
  | _ => []

section Steps

variable {plan : Plan R V} {network : Network σ} {index : Nat} {a : Agent V} {w : World σ}

theorem outward_leave (running : Bool) :
    (a.leave plan index running w).2.outward =
      w.outward ++ (a.leave plan index running w).1.entered index := by
  unfold leave
  cases plan.hooks.teardown with
  | none => exact (List.append_nil _).symm
  | some hook => exact w.outward_called _

theorem outward_begin :
    (a.begin plan index w).2.outward = w.outward ++ (a.begin plan index w).1.entered index := by
  unfold begin
  split
  · rw [World.outward_log]
    exact (List.append_nil _).symm
  · exact outward_leave true

theorem outward_arrive :
    (a.arrive plan index w).2.outward = w.outward ++ (a.arrive plan index w).1.entered index := by
  unfold arrive
  split
  · exact outward_begin
  · exact w.outward_called _

theorem outward_behave :
    (a.behave plan index w).2.outward = w.outward ++ (a.behave plan index w).1.entered index := by
  unfold behave
  split
  · exact outward_leave true
  · exact w.outward_called _

theorem outward_continueOrLeave :
    (a.continueOrLeave plan index w).2.outward =
      w.outward ++ (a.continueOrLeave plan index w).1.entered index := by
  unfold continueOrLeave
  split
  · rw [outward_leave, World.outward_log]
  · split
    · rw [outward_leave, World.outward_log]
    · exact (List.append_nil _).symm

theorem outward_account {ending : Ending} :
    (a.account plan index ending w).2.outward =
      w.outward ++ (a.account plan index ending w).1.entered index := by
  unfold account
  cases ending with
  | ok => exact (List.append_nil _).symm
  | panicked message =>
    rw [World.outward_log]
    exact (List.append_nil _).symm
  | failed trouble =>
    simp only
    split
    · rw [outward_leave, World.outward_log, World.outward_recordIteration]
    · rw [World.outward_log]
      exact (List.append_nil _).symm

theorem outward_afterHook {stage : Stage} {ending : Ending} :
    (afterHook plan index stage ending a w).2.outward =
      w.outward ++ (afterHook plan index stage ending a w).1.entered index := by
  unfold afterHook
  split
  · exact (List.append_nil _).symm
  · exact outward_begin
  · rw [World.outward_log]
    exact (List.append_nil _).symm
  · exact (List.append_nil _).symm
  · rw [World.outward_log]
    exact (List.append_nil _).symm
  · exact (List.append_nil _).symm
  · exact (List.append_nil _).symm

theorem outward_step {after : Agent V} {world : World σ}
    (h : a.step plan network index w = some (after, world)) :
    world.outward = w.outward ++ a.shown index after := by
  unfold step at h
  unfold shown
  split at h
  · next hPhase =>
    obtain ⟨rfl, rfl⟩ := Prod.mk.inj (Option.some.inj h)
    rw [hPhase]
    exact outward_arrive
  · next hPhase =>
    obtain ⟨taken, hTaken, hEq⟩ := Option.map_eq_some_iff.1 h
    obtain ⟨rfl, rfl⟩ := Prod.mk.inj hEq
    rw [hPhase]
    exact World.outward_perform hTaken
  · next hPhase =>
    obtain ⟨rfl, rfl⟩ := Prod.mk.inj (Option.some.inj h)
    rw [hPhase]
    exact outward_afterHook
  · next hPhase =>
    obtain ⟨rfl, rfl⟩ := Prod.mk.inj (Option.some.inj h)
    rw [hPhase]
    exact outward_continueOrLeave
  · next hPhase =>
    obtain ⟨rfl, rfl⟩ := Prod.mk.inj (Option.some.inj h)
    rw [hPhase]
    exact outward_behave
  · next hPhase =>
    obtain ⟨rfl, rfl⟩ := Prod.mk.inj (Option.some.inj h)
    rw [hPhase]
    exact outward_account
  · cases h
  · cases h

end Steps

end Agent

/-! ## The trace -/

namespace Performance

/-- The hook that returns in a beat. -/
def returning (p : Performance σ R V) : Beat → List Occurrence
  | .conductor =>
    match p.conductor with
    | .inHook side _ (.done (_, ending)) => [.returned side.hook ending]
    | _ => []
  | .agent index =>
    match p.state.agents[index]? with
    | some a => a.returning index
    | none => []
  | .stop _ => []

/-- What occurs in a beat that leaves the performance like this. -/
def occurrences (beat : Beat) (p next : Performance σ R V) : List Occurrence :=
  p.returning beat ++
    (next.state.world.outward.drop p.state.world.outward.length).map .event

theorem occurrences_eq {beat : Beat} {p next : Performance σ R V} {new : List Event}
    (h : next.state.world.outward = p.state.world.outward ++ new) :
    p.occurrences beat next = p.returning beat ++ new.map .event := by
  rw [occurrences, h, List.drop_left]

theorem occurrences_of_quiet {beat : Beat} {p next : Performance σ R V}
    (h : next.state.world.outward = p.state.world.outward) :
    p.occurrences beat next = p.returning beat := by
  rw [occurrences_eq (h.trans (List.append_nil _).symm), List.map_nil, List.append_nil]

section History

variable {setting : Setting σ R V} {p next : Performance σ R V}

theorem outward_prefix_dismiss (resolved : ResolvedScenario) (shared : R) :
    p.state.world.outward <+: (p.dismiss setting resolved shared).state.world.outward := by
  unfold dismiss
  cases setting.hooks.teardown with
  | none => exact List.prefix_rfl
  | some hook => exact World.outward_prefix_note _ p.state.world.requestStop

theorem outward_afterHook (side : Side) (resolved : ResolvedScenario) (shared : R)
    (ending : Ending) : (p.afterHook setting side resolved shared ending).state.world.outward =
      p.state.world.outward := by
  unfold afterHook
  split
  · rfl
  · rfl
  · rfl
  · exact World.outward_logAll _ _

theorem outward_prefix_report (reporter : Reporter) (outcome : OutcomeSummary) (w : World σ) :
    w.outward <+: (Run.report reporter outcome w).outward := by
  cases reporter with
  | inMemory => exact w.outward_prefix_note _
  | noop => exact List.prefix_rfl

theorem outward_prefix_store (summary : RunSummary) (path : Option String) (disk : Disk)
    (w : World σ) : w.outward <+: (Run.store summary path disk w).2.2.outward := by
  unfold Run.store
  split
  · exact List.prefix_rfl
  · split
    · exact w.outward_prefix_note _
    · exact List.prefix_rfl

theorem outward_prefix_conduct (h : p.conduct setting = some next) :
    p.state.world.outward <+: next.state.world.outward := by
  unfold conduct at h
  split at h
  · cases h
    unfold build
    split
    · exact List.prefix_rfl
    · next resolved _ =>
      rw [← World.outward_logAll (opening setting.hooks resolved) p.state.world]
      cases setting.hooks.setup with
      | none => exact List.prefix_rfl
      | some hook => exact World.outward_prefix_note _ _
  · obtain ⟨taken, hTaken, rfl⟩ := Option.map_eq_some_iff.1 h
    rw [turnTo, World.outward_perform hTaken]
    exact List.prefix_append _ _
  · cases h
    exact (outward_afterHook _ _ _ _).symm ▸ List.prefix_rfl
  · next resolved shared agent _ =>
    unfold join at h
    split at h
    · cases h
      exact outward_prefix_dismiss resolved shared
    · split at h
      · cases h
        exact List.prefix_rfl
      · cases h
        exact List.prefix_rfl
      · cases h
  · cases h
    rw [report, turnTo, World.outward_log]
    exact outward_prefix_report _ _ _
  · cases h
    exact outward_prefix_store _ _ _ _
  · cases h

/-- Nothing of the history is ever lost. -/
theorem outward_prefix {beat : Beat} (h : p.apply setting beat = some next) :
    p.state.world.outward <+: next.state.world.outward := by
  cases beat with
  | conductor => exact outward_prefix_conduct h
  | stop reason =>
    cases h
    exact (World.outward_log reason p.state.world).symm ▸ List.prefix_rfl
  | agent index =>
    obtain ⟨plan, hPlan, hApplied⟩ := Option.bind_eq_some_iff.1 h
    obtain ⟨s, hState, rfl⟩ := Option.map_eq_some_iff.1 hApplied
    simp only [State.apply] at hState
    split at hState
    · cases hState
    · split at hState
      · cases hState
      · next hStep =>
        cases hState
        rw [Agent.outward_step hStep]
        exact List.prefix_append _ _

end History

def trace (setting : Setting σ R V) (p : Performance σ R V) : List Beat → List Occurrence
  | [] => []
  | beat :: beats =>
    match p.apply setting beat with
    | none => []
    | some next => p.occurrences beat next ++ next.trace setting beats

/-- The performance comes about with this trace. -/
inductive Comes (setting : Setting σ R V) : List Occurrence → Performance σ R V → Prop
  | initial : Comes setting [] (.initial setting)
  | beat {trace : List Occurrence} {p next : Performance σ R V} {beat : Beat}
      (before : Comes setting trace p) (applied : p.apply setting beat = some next) :
      Comes setting (trace ++ p.occurrences beat next) next

variable {setting : Setting σ R V}

theorem Comes.applyAll {trace : List Occurrence} {p last : Performance σ R V} {beats : List Beat}
    (before : Comes setting trace p) (h : p.applyAll setting beats = some last) :
    Comes setting (trace ++ p.trace setting beats) last := by
  induction beats generalizing p trace with
  | nil =>
    cases h
    rw [Performance.trace, List.append_nil]
    exact before
  | cons beat beats ih =>
    obtain ⟨next, hNext, hRest⟩ := Option.bind_eq_some_iff.1 h
    have hLast := ih (before.beat hNext) hRest
    rw [Performance.trace, hNext, ← List.append_assoc]
    exact hLast

theorem comes_of_applyAll {last : Performance σ R V} {beats : List Beat}
    (h : (initial setting).applyAll setting beats = some last) :
    Comes setting ((initial setting).trace setting beats) last :=
  Comes.initial.applyAll h

theorem event?_returning (p : Performance σ R V) (beat : Beat) :
    (p.returning beat).filterMap Occurrence.event? = [] := by
  rw [List.filterMap_eq_nil_iff]
  intro occurrence hMem
  cases beat with
  | conductor =>
    simp only [returning] at hMem
    split at hMem
    · rw [List.mem_singleton.1 hMem]
      rfl
    · cases hMem
  | agent index =>
    simp only [returning, Agent.returning] at hMem
    split at hMem
    · split at hMem
      · rw [List.mem_singleton.1 hMem]
        rfl
      · cases hMem
    · cases hMem
  | stop reason => cases hMem

/-- The events of a trace are the history of the world, without the log. -/
theorem Comes.events {trace : List Occurrence} {p : Performance σ R V}
    (h : Comes setting trace p) : trace.filterMap Occurrence.event? = p.state.world.outward := by
  induction h with
  | initial => rfl
  | @beat trace p next beat before applied ih =>
    obtain ⟨new, hNew⟩ := outward_prefix applied
    have hEvents : (new.map Occurrence.event).filterMap Occurrence.event? = new := by
      rw [List.filterMap_map]
      exact List.filterMap_some
    rw [occurrences_eq hNew.symm, List.filterMap_append, List.filterMap_append, ih,
      event?_returning, List.nil_append, hEvents, hNew]

end Performance

end StorefrontLoad.Run
