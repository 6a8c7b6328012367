import StorefrontLoad.Proofs.Run.Ledger

/-!
# The life of an agent

In its behaviour an agent holds one conversation after another, each of its hook and each going on
with the value that the one before has left behind. What has come of an agent is therefore told by
its hooks and by what it has heard; the other agents are not mentioned.
-/

namespace StorefrontLoad.Run

open Storefront (Network)

variable {R V σ : Type}

namespace Agent

/-- After its setup and so many iterations the agent holds the value, and this is all that it has
said and heard in its behaviour. -/
inductive Life (plan : Plan R V) (index : Nat) (own : V) : Nat → V → List Exchange → Prop
  | unprepared (setup : plan.hooks.setup = none) : Life plan index own 0 own []
  | prepared {hook : AgentHook R V} {talk : List Exchange} {value : V}
      (setup : plan.hooks.setup = some hook)
      (went : (hook ⟨index, 0, plan.config, plan.shared⟩ own).Yields talk (.done (value, .ok))) :
      Life plan index own 0 value []
  | iterated {count : Nat} {hook : AgentHook R V} {before new : List Exchange} {value after : V}
      {ending : Ending} (life : Life plan index own count value before)
      (behaviour : plan.hooks.behaviour = some hook)
      (went : (hook ⟨index, count, plan.config, plan.shared⟩ value).Yields new
        (.done (after, ending))) :
      Life plan index own (count + 1) after (before ++ new)

/-- The agent has lived so far; in its behaviour it is in the midst of one more conversation. -/
def Lives (plan : Plan R V) (index : Nat) (own : V) (talk : List Exchange) (a : Agent V) : Prop :=
  match a.phase with
  | .arriving => talk = [] ∧ a.iteration = 0 ∧ a.value = own
  | .inHook .setup rest => talk = [] ∧ a.iteration = 0 ∧ ∃ hook spoken,
    plan.hooks.setup = some hook ∧
      (hook ⟨index, 0, plan.config, plan.shared⟩ own).Yields spoken rest
  | .deciding | .cleared => Life plan index own a.iteration a.value talk
  | .inHook .behaviour rest => ∃ before new hook, talk = before ++ new ∧
    Life plan index own a.iteration a.value before ∧ plan.hooks.behaviour = some hook ∧
      (hook ⟨index, a.iteration, plan.config, plan.shared⟩ a.value).Yields new rest
  | .accounting _ => Life plan index own (a.iteration + 1) a.value talk
  | .inHook (.teardown _) _ | .ended _ | .crashed =>
    (a.iteration = 0 ∧ talk = []) ∨ ∃ value, Life plan index own a.iteration value talk

variable {plan : Plan R V} {network : Network σ} {index : Nat} {own : V} {talk : List Exchange}

theorem lives_departure {running : Bool} {iteration : Nat} {a b : Agent V} {value : V}
    (hPhase : b.phase = departure plan index running a) (hIteration : b.iteration = iteration)
    (h : Life plan index own iteration value talk) : b.Lives plan index own talk := by
  subst hIteration
  unfold Lives
  rw [hPhase, departure]
  cases plan.hooks.teardown with
  | none => exact .inr ⟨value, h⟩
  | some hook => exact .inr ⟨value, h⟩

/-- A prepared agent has lived through no iteration. -/
theorem Lives.of_isReady {a : Agent V} {value : V} (h : a.Lives plan index own talk)
    (ready : a.IsReady plan value) : Life plan index own a.iteration value talk := by
  unfold Lives at h
  rcases ready with ⟨phase, setup, rfl⟩ | phase
  · simp only [phase] at h
    obtain ⟨rfl, hIteration, hValue⟩ := h
    rw [hIteration, hValue]
    exact .unprepared setup
  · simp only [phase] at h
    obtain ⟨rfl, hIteration, hook, spoken, setup, went⟩ := h
    rw [hIteration]
    exact .prepared setup went

/-- An agent at its end has been refused or has lived through all that it has counted. -/
theorem Lives.of_hasEnded {a : Agent V} (h : a.Lives plan index own talk)
    (hEnded : a.hasEnded = true) :
    (a.iteration = 0 ∧ talk = []) ∨ ∃ value, Life plan index own a.iteration value talk := by
  unfold Lives at h
  unfold hasEnded at hEnded
  split at hEnded
  · next hPhase =>
    simp only [hPhase] at h
    exact h
  · next hPhase =>
    simp only [hPhase] at h
    exact h
  · cases hEnded

/-- The exchanges of a stay in the behaviour. -/
def said (deeds : List Deed) : List Exchange :=
  Deed.talk (deeds.filter (·.stage = .behaviour))

theorem said_append (first second : List Deed) :
    said (first ++ second) = said first ++ said second := by
  rw [said, List.filter_append, Deed.talk_append]
  rfl

theorem append_said_nil (talk : List Exchange) : talk ++ said [] = talk := List.append_nil talk

/-- Every step goes on with the life of its agent. -/
theorem Turn.lives {a after : Agent V} {w world : World σ} {new : List Deed}
    (turn : a.Turn plan network index w after new world) (h : a.Lives plan index own talk) :
    after.Lives plan index own (talk ++ said new) := by
  have hOld := h
  unfold Lives at h
  cases turn with
  | @act stage action next taken phase =>
    simp only [phase] at h
    cases stage with
    | setup =>
      obtain ⟨rfl, hIteration, hook, spoken, setup, went⟩ := h
      exact ⟨rfl, hIteration, hook, _, setup, went.snoc taken.reply⟩
    | behaviour =>
      obtain ⟨before, spoken, hook, rfl, life, behaviour, went⟩ := h
      refine ⟨before, spoken ++ [⟨action, taken.reply⟩], hook, ?_, life, behaviour, ?_⟩
      · exact List.append_assoc _ _ _
      · exact went.snoc taken.reply
    | teardown running =>
      have hSaid : talk ++ said [⟨index, .teardown running, a.iteration, ⟨action, taken.reply⟩⟩] =
          talk := List.append_nil _
      rw [hSaid]
      exact h
  | prepare phase setup =>
    simp only [phase] at h
    obtain ⟨rfl, hIteration, hValue⟩ := h
    refine ⟨rfl, hIteration, _, [], setup, ?_⟩
    rw [Agent.context, hIteration, hValue]
    exact .refl _
  | start ready =>
    rw [append_said_nil]
    exact hOld.of_isReady ready
  | refuse was _ phase_eq =>
    simp only [was] at h
    rcases phase_eq with rfl | rfl
    · exact .inl ⟨h.2.1, by rw [h.1]; rfl⟩
    · exact .inl ⟨h.2.1, by rw [h.1]; rfl⟩
  | skip ready =>
    rw [append_said_nil]
    rcases ready with ready | ⟨phase, rfl⟩
    · exact lives_departure rfl rfl (hOld.of_isReady ready)
    · simp only [phase] at h
      exact lives_departure rfl rfl h
  | leave phase =>
    simp only [phase] at h
    rw [append_said_nil]
    exact lives_departure rfl rfl h
  | clear phase =>
    simp only [phase] at h
    rw [append_said_nil]
    exact h
  | call phase behaviour =>
    simp only [phase] at h
    exact ⟨talk, [], _, rfl, h, behaviour, .refl _⟩
  | emerge phase =>
    simp only [phase] at h
    obtain ⟨before, spoken, hook, rfl, life, behaviour, went⟩ := h
    rw [append_said_nil]
    exact .iterated life behaviour went
  | account phase =>
    simp only [phase] at h
    rw [append_said_nil]
    exact h
  | bail phase =>
    simp only [phase] at h
    rw [append_said_nil]
    exact lives_departure rfl rfl h
  | close was phase_eq =>
    simp only [was] at h
    rw [append_said_nil]
    rcases phase_eq with rfl | rfl
    · exact h
    · exact h

/-! ## Outside of the behaviour -/

/-- So far the agent has neither sent nor counted anything outside of its behaviour. -/
structure KeepsQuiet (deeds : List Deed) (a : Agent V) : Prop where
  deeds : ∀ deed ∈ deeds, deed.stage ≠ .behaviour → deed.exchange.action.isSilent
  rest : ∀ stage rest, a.phase = .inHook stage rest → stage ≠ .behaviour → rest.IsSilent

theorem KeepsQuiet.tally_said {deeds : List Deed} {a : Agent V} (h : a.KeepsQuiet deeds) :
    Exchange.tally (said deeds) = Exchange.tally (Deed.talk deeds) := by
  funext step kind
  unfold Exchange.tally said Deed.talk
  rw [List.countP_map, List.countP_map, List.countP_filter]
  apply List.countP_congr
  intro deed hMem
  have hSilent := h.deeds deed hMem
  obtain ⟨agent, stage, iteration, action, reply⟩ := deed
  cases action <;> simp_all [Exchange.records, Action.isSilent]

theorem KeepsQuiet.requests_said {deeds : List Deed} {a : Agent V} (h : a.KeepsQuiet deeds) :
    Exchange.requests (said deeds) = Exchange.requests (Deed.talk deeds) := by
  unfold Exchange.requests said Deed.talk
  rw [List.filterMap_map, List.filterMap_map, List.filterMap_filter]
  apply List.filterMap_congr
  intro deed hMem
  by_cases hStage : deed.stage = .behaviour
  · simp [hStage]
  · have hNone := Action.request?_of_isSilent (h.deeds deed hMem hStage)
    simp [hStage, hNone]

end Agent

/-- The setup and the teardown of an agent neither send nor count anything. -/
structure AgentHooks.IsQuiet (hooks : AgentHooks R V) : Prop where
  setup : ∀ hook, hooks.setup = some hook → ∀ context value, (hook context value).IsSilent
  teardown : ∀ hook, hooks.teardown = some hook → ∀ context value, (hook context value).IsSilent

namespace Agent

variable {plan : Plan R V} {network : Network σ} {index : Nat}

theorem KeepsQuiet.of_departure {deeds : List Deed} {running : Bool} {a b : Agent V}
    (hQuiet : plan.hooks.IsQuiet) (hPhase : b.phase = departure plan index running a)
    (h : ∀ deed ∈ deeds, deed.stage ≠ .behaviour → deed.exchange.action.isSilent) :
    b.KeepsQuiet deeds where
  deeds := h
  rest stage rest hRest _ := by
    rw [hPhase, departure] at hRest
    split at hRest
    · cases hRest
    · next hook hSome =>
      cases hRest
      exact hQuiet.teardown hook hSome _ _

theorem Turn.keepsQuiet {a after : Agent V} {w world : World σ} {deeds new : List Deed}
    (hQuiet : plan.hooks.IsQuiet) (turn : a.Turn plan network index w after new world)
    (h : a.KeepsQuiet deeds) : after.KeepsQuiet (deeds ++ new) := by
  cases turn with
  | @act stage action next taken phase =>
    refine ⟨fun deed hMem hStage ↦ ?_, fun s rest hRest hStage ↦ ?_⟩
    · rcases List.mem_append.1 hMem with hOld | hNew
      · exact h.deeds deed hOld hStage
      · rw [List.mem_singleton.1 hNew] at hStage ⊢
        exact (h.rest stage _ phase hStage).action taken.reply
    · cases hRest
      exact (h.rest stage _ phase hStage).next taken.reply
  | prepare phase setup =>
    rw [List.append_nil]
    refine ⟨h.deeds, fun s rest hRest _ ↦ ?_⟩
    cases hRest
    exact hQuiet.setup _ setup _ _
  | refuse _ _ phase_eq =>
    rw [List.append_nil]
    refine ⟨h.deeds, fun s rest hRest _ ↦ ?_⟩
    rcases phase_eq with rfl | rfl
    · cases hRest
    · cases hRest
  | close _ phase_eq =>
    rw [List.append_nil]
    refine ⟨h.deeds, fun s rest hRest _ ↦ ?_⟩
    rcases phase_eq with rfl | rfl
    · cases hRest
    · cases hRest
  | call =>
    rw [List.append_nil]
    refine ⟨h.deeds, fun s rest hRest hStage ↦ ?_⟩
    cases hRest
    exact absurd rfl hStage
  | skip | leave | bail =>
    rw [List.append_nil]
    exact .of_departure hQuiet rfl h.deeds
  | start | clear | emerge | account =>
    rw [List.append_nil]
    exact ⟨h.deeds, fun s rest hRest _ ↦ by cases hRest⟩

end Agent

/-! ## In every course -/

namespace Course

variable {network : Network σ} {state : σ} {hooks : Hooks R V} {resolved : ResolvedScenario}

/-- What an agent has said and heard in its behaviour. -/
def saidOf (c : Course network state hooks resolved) (index : Nat) : List Exchange :=
  Agent.said (c.deeds.filter (·.agent = index))

theorem lives_last (c : Course network state hooks resolved) {index : Nat} {a : Agent V}
    (found : c.last.agents[index]? = some a) :
    a.Lives c.plan index hooks.own (c.saidOf index) := by
  refine c.forall_agents
    (P := fun index trail a ↦ a.Lives c.plan index hooks.own (Agent.said trail.deeds)) ?_ ?_ found
  · intro index
    exact ⟨rfl, rfl, rfl⟩
  · intro now index a after deeds new world _ _ turn h
    have hLives := turn.lives h
    rw [Trail.of] at hLives ⊢
    rwa [List.filter_append, turn.filter_agent, Agent.said_append]

theorem keepsQuiet_last (c : Course network state hooks resolved) (hQuiet : hooks.agent.IsQuiet)
    {index : Nat} {a : Agent V} (found : c.last.agents[index]? = some a) :
    a.KeepsQuiet (c.deeds.filter (·.agent = index)) := by
  refine c.forall_agents (P := fun _ trail a ↦ a.KeepsQuiet trail.deeds) ?_ ?_ found
  · intro index
    refine ⟨fun deed hMem ↦ ?_, fun stage rest hRest ↦ ?_⟩
    · cases hMem
    · cases hRest
  · intro now index a after deeds new world _ _ turn h
    have hKeeps := turn.keepsQuiet hQuiet h
    rw [Trail.of] at hKeeps ⊢
    rwa [List.filter_append, turn.filter_agent]

end Course

end StorefrontLoad.Run
