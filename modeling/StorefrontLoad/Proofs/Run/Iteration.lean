import StorefrontLoad.Proofs.Run.Course
import Mathlib.Algebra.BigOperators.Group.Finset.Piecewise
import Mathlib.Algebra.GroupWithZero.Nat
import Mathlib.Algebra.Order.BigOperators.Group.Finset

/-!
# Counting iterations

An iteration is in flight from the call of the behaviour until it is counted. An agent has begun
the iterations it has counted and the one that it may have in flight, in order and without gaps.
The counter that all agents share holds the sum of what they have counted; being a word, it holds
that sum up to a multiple of 2^64.
-/

namespace StorefrontLoad.Run

open Storefront (Network)

variable {R V σ : Type}

namespace Agent

/-- Whether a call of the behaviour has begun and is not counted yet. -/
def isInFlight (a : Agent V) : Bool :=
  match a.phase with
  | .inHook .behaviour _ | .accounting _ => true
  | _ => false

/-- How many iterations the agent has begun. -/
def begun (a : Agent V) : Nat := a.iteration + if a.isInFlight then 1 else 0

theorem isInFlight_departure {plan : Plan R V} {index : Nat} {running : Bool} {a b : Agent V}
    (h : b.phase = departure plan index running a) : b.isInFlight = false := by
  unfold isInFlight
  rw [h, departure]
  cases plan.hooks.teardown <;> rfl

theorem begun_of_atRest {a : Agent V} (h : a.isInFlight = false) : a.begun = a.iteration := by
  simp [begun, h]

theorem begun_of_hasEnded {a : Agent V} (h : a.hasEnded = true) : a.begun = a.iteration := by
  apply begun_of_atRest
  unfold isInFlight
  unfold hasEnded at h
  split at h <;> simp_all

theorem begun_of_cleared {a : Agent V} (h : a.phase = .cleared) : a.begun = a.iteration := by
  apply begun_of_atRest
  rw [isInFlight, h]

namespace Turn

variable {plan : Plan R V} {network : Network σ} {index : Nat} {a after : Agent V}
  {w world : World σ} {new : List Deed}

/-- An agent begins an iteration by a call of the behaviour and in no other way. -/
theorem calls (turn : a.Turn plan network index w after new world) :
    (world.calls = w.calls ∧ after.begun = a.begun) ∨
      (a.phase = .cleared ∧ world.calls = w.calls ++ [(index, a.begun)] ∧
        after.begun = a.begun + 1) := by
  cases turn with
  | act phase performed =>
    refine .inl ⟨(World.performs_of_perform performed).calls, ?_⟩
    unfold begun isInFlight
    rw [phase]
    rename_i stage _ _ _
    cases stage <;> rfl
  | prepare phase _ world => exact .inl ⟨world.calls, by simp [begun, isInFlight, phase]⟩
  | start ready _ world =>
    refine .inl ⟨world.calls, ?_⟩
    rcases ready with ⟨phase, _⟩ | phase <;> simp [begun, isInFlight, phase]
  | refuse was _ phase_eq world =>
    refine .inl ⟨world.calls, ?_⟩
    rcases phase_eq with rfl | rfl <;> simp [begun, isInFlight, was]
  | skip ready _ world =>
    refine .inl ⟨world.calls, ?_⟩
    unfold begun
    rw [isInFlight_departure rfl]
    rcases ready with (⟨phase, _⟩ | phase) | ⟨phase, _⟩ <;> simp [isInFlight, phase]
  | leave phase _ world =>
    refine .inl ⟨world.calls, ?_⟩
    unfold begun
    rw [isInFlight_departure rfl]
    simp [isInFlight, phase]
  | clear phase => exact .inl ⟨rfl, by simp [begun, isInFlight, phase]⟩
  | call phase =>
    refine .inr ⟨phase, ?_, by simp [begun, isInFlight, phase]⟩
    simp [World.calls_note, Event.call?, begun, isInFlight, phase]
  | emerge phase => exact .inl ⟨rfl, by simp [begun, isInFlight, phase]⟩
  | account phase _ world => exact .inl ⟨world.calls, by simp [begun, isInFlight, phase]⟩
  | bail phase _ world =>
    refine .inl ⟨world.calls, ?_⟩
    unfold begun
    rw [isInFlight_departure rfl]
    simp [isInFlight, phase]
  | close was phase_eq world =>
    refine .inl ⟨world.calls, ?_⟩
    rcases phase_eq with rfl | rfl <;> simp [begun, isInFlight, was]

/-- An agent counts its iterations for itself and in the counter that all share. -/
theorem iterations (turn : a.Turn plan network index w after new world) :
    ∃ count, after.iteration = a.iteration + count ∧
      world.counters.iterations = w.counters.iterations + count.toUInt64 := by
  cases turn with
  | act phase performed =>
    refine ⟨0, rfl, ?_⟩
    rw [(World.performs_of_perform performed).counters, Action.iterations_count]
    simp
  | prepare _ _ world | start _ _ world | refuse _ _ _ world | skip _ _ world | leave _ _ world
  | close _ _ world => exact ⟨0, rfl, by simp [world.counters]⟩
  | clear | call | emerge => exact ⟨0, rfl, by simp [World.note]⟩
  | account _ _ world | bail _ _ world => exact ⟨1, rfl, by rw [world.counters]; rfl⟩

end Turn

end Agent

/-! ## Sums over the agents -/

/-- A list whose entries are known by their positions. -/
theorem map_eq_map_range {α β : Type} {list : List α} {f : α → β} {g : Nat → β}
    (h : ∀ i a, list[i]? = some a → f a = g i) : list.map f = (List.range list.length).map g := by
  apply List.ext_getElem?
  intro i
  cases hFound : list[i]? with
  | none =>
    have hLength : list.length ≤ i := List.getElem?_eq_none_iff.1 hFound
    have hRange : (List.range list.length)[i]? = none :=
      List.getElem?_eq_none (by simpa using hLength)
    rw [List.getElem?_map, hFound, List.getElem?_map, hRange]
    rfl
  | some a =>
    have hLength : i < list.length := (List.getElem?_eq_some_iff.1 hFound).1
    rw [List.getElem?_map, hFound, List.getElem?_map, List.getElem?_range hLength]
    simp [h i a hFound]

theorem countP_eq_countP_range {α : Type} {list : List α} {p : α → Bool} {q : Nat → Bool}
    (h : ∀ i a, list[i]? = some a → p a = q i) :
    list.countP p = (List.range list.length).countP q := by
  have hCount := congrArg (List.countP id) (map_eq_map_range h)
  rwa [List.countP_map, List.countP_map] at hCount

namespace State

/-- The sum of a figure over all agents. -/
def total (figure : Agent V → Nat) (s : State σ V) : Nat := (s.agents.toList.map figure).sum

/-- How many iterations all agents together have counted. -/
def iterations (s : State σ V) : Nat := s.total Agent.iteration

/-- How many calls of the behaviour have begun and are not counted yet. -/
def inFlight (s : State σ V) : Nat := s.agents.countP Agent.isInFlight

theorem sum_map_set {α : Type} (figure : α → Nat) {list : List α} {i : Nat} {old : α}
    (h : list[i]? = some old) (new : α) :
    ((list.set i new).map figure).sum + figure old = (list.map figure).sum + figure new := by
  induction list generalizing i with
  | nil => cases h
  | cons head tail ih =>
    cases i with
    | zero =>
      have hHead : head = old := by simpa using h
      simp only [List.set_cons_zero, List.map_cons, List.sum_cons, hHead]
      omega
    | succ i =>
      have hTail := ih (i := i) (by simpa using h)
      simp only [List.set_cons_succ, List.map_cons, List.sum_cons]
      omega

theorem total_set (figure : Agent V → Nat) {s : State σ V} {index : Nat} {a : Agent V}
    (found : s.agents[index]? = some a) (after : Agent V) (world : World σ) :
    State.total figure (⟨s.agents.setIfInBounds index after, world⟩ : State σ V) + figure a =
      s.total figure + figure after := by
  have hFound : s.agents.toList[index]? = some a := by simpa using found
  simpa [total] using sum_map_set figure hFound after

/-- A figure that is known of every agent by its position. -/
theorem total_eq {figure : Agent V → Nat} {g : Nat → Nat} {s : State σ V}
    (h : ∀ index a, s.agents[index]? = some a → figure a = g index) :
    s.total figure = ((List.range s.agents.size).map g).sum := by
  have hMap : s.agents.toList.map figure = (List.range s.agents.toList.length).map g := by
    apply map_eq_map_range
    intro index a found
    exact h index a (by simpa using found)
  rw [total, hMap, Array.length_toList]

theorem countP_agents {p : Agent V → Bool} {q : Nat → Bool} {s : State σ V}
    (h : ∀ index a, s.agents[index]? = some a → p a = q index) :
    s.agents.countP p = (List.range s.agents.size).countP q := by
  rw [← Array.countP_toList, ← Array.length_toList]
  apply countP_eq_countP_range
  intro index a found
  exact h index a (by simpa using found)

theorem total_begun (s : State σ V) : s.total Agent.begun = s.iterations + s.inFlight := by
  unfold iterations inFlight total
  rw [← Array.countP_toList]
  induction s.agents.toList with
  | nil => rfl
  | cons a agents ih =>
    simp only [List.map_cons, List.sum_cons, List.countP_cons, ih, Agent.begun]
    omega

namespace Reaches

variable {Allowed : State σ V → Prop} {plan : Plan R V} {network : Network σ}
  {s last : State σ V} {deeds : List Deed}

/-- The shared counter holds the sum of what the agents have counted. -/
theorem iterations_eq (h : Reaches Allowed plan network s deeds last)
    (hStart : s.world.counters.iterations = s.iterations.toUInt64) :
    last.world.counters.iterations = last.iterations.toUInt64 := by
  induction h with
  | refl => exact hStart
  | stop before allowed reason ih => exact ih
  | @agent deeds new now index a after world before allowed found turn ih =>
    obtain ⟨count, hAgent, hWorld⟩ := turn.iterations
    have hTotal : (⟨now.agents.setIfInBounds index after, world⟩ : State σ V).iterations =
        now.iterations + count := by
      have h := total_set Agent.iteration found after world
      unfold iterations
      omega
    rw [hWorld, ih, hTotal]
    exact (UInt64.ofNat_add _ _).symm

/-- The history tells as many calls as the agents have begun iterations. -/
theorem length_calls (h : Reaches Allowed plan network s deeds last)
    (hStart : s.world.calls.length = s.total Agent.begun) :
    last.world.calls.length = last.total Agent.begun := by
  induction h with
  | refl => exact hStart
  | stop before allowed reason ih =>
    rw [World.calls_requestStop, (World.Murmurs.log reason _).calls]
    exact ih
  | @agent deeds new now index a after world before allowed found turn ih =>
    have hTotal := total_set Agent.begun found after world
    rcases turn.calls with ⟨hCalls, hBegun⟩ | ⟨_, hCalls, hBegun⟩
    · simp only [hCalls]
      omega
    · simp only [hCalls, List.length_append, List.length_singleton]
      omega

end Reaches

end State

/-! ## In every course -/

namespace Course

variable {network : Network σ} {state : σ} {hooks : Hooks R V} {resolved : ResolvedScenario}

theorem total_start (c : Course network state hooks resolved) (figure : Agent V → Nat)
    (h : figure (.initial hooks.own) = 0) : c.start.total figure = 0 := by
  simp [State.total, agents_start, h]

theorem iterations_last (c : Course network state hooks resolved) :
    c.last.world.counters.iterations = c.last.iterations.toUInt64 := by
  apply c.reaches.iterations_eq
  rw [State.iterations, c.total_start Agent.iteration rfl]
  exact c.iterations_world

theorem length_calls_last (c : Course network state hooks resolved) :
    c.last.world.calls.length = c.last.iterations + c.last.inFlight := by
  rw [← State.total_begun]
  apply c.reaches.length_calls
  rw [c.total_start Agent.begun rfl]
  exact congrArg List.length c.calls_world

/-- An agent begins its iterations in order, none of them twice. -/
theorem callsOf_last (c : Course network state hooks resolved) {index : Nat} {a : Agent V}
    (found : c.last.agents[index]? = some a) :
    c.last.world.callsOf index = List.range a.begun := by
  refine c.forall_agents (P := fun _ trail a ↦ trail.calls = List.range a.begun) ?_ ?_ found
  · intro index
    simp [Trail.of, World.callsOf, c.calls_world, Agent.begun, Agent.initial, Agent.isInFlight]
  · intro now index a after deeds new world _ _ turn h
    simp only [Trail.of, World.callsOf] at h ⊢
    rcases turn.calls with ⟨hCalls, hBegun⟩ | ⟨_, hCalls, hBegun⟩
    · rw [hCalls, hBegun]
      exact h
    · rw [hCalls, hBegun, List.range_succ, List.filter_append, List.map_append, h]
      simp

end Course

end StorefrontLoad.Run
