import StorefrontLoad.Proofs.Outcome.Lead
import StorefrontLoad.Proofs.Run.Ledger

/-!
# Runs whose counters are watched

Of all that an agent does only its records touch the counters, and its next record comes when the
one before has been made. So what observers can see of a run is settled by the records that each
agent makes in its order, however the changes of the records interleave with each other and with
the loads of the observers.
-/

namespace StorefrontLoad.Run

open Contention (Call Word)
open Storefront (Network)

variable {R V σ : Type}

/-! ## Records as calls -/

namespace Exchange

/-- The record that an exchange asks for, if it asks for one. -/
def call? (exchange : Exchange) : Option Call :=
  match exchange.action with
  | .record step kind latency => some (.record step kind latency)
  | _ => none

/-- The records of a conversation, in their order. -/
def calls (talk : List Exchange) : List Call := talk.filterMap call?

theorem countP_category (talk : List Exchange) (step : String) (kind : OutcomeKind) :
    (calls talk).countP (Call.counts step (.category kind)) = tally talk step kind := by
  rw [calls, List.countP_filterMap, tally]
  congr 1
  funext exchange
  obtain ⟨action, reply⟩ := exchange
  cases action with
  | record name k latency =>
    simp [call?, Call.counts, Word.concerns, records, eq_comm (a := kind)]
  | post | log | pause | requestStop | isStopRequested | awaitStop | readOutcome => rfl

theorem countP_attempted (talk : List Exchange) (step : String) :
    (calls talk).countP (Call.counts step .attempted) = (tally talk step).attempts := by
  simp only [Contention.countP_attempted, countP_category, StepTally.attempts]

theorem filter_calls (talk : List Exchange) : (calls talk).filter Call.isRecord = calls talk := by
  apply List.filter_eq_self.2
  intro call hMem
  obtain ⟨⟨action, reply⟩, _, hCall⟩ := List.mem_filterMap.1 hMem
  cases action with
  | record step kind latency =>
    cases hCall
    rfl
  | post | log | pause | requestStop | isStopRequested | awaitStop | readOutcome => cases hCall

end Exchange

/-! ## Beginnings of a course -/

namespace State

variable {plan : Plan R V} {network : Network σ}

theorem transcript_append {s middle : State σ V} {first : List Move}
    (h : s.applyAll plan network first = some middle) (second : List Move) :
    s.transcript plan network (first ++ second) =
      s.transcript plan network first ++ middle.transcript plan network second := by
  induction first generalizing s with
  | nil =>
    cases h
    rfl
  | cons move moves ih =>
    obtain ⟨next, hNext, hRest⟩ := Option.bind_eq_some_iff.1 h
    rw [List.cons_append, transcript, transcript, hNext, List.append_assoc]
    exact congrArg (s.deeds network move ++ ·) (ih hRest)

/-- A move takes one action at most. -/
theorem deeds_cases (network : Network σ) (s : State σ V) (move : Move) :
    s.deeds network move = [] ∨ ∃ deed, s.deeds network move = [deed] := by
  cases move with
  | stop reason => exact .inl rfl
  | agent index =>
    rw [deeds]
    split
    · next a _ =>
      unfold Agent.deeds
      split
      · split
        · exact .inr ⟨_, rfl⟩
        · exact .inl rfl
      · exact .inl rfl
    · exact .inl rfl

end State

namespace Course

variable {network : Network σ} {state : σ} {hooks : Hooks R V} {resolved : ResolvedScenario}

/-- The course up to its last move. -/
theorem exists_before_last (c : Course network state hooks resolved) {moves : List Move}
    {move : Move} (h : c.moves = moves ++ [move]) :
    ∃ before : Course network state hooks resolved, before.moves = moves ∧
      (c.deeds = before.deeds ∨ ∃ deed, c.deeds = before.deeds ++ [deed]) := by
  have hPlayed := c.played
  rw [h, State.applyAll_append] at hPlayed
  obtain ⟨middle, hMiddle, hLast⟩ := Option.bind_eq_some_iff.1 hPlayed
  refine ⟨{ c with moves := moves, last := middle, played := hMiddle }, rfl, ?_⟩
  have hDeeds : c.deeds = c.start.transcript c.plan network moves ++
      middle.transcript c.plan network [move] := by
    rw [deeds, h]
    exact State.transcript_append hMiddle [move]
  have hOne : middle.transcript c.plan network [move] = middle.deeds network move := by
    rw [State.transcript]
    split <;> simp [State.transcript]
  rw [hDeeds, hOne]
  rcases middle.deeds_cases network move with hNone | ⟨deed, hDeed⟩
  · rw [hNone, List.append_nil]
    exact .inl rfl
  · rw [hDeed]
    exact .inr ⟨deed, rfl⟩

/-- What holds of all that an agent has said at any time of any course holds wherever its talk is
cut off. -/
theorem forall_prefix {P : List Exchange → Prop} {index : Nat}
    (h : ∀ c : Course network state hooks resolved, P (Deed.talkOf index c.deeds))
    (c : Course network state hooks resolved) {talk : List Exchange}
    (hPrefix : talk <+: Deed.talkOf index c.deeds) : P talk := by
  induction hMoves : c.moves using List.reverseRecOn generalizing c with
  | nil =>
    have hNone : c.deeds = [] := by
      rw [deeds, hMoves]
      rfl
    have hTalk := h c
    rw [hNone] at hPrefix hTalk
    rwa [List.prefix_nil.1 hPrefix]
  | append_singleton moves move ih =>
    obtain ⟨before, hBefore, hSame | ⟨deed, hDeed⟩⟩ := c.exists_before_last hMoves
    · exact ih before (hSame ▸ hPrefix) hBefore
    · by_cases hAgent : deed.agent = index
      · have hTalk : Deed.talkOf index c.deeds =
            Deed.talkOf index before.deeds ++ [deed.exchange] := by
          simp [Deed.talkOf, Deed.talk, hDeed, hAgent]
        rw [hTalk] at hPrefix
        rcases List.prefix_concat_iff.1 hPrefix with hWhole | hCut
        · rw [hWhole, ← hTalk]
          exact h c
        · exact ih before hCut hBefore
      · have hTalk : Deed.talkOf index c.deeds = Deed.talkOf index before.deeds := by
          simp [Deed.talkOf, Deed.talk, hDeed, hAgent]
        exact ih before (hTalk ▸ hPrefix) hBefore

/-- The recorders make the records of the agents, each those of one agent in their order. In between
they may name steps and count iterations. -/
structure IsRecordedBy (c : Course network state hooks resolved) (calls : List (List Call)) :
    Prop where
  length : calls.length = c.last.agents.size
  records : ∀ (index : Nat) (list : List Call), calls[index]? = some list →
    list.filter Call.isRecord = Exchange.calls (Deed.talkOf index c.deeds)

/-- The records of each agent, and nothing in between. -/
def calls (c : Course network state hooks resolved) : List (List Call) :=
  (List.range c.last.agents.size).map fun index ↦ Exchange.calls (Deed.talkOf index c.deeds)

/-- Every course has recorders, so what is said of them is never said of nobody. -/
theorem isRecordedBy_calls (c : Course network state hooks resolved) :
    c.IsRecordedBy c.calls where
  length := by rw [calls, List.length_map, List.length_range]
  records index list h := by
    obtain ⟨_, rfl⟩ := List.getElem?_eq_some_iff.1 h
    simp only [calls, List.getElem_map, List.getElem_range, Exchange.filter_calls]

/-- If no agent has ever said that it attempted one step more often than the other one succeeded,
its recorder keeps to that. -/
theorem IsRecordedBy.leads {c : Course network state hooks resolved} {calls : List (List Call)}
    (hRecorded : c.IsRecordedBy calls) {lead follow : String}
    (h : ∀ (c : Course network state hooks resolved), ∀ index < c.last.agents.size,
      (Exchange.tally (Deed.talkOf index c.deeds) follow).attempts ≤
        Exchange.tally (Deed.talkOf index c.deeds) lead .succeeded) :
    ∀ list ∈ calls, Contention.Leads lead follow list := by
  intro list hMem first hFirst
  obtain ⟨index, hAt⟩ := List.mem_iff_getElem?.1 hMem
  have hFilter (step : String) (word : Word) : first.countP (Call.counts step word) =
      (first.filter Call.isRecord).countP (Call.counts step word) := by
    rw [List.countP_filter]
    refine List.countP_congr fun call _ ↦ ?_
    simpa using Contention.isRecord_of_counts
  have hRecords := hFirst.filter Call.isRecord
  rw [hRecorded.records index list hAt] at hRecords
  obtain ⟨talk, hTalk, hCalls⟩ := List.prefix_filterMap_iff.1 hRecords
  have hIndex : index < resolved.config.concurrency := by
    rw [← c.size_agents, ← hRecorded.length]
    exact (List.getElem?_eq_some_iff.1 hAt).1
  have hLaw : (Exchange.tally talk follow).attempts ≤ Exchange.tally talk lead .succeeded :=
    forall_prefix (P := fun talk ↦ (Exchange.tally talk follow).attempts ≤
      Exchange.tally talk lead .succeeded) (fun c ↦ h c index (c.size_agents ▸ hIndex)) c hTalk
  calc first.countP (Call.counts follow .attempted)
      = (Exchange.calls talk).countP (Call.counts follow .attempted) := by
        rw [hFilter, hCalls, Exchange.calls]
    _ = (Exchange.tally talk follow).attempts := Exchange.countP_attempted talk follow
    _ ≤ Exchange.tally talk lead .succeeded := hLaw
    _ = (Exchange.calls talk).countP (Call.counts lead (.category .succeeded)) :=
        (Exchange.countP_category talk lead .succeeded).symm
    _ = first.countP (Call.counts lead (.category .succeeded)) := by
        rw [hFilter, hCalls, Exchange.calls]

end Course

end StorefrontLoad.Run
