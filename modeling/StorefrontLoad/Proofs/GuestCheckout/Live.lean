import StorefrontLoad.Proofs.GuestCheckout.Accounting
import StorefrontLoad.Proofs.Run.Live

/-!
# Guest checkouts that are watched

At every moment of a guest checkout run the counters hold no more attempts of a checkout than
successes of the catalog step. A snapshot that is taken meanwhile copies the catalog step first and
may show more checkouts, one for each success of the catalog step that is counted before it is done.
-/

namespace StorefrontLoad.GuestCheckout

open Contention (Call Observer)
open Run (Course Hooks Deed)
open Storefront

section Watched

variable {σ : Type} {network : Network σ} {state : σ} {hooks : Hooks Shop Guest}
  {resolved : ResolvedScenario}

theorem leads_of_isRecordedBy (hSetup : hooks.setup = some configureClient)
    (hBehaviour : hooks.agent.behaviour = some behaviour) (hQuiet : hooks.agent.IsQuiet)
    {c : Course network state hooks resolved} {calls : List (List Call)}
    (hRecorded : c.IsRecordedBy calls) :
    ∀ list ∈ calls, Contention.Leads Client.catalogStep Client.checkoutStep list := by
  apply hRecorded.leads
  intro c index hIndex
  obtain ⟨a, _, hAccounts⟩ :=
    accounts_of_mem hSetup hBehaviour hQuiet c (Finset.mem_range.2 hIndex)
  exact hAccounts.checkout

/-- What is seen of the counters of a guest checkout run, whatever its agents have met with and
however the changes of their records interleave with the loads of any snapshots. At every moment
there are no more attempts of a checkout than variants that were chosen. A snapshot shows at most
as many more as were chosen while it was taken, so none if none was, and none if all agents had
stopped. -/
theorem live_counters (hSetup : hooks.setup = some configureClient)
    (hBehaviour : hooks.agent.behaviour = some behaviour) (hQuiet : hooks.agent.IsQuiet)
    (c : Course network state hooks resolved) {calls : List (List Call)}
    (hRecorded : c.IsRecordedBy calls) (hFew : calls.flatten.countP Call.isRecord < 2 ^ 64)
    {before during : List Contention.Move} {first last : Contention.State}
    (hBefore : (Contention.State.initial (calls.map (·.map Call.task))).applyAll before =
      some first) (hDuring : first.applyAll during = some last) :
    let chosenAt (s : Contention.State) :=
      (s.memory.counters.stepOrFresh Client.catalogStep).succeeded
    (last.memory.counters.stepOrFresh Client.checkoutStep).attempted ≤ chosenAt last ∧
    ∀ (k : Nat) (outcome : OutcomeSummary),
      (∀ o, first.observers[k]? = some o → o = Observer.arriving) →
      last.observers[k]? = some (Observer.told outcome) →
      let tried := (outcome.stepOrEmpty Client.checkoutStep).attempted
      let chosen := (outcome.stepOrEmpty Client.catalogStep).succeeded
      tried.toNat ≤ chosen.toNat + ((chosenAt last).toNat - (chosenAt first).toNat) ∧
        (chosenAt last = chosenAt first → tried ≤ chosen) ∧
        ((∀ r ∈ first.recorders, r.isIdle = true) → tried ≤ chosen) := by
  intro chosenAt
  have hLeads := leads_of_isRecordedBy hSetup hBehaviour hQuiet hRecorded
  have hAll : (Contention.State.initial (calls.map (·.map Call.task))).applyAll
      (before ++ during) = some last := by
    rw [Contention.State.applyAll_append, hBefore]
    exact hDuring
  refine ⟨Contention.State.attempted_le steps_ne hLeads hFew hAll, fun k outcome hNew hTold ↦ ?_⟩
  intro tried chosen
  have hTold : tried.toNat ≤ chosen.toNat + ((chosenAt last).toNat - (chosenAt first).toNat) :=
    Contention.State.told_attempted_le steps_ne hLeads hFew hBefore hDuring hNew hTold
  have hSame (h : chosenAt last = chosenAt first) : tried ≤ chosen := by
    rw [h, Nat.sub_self, Nat.add_zero] at hTold
    exact hTold
  refine ⟨hTold, hSame, fun hIdle ↦ hSame ?_⟩
  have hMemory := Contention.State.memory_of_isIdle hIdle hDuring
  exact congrArg (fun m : Contention.Memory ↦
    (m.counters.stepOrFresh Client.catalogStep).succeeded) hMemory

end Watched

/-! ## One guest -/

namespace OneGuest

def resolved : ResolvedScenario :=
  ⟨"one-guest", { RunConfig.of "http://a" "b" 1 (.iterations 2) with seed := some 7 }, true, .noop,
    none, none⟩

def answers : List Answer :=
  [.ok TwoGuests.catalogBody, .ok TwoGuests.checkoutBody, .ok TwoGuests.catalogBody,
    .ok TwoGuests.checkoutBody]

def course : Course Network.scripted answers (GuestCheckout.hooks 3) resolved :=
  .ofMoves (by decide +kernel) (List.replicate 23 (.agent 0)) (by decide +kernel)

/-- What the agent asks of the counters. -/
def calls : List (List Call) :=
  [[.record Client.catalogStep .succeeded .zero, .record Client.checkoutStep .succeeded .zero,
    .countIteration, .record Client.catalogStep .succeeded .zero,
    .record Client.checkoutStep .succeeded .zero, .countIteration]]

theorem isRecordedBy_calls : course.IsRecordedBy calls where
  length := course.size_agents.symm
  records index list h := by
    cases index with
    | zero =>
      cases h
      decide +kernel
    | succ index => cases h

/-- The first iteration is over and somebody begins to look. -/
def before : List Contention.Move := List.replicate 19 (.recorder 0) ++ [.observe]

/-- The second iteration is recorded when the catalog step has been copied and the checkout step has
not. -/
def during : List Contention.Move :=
  List.replicate 6 (.observer 0) ++ List.replicate 12 (.recorder 0) ++
    List.replicate 15 (.observer 0)

/-- The attempts of a checkout and the successes of the catalog step that the observer tells. -/
def told (s : Contention.State) : Option (UInt64 × UInt64) :=
  match s.observers[0]? with
  | some (Observer.told outcome) => some ((outcome.stepOrEmpty Client.checkoutStep).attempted,
      (outcome.stepOrEmpty Client.catalogStep).succeeded)
  | _ => none

/-- Whether the observer has copied nothing yet. -/
def isNew (s : Contention.State) : Bool :=
  match s.observers[0]? with
  | some Observer.arriving => true
  | _ => false

theorem exists_told : ∃ first last outcome,
    (Contention.State.initial (calls.map (·.map Call.task))).applyAll before = some first ∧
    first.applyAll during = some last ∧ first.observers[0]? = some Observer.arriving ∧
    last.observers[0]? = some (Observer.told outcome) ∧
    (outcome.stepOrEmpty Client.checkoutStep).attempted = 2 ∧
    (outcome.stepOrEmpty Client.catalogStep).succeeded = 1 := by
  have hSeen : ((Contention.State.initial (calls.map (·.map Call.task))).applyAll before).bind
      (fun first ↦ (first.applyAll during).bind fun last ↦
        (told last).map (isNew first, ·)) = some (true, 2, 1) := by
    decide +kernel
  obtain ⟨first, hBefore, hRest⟩ := Option.bind_eq_some_iff.1 hSeen
  obtain ⟨last, hDuring, hBoth⟩ := Option.bind_eq_some_iff.1 hRest
  obtain ⟨pair, hTold, hPair⟩ := Option.map_eq_some_iff.1 hBoth
  obtain ⟨hNew, rfl⟩ := Prod.mk.inj hPair
  unfold isNew at hNew
  unfold told at hTold
  split at hNew
  · next hArriving =>
    split at hTold
    · next outcome hLast =>
      obtain ⟨hTried, hChosen⟩ := Prod.mk.inj (Option.some.inj hTold)
      exact ⟨first, last, outcome, hBefore, hDuring, hArriving, hLast, hTried, hChosen⟩
    · cases hTold
  · cases hNew

end OneGuest

/-- A snapshot can show more checkouts than variants that were chosen. -/
theorem more_checkouts_than_choices : OneGuest.course.IsRecordedBy OneGuest.calls ∧
    ∃ last outcome,
      (Contention.State.initial (OneGuest.calls.map (·.map Call.task))).applyAll
        (OneGuest.before ++ OneGuest.during) = some last ∧
      last.observers[0]? = some (Observer.told outcome) ∧
      ¬ (outcome.stepOrEmpty Client.checkoutStep).attempted ≤
        (outcome.stepOrEmpty Client.catalogStep).succeeded := by
  obtain ⟨first, last, outcome, hBefore, hDuring, _, hTold, hTried, hChosen⟩ := OneGuest.exists_told
  refine ⟨OneGuest.isRecordedBy_calls, last, outcome, ?_, hTold, ?_⟩
  · rw [Contention.State.applyAll_append, hBefore, Option.bind_some, hDuring]
  · rw [hTried, hChosen]
    decide

theorem live_counters_oneGuest : ∃ first last outcome,
    (Contention.State.initial (OneGuest.calls.map (·.map Call.task))).applyAll OneGuest.before =
      some first ∧ first.applyAll OneGuest.during = some last ∧
    last.observers[0]? = some (Observer.told outcome) ∧
    (last.memory.counters.stepOrFresh Client.checkoutStep).attempted ≤
      (last.memory.counters.stepOrFresh Client.catalogStep).succeeded ∧
    (outcome.stepOrEmpty Client.checkoutStep).attempted.toNat ≤
      (outcome.stepOrEmpty Client.catalogStep).succeeded.toNat +
        ((last.memory.counters.stepOrFresh Client.catalogStep).succeeded.toNat -
          (first.memory.counters.stepOrFresh Client.catalogStep).succeeded.toNat) := by
  obtain ⟨first, last, outcome, hBefore, hDuring, hNew, hTold, _⟩ := OneGuest.exists_told
  have h := live_counters rfl rfl (isQuiet_hooks 3) OneGuest.course OneGuest.isRecordedBy_calls
    (by decide) hBefore hDuring
  have hArriving : ∀ o, first.observers[0]? = some o → o = .arriving := fun o hAt ↦
    Option.some.inj (hAt.symm.trans hNew)
  exact ⟨first, last, outcome, hBefore, hDuring, hTold, h.1, (h.2 0 outcome hArriving hTold).1⟩

end StorefrontLoad.GuestCheckout
