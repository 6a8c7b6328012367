import StorefrontLoad.Proofs.GuestCheckout.Accounting
import StorefrontLoad.Proofs.Run.Quota

/-!
# Seeded runs repeat themselves

Against a target that answers every request in its own fixed way, a guest with a seeded source can
say and hear only one thing, latencies aside. So two runs with the same seed and the same quota do
the same, in whatever order their agents take turns: the same requests, the same outcomes and the
same counters.
-/

namespace StorefrontLoad.GuestCheckout

open Run (Program Exchange Deed Ending AgentContext Hooks World Agent Course Move State)
open Storefront

/-! ## Fixed answers -/

/-- What the network answers depends on the target and the text of the request alone; how long it
takes may depend on anything. -/
def Fixed {σ : Type} (network : Network σ) (answer : Url → List Char → Answer) : Prop :=
  ∀ target request state,
    (network.deliver target request state).1.answer = answer target request.text

/-- A request has got the answer that is fixed for it. -/
def Faithful (answer : Url → List Char → Answer) (exchange : Exchange) : Prop :=
  match exchange with
  | ⟨.post target request, delivery⟩ => Delivery.answer delivery = answer target request.text
  | _ => True

section Faithful

variable {R V σ : Type} {plan : Run.Plan R V} {network : Network σ} {index : Nat}
  {answer : Url → List Char → Answer}

theorem faithful_of_perform (hFixed : Fixed network answer) {agent : Option Nat} {w : World σ}
    {action : Run.Action} {taken : Run.Step σ action.Reply}
    (h : w.perform network agent action = some taken) : Faithful answer ⟨action, taken.reply⟩ := by
  cases action with
  | post target request =>
    cases h
    exact hFixed target request w.network
  | record | log | pause | requestStop | isStopRequested | awaitStop | readOutcome => trivial

theorem faithful_of_turn (hFixed : Fixed network answer) {a after : Agent V} {w world : World σ}
    {new : List Deed} (turn : a.Turn plan network index w after new world) :
    ∀ deed ∈ new, Faithful answer deed.exchange := by
  cases turn with
  | act _ performed =>
    intro deed hMem
    rw [List.mem_singleton.1 hMem]
    exact faithful_of_perform hFixed performed
  | prepare | start | refuse | skip | leave | clear | call | emerge | account | bail | close =>
    intro deed hMem
    cases hMem

theorem faithful_of_reaches (hFixed : Fixed network answer) {Allowed : State σ V → Prop}
    {s last : State σ V} {deeds : List Deed}
    (h : State.Reaches Allowed plan network s deeds last) :
    ∀ deed ∈ deeds, Faithful answer deed.exchange := by
  induction h with
  | refl => simp
  | stop before allowed reason ih => exact ih
  | agent before allowed found turn ih =>
    intro deed hMem
    rcases List.mem_append.1 hMem with hOld | hNew
    · exact ih deed hOld
    · exact faithful_of_turn hFixed turn deed hNew

end Faithful

/-! ## One iteration -/

/-- Two conversations that differ at most in what nobody counts and in latencies. -/
structure Alike (first second : List Exchange) : Prop where
  requests : Exchange.requests first = Exchange.requests second
  tally : Exchange.tally first = Exchange.tally second

namespace Alike

theorem refl (talk : List Exchange) : Alike talk talk := ⟨rfl, rfl⟩

theorem symm {first second : List Exchange} (h : Alike first second) : Alike second first :=
  ⟨h.requests.symm, h.tally.symm⟩

theorem trans {first second third : List Exchange} (h : Alike first second)
    (h' : Alike second third) : Alike first third :=
  ⟨h.requests.trans h'.requests, h.tally.trans h'.tally⟩

theorem append {first first' second second' : List Exchange} (h : Alike first first')
    (h' : Alike second second') : Alike (first ++ second) (first' ++ second') where
  requests := by rw [Exchange.requests_append, Exchange.requests_append, h.requests, h'.requests]
  tally := by
    funext step kind
    rw [Exchange.tally_append, Exchange.tally_append, h.tally, h'.tally]

theorem of_isSilent {first second : List Exchange} (h : ∀ e ∈ first, e.action.isSilent)
    (h' : ∀ e ∈ second, e.action.isSilent) : Alike first second where
  requests := by rw [Exchange.requests_of_isSilent h, Exchange.requests_of_isSilent h']
  tally := by rw [Exchange.tally_of_isSilent h, Exchange.tally_of_isSilent h']

theorem stepTalk (target : Url) (request : Request) (name : String) (kind : OutcomeKind)
    (delivery delivery' : Delivery) :
    Alike (stepTalk target request name kind delivery)
      (Storefront.stepTalk target request name kind delivery') where
  requests := rfl
  tally := by
    funext step k
    rw [tally_stepTalk, tally_stepTalk]

end Alike

section OneIteration

variable {answer : Url → List Char → Answer} {client : Client} {channel email : String}
  {source after after' : Random.Source} {talk talk' : List Exchange}
  {outcome outcome' : IterationOutcome}

/-- The answer in a step is the one that is fixed. -/
theorem answer_of_faithful {target : Url} {request : Request} {name : String} {kind : OutcomeKind}
    {delivery : Delivery} {rest : List Exchange}
    (h : ∀ e ∈ stepTalk target request name kind delivery ++ rest, Faithful answer e) :
    delivery.answer = answer target request.text :=
  h ⟨.post target request, delivery⟩ List.mem_cons_self

theorem faithful_rest {first second : List Exchange}
    (h : ∀ e ∈ first ++ second, Faithful answer e) :
    ∀ e ∈ second, Faithful answer e :=
  fun e hMem ↦ h e (List.mem_append_right first hMem)

/-- Fixed answers leave an iteration only one way to go. -/
theorem Pass.unique (h : Pass client channel email source talk outcome after)
    (h' : Pass client channel email source talk' outcome' after')
    (hFaithful : ∀ e ∈ talk, Faithful answer e) (hFaithful' : ∀ e ∈ talk', Faithful answer e) :
    outcome = outcome' ∧ after = after' ∧ Alike talk talk' := by
  cases h with
  | unavailable chosen silent =>
    rw [answer_of_faithful hFaithful] at chosen
    cases h' with
    | unavailable chosen' silent' =>
      rw [answer_of_faithful hFaithful', chosen] at chosen'
      obtain ⟨hFailure, rfl⟩ := Prod.mk.inj chosen'
      obtain rfl := Except.error.inj hFailure
      exact ⟨rfl, rfl, (Alike.stepTalk ..).append (.of_isSilent silent silent')⟩
    | tried chosen' =>
      rw [answer_of_faithful hFaithful', chosen] at chosen'
      cases (Prod.mk.inj chosen').1
  | tried chosen silent =>
    rw [answer_of_faithful hFaithful] at chosen
    rw [answer_of_faithful (faithful_rest hFaithful)]
    cases h' with
    | unavailable chosen' =>
      rw [answer_of_faithful hFaithful', chosen] at chosen'
      cases (Prod.mk.inj chosen').1
    | tried chosen' silent' =>
      rw [answer_of_faithful hFaithful', chosen] at chosen'
      rw [answer_of_faithful (faithful_rest hFaithful')]
      obtain ⟨hSelection, rfl⟩ := Prod.mk.inj chosen'
      obtain rfl := Except.ok.inj hSelection
      exact ⟨rfl, rfl, (Alike.stepTalk ..).append
        ((Alike.stepTalk ..).append (.of_isSilent silent silent'))⟩

end OneIteration

/-! ## One agent -/

/-- What an agent with a seeded source has gone through: the outcomes of its iterations, the source
it holds after them, and all that was said. -/
inductive Served (client : Client) (config : RunConfig) (seed : UInt64) (index : Nat) :
    List IterationOutcome → Random.Source → List Exchange → Prop
  | none : Served client config seed index [] (agentSource seed index) []
  | next {outcomes : List IterationOutcome} {outcome : IterationOutcome}
      {source after : Random.Source} {before new : List Exchange}
      (served : Served client config seed index outcomes source before)
      (went : (checkoutIteration client config.channel (guestEmail index outcomes.length)
        config.thinkTime source).Yields new (.done (outcome, after))) :
      Served client config seed index (outcomes ++ [outcome]) after (before ++ new)

section OneAgent

variable {answer : Url → List Char → Answer} {client : Client} {config : RunConfig} {seed : UInt64}
  {index : Nat}

/-- The life of an agent with a seed is the life of a seeded source. -/
theorem served_of_life {plan : Run.Plan Shop Guest} {own value : Guest} {count : Nat}
    {talk : List Exchange} (hSetup : plan.hooks.setup = some seedAgent)
    (hBehaviour : plan.hooks.behaviour = some behaviour)
    (hClient : plan.shared.client = some client) (hSeed : plan.config.seed = some seed)
    (h : Agent.Life plan index own count value talk) :
    ∃ outcomes source, outcomes.length = count ∧ value = some source ∧
      Served client plan.config seed index outcomes source talk := by
  induction h with
  | unprepared hNone =>
    rw [hSetup] at hNone
    cases hNone
  | prepared hSome went =>
    rw [hSetup] at hSome
    cases hSome
    obtain ⟨_, hResult⟩ := Program.yields_done_iff.1 went
    obtain ⟨rfl, _⟩ := Prod.mk.inj (Program.done.inj hResult)
    refine ⟨[], agentSource seed index, rfl, ?_, .none⟩
    rw [hSeed]
    rfl
  | iterated life hSome went ih =>
    rw [hBehaviour] at hSome
    cases hSome
    obtain ⟨outcomes, source, rfl, rfl, served⟩ := ih
    rw [behaviour_eq hClient] at went
    obtain ⟨first, second, ⟨outcome, after⟩, rfl, hIteration, hDone⟩ :=
      Program.yields_bind_done went
    obtain ⟨rfl, hResult⟩ := Program.yields_done_iff.1 hDone
    obtain ⟨rfl, _⟩ := Prod.mk.inj (Program.done.inj hResult)
    rw [List.append_nil]
    exact ⟨outcomes ++ [outcome], after, List.length_append, rfl, served.next hIteration⟩

/-- Fixed answers leave a seeded source only one life of each length. -/
theorem Served.unique {outcomes outcomes' : List IterationOutcome} {source source' : Random.Source}
    {talk talk' : List Exchange} (h : Served client config seed index outcomes source talk)
    (h' : Served client config seed index outcomes' source' talk')
    (hLength : outcomes.length = outcomes'.length) (hFaithful : ∀ e ∈ talk, Faithful answer e)
    (hFaithful' : ∀ e ∈ talk', Faithful answer e) :
    outcomes = outcomes' ∧ source = source' ∧ Alike talk talk' := by
  induction h generalizing outcomes' source' talk' with
  | none =>
    cases h' with
    | none => exact ⟨rfl, rfl, .refl _⟩
    | next => simp at hLength
  | @next outcomes outcome source after before new served went ih =>
    cases h' with
    | none => simp at hLength
    | @next outcomes' outcome' source' after' before' new' served' went' =>
      have hShorter : outcomes.length = outcomes'.length := by simpa using hLength
      obtain ⟨rfl, rfl, hBefore⟩ := ih served' hShorter
        (fun e hMem ↦ hFaithful e (List.mem_append_left _ hMem))
        (fun e hMem ↦ hFaithful' e (List.mem_append_left _ hMem))
      obtain ⟨rfl, rfl, hNew⟩ := (pass_of_yields went).unique (pass_of_yields went')
        (faithful_rest hFaithful) (faithful_rest hFaithful')
      exact ⟨rfl, rfl, hBefore.append hNew⟩

end OneAgent

/-! ## Two runs -/

section Courses

variable {σ : Type} {network : Network σ} {state : σ} {entropy : UInt64}
  {resolved : ResolvedScenario} {seed : UInt64} {quota : Nat}

/-- With a client, every hook of a guest ends well. -/
theorem assigned_hooks (c : Course network state (hooks entropy) resolved) :
    Run.Assigned c.plan (fun _ ↦ .ok) fun _ _ ↦ .ok where
  unprepared h := by cases h
  setup := by
    rintro hook ⟨⟩ index iteration value talk result hTalk
    obtain ⟨_, hResult⟩ := Program.yields_done_iff.1 hTalk
    rw [Program.done.inj hResult]
  behaviour := by
    rintro hook ⟨⟩ index iteration value talk ⟨left, ending⟩ hTalk
    obtain ⟨client, _, hClient, _⟩ := client_of_setup rfl c
    obtain ⟨_, _, _, hEnding, _⟩ := pass_of_behaviour hClient hTalk
    exact hEnding
  hasBehaviour := rfl

/-- The outcomes of an agent's iterations, as they follow from what it has said and heard. -/
def Outcomes (c : Course network state (hooks entropy) resolved) (seed : UInt64) (index : Nat)
    (outcomes : List IterationOutcome) : Prop :=
  ∃ client source, Client.connect resolved.config.targetUrl = .ok client ∧
    Served client resolved.config seed index outcomes source (c.saidOf index)

theorem agent_of_lt (c : Course network state (hooks entropy) resolved) {index : Nat}
    (hIndex : index < resolved.config.concurrency) : ∃ a, c.last.agents[index]? = some a := by
  rw [← c.size_agents] at hIndex
  exact ⟨_, Array.getElem?_eq_getElem hIndex⟩

/-- An agent of a seeded run that is left alone serves its whole quota. -/
theorem outcomes_of_hasEnded (c : Course network state (hooks entropy) resolved)
    (hSeed : resolved.config.seed = some seed)
    (hQuota : resolved.config.stopCondition = .iterations quota) (hUndisturbed : c.Undisturbed)
    (hEnded : c.last.hasEnded = true) {index : Nat}
    (hIndex : index < resolved.config.concurrency) :
    ∃ outcomes, outcomes.length = quota ∧ Outcomes c seed index outcomes := by
  obtain ⟨a, found⟩ := agent_of_lt c hIndex
  obtain ⟨client, hConnect, hClient, _⟩ := client_of_setup rfl c
  have hEnd : a.hasEnded = true := State.agent_hasEnded hEnded found
  have hOnQuota := Course.onQuota_last hQuota (assigned_hooks c) hUndisturbed found
  have hAll : Agent.Goes .ok (fun _ ↦ .ok) quota := ⟨rfl, fun _ _ ↦ rfl⟩
  have hIteration : a.iteration = quota :=
    (hOnQuota.iteration_eq (Agent.hasLeft_of_hasEnded hEnd)).trans hAll.share_eq
  rcases (c.lives_last found).of_hasEnded hEnd with ⟨hNone, hSaid⟩ | ⟨value, life⟩
  · refine ⟨[], hNone.symm.trans hIteration, client, agentSource seed index, hConnect, ?_⟩
    rw [hSaid]
    exact .none
  · obtain ⟨outcomes, source, hLength, _, served⟩ := served_of_life rfl rfl hClient hSeed life
    exact ⟨outcomes, hLength.trans hIteration, client, source, hConnect, served⟩

variable {σ' : Type} {network' : Network σ'} {state' : σ'} {entropy' : UInt64}
  {answer : Url → List Char → Answer}

theorem faithful_saidOf (hFixed : Fixed network answer)
    (c : Course network state (hooks entropy) resolved) (index : Nat) :
    ∀ e ∈ c.saidOf index, Faithful answer e := by
  intro e hMem
  obtain ⟨deed, hDeed, rfl⟩ := List.mem_map.1 hMem
  have hFiltered := (List.mem_filter.1 hDeed).1
  exact faithful_of_reaches hFixed c.reaches deed (List.mem_filter.1 hFiltered).1

/-- The outcomes of an agent do not depend on the run, nor does what it says. -/
theorem Outcomes.unique (hFixed : Fixed network answer) (hFixed' : Fixed network' answer)
    {c : Course network state (hooks entropy) resolved}
    {c' : Course network' state' (hooks entropy') resolved} {index : Nat}
    {outcomes outcomes' : List IterationOutcome} (h : Outcomes c seed index outcomes)
    (h' : Outcomes c' seed index outcomes') (hLength : outcomes.length = outcomes'.length) :
    outcomes = outcomes' ∧ Alike (c.saidOf index) (c'.saidOf index) := by
  obtain ⟨client, source, hConnect, served⟩ := h
  obtain ⟨client', source', hConnect', served'⟩ := h'
  rw [hConnect] at hConnect'
  cases hConnect'
  obtain ⟨hOutcomes, _, hAlike⟩ := served.unique served' hLength
    (faithful_saidOf hFixed c index) (faithful_saidOf hFixed' c' index)
  exact ⟨hOutcomes, hAlike⟩

/-- What counts of an agent is what it says in its behaviour. -/
theorem alike_saidOf (c : Course network state (hooks entropy) resolved) {index : Nat}
    (hIndex : index < resolved.config.concurrency) :
    Alike (Deed.talkOf index c.deeds) (c.saidOf index) := by
  obtain ⟨a, found⟩ := agent_of_lt c hIndex
  have hKeeps := c.keepsQuiet_last (isQuiet_hooks entropy) found
  exact ⟨hKeeps.requests_said.symm, hKeeps.tally_said.symm⟩

theorem talkOf_eq_nil (c : Course network state (hooks entropy) resolved) {index : Nat}
    (hIndex : resolved.config.concurrency ≤ index) : Deed.talkOf index c.deeds = [] := by
  have hNone : c.deeds.filter (·.agent = index) = [] := by
    rw [List.filter_eq_nil_iff]
    intro deed hMem hAgent
    have hLess := c.agent_lt deed hMem
    rw [of_decide_eq_true hAgent, c.size_agents] at hLess
    exact absurd hLess (Nat.not_lt_of_le hIndex)
  rw [Deed.talkOf, hNone]
  rfl

/-- Every agent says the same in both runs. -/
theorem alike_talkOf (hFixed : Fixed network answer) (hFixed' : Fixed network' answer)
    (hSeed : resolved.config.seed = some seed)
    (hQuota : resolved.config.stopCondition = .iterations quota)
    {c : Course network state (hooks entropy) resolved}
    {c' : Course network' state' (hooks entropy') resolved}
    (hUndisturbed : c.Undisturbed) (hUndisturbed' : c'.Undisturbed)
    (hEnded : c.last.hasEnded = true) (hEnded' : c'.last.hasEnded = true) (index : Nat) :
    Alike (Deed.talkOf index c.deeds) (Deed.talkOf index c'.deeds) := by
  by_cases hIndex : index < resolved.config.concurrency
  · obtain ⟨outcomes, hLength, h⟩ := outcomes_of_hasEnded c hSeed hQuota hUndisturbed hEnded hIndex
    obtain ⟨outcomes', hLength', h'⟩ :=
      outcomes_of_hasEnded c' hSeed hQuota hUndisturbed' hEnded' hIndex
    have hSaid := (h.unique hFixed hFixed' h' (hLength.trans hLength'.symm)).2
    exact ((alike_saidOf c hIndex).trans hSaid).trans (alike_saidOf c' hIndex).symm
  · have hBeyond := Nat.le_of_not_lt hIndex
    rw [talkOf_eq_nil c hBeyond, talkOf_eq_nil c' hBeyond]
    exact .refl _

theorem tally_eq {c : Course network state (hooks entropy) resolved}
    {c' : Course network' state' (hooks entropy') resolved}
    (h : ∀ index, Alike (Deed.talkOf index c.deeds) (Deed.talkOf index c'.deeds)) :
    c.tally = c'.tally := by
  have hSize : c.last.agents.size = c'.last.agents.size := c.size_agents.trans c'.size_agents.symm
  funext step kind
  calc
    _ = ∑ index ∈ Finset.range c.last.agents.size,
        Exchange.tally (Deed.talkOf index c.deeds) step kind :=
      Deed.tally_talk c.agent_lt _ _
    _ = ∑ index ∈ Finset.range c'.last.agents.size,
        Exchange.tally (Deed.talkOf index c'.deeds) step kind := by
      rw [hSize]
      apply Finset.sum_congr rfl
      intro index _
      rw [(h index).tally]
    _ = _ := (Deed.tally_talk c'.agent_lt _ _).symm

/-- Without a teardown the summary tells the counters as the agents have left them. -/
theorem summary_of_hooks {occasion : Run.Occasion} {shared : Shop} {s : State σ Guest}
    {account : Run.Account Shop Guest} {summary : RunSummary}
    (h : Run.finish network occasion (hooks entropy) resolved shared s = some account)
    (hSummary : account.conclusion = .finished summary) :
    summary.outcome = s.world.counters.snapshot ∧ summary.agentEndCount = s.endCount.toUInt64 := by
  obtain ⟨_, result, after, hCalled, hOutcome, hEndCount⟩ := Run.summary_of_finish h hSummary
  obtain ⟨_, hAfter⟩ := Prod.mk.inj (Option.some.inj hCalled)
  rw [← hAfter] at hOutcome
  exact ⟨hOutcome, hEndCount⟩

/-- Any two complete runs of the guest checkout with the same seed and quota, against targets that
give the same fixed answers, do the same, however their agents take turns: every agent sends the
same requests in the same order and sees the same outcomes, and the counters, latencies aside, and
the number of agents at the end are the same. -/
theorem seeded_replay (hFixed : Fixed network answer) (hFixed' : Fixed network' answer)
    (hSeed : resolved.config.seed = some seed)
    (hQuota : resolved.config.stopCondition = .iterations quota)
    (c : Course network state (hooks entropy) resolved)
    (c' : Course network' state' (hooks entropy') resolved)
    (hUndisturbed : c.Undisturbed) (hUndisturbed' : c'.Undisturbed)
    (hEnded : c.last.hasEnded = true) (hEnded' : c'.last.hasEnded = true) :
    (∀ index, c.last.world.requestsOf index = c'.last.world.requestsOf index) ∧
    c.last.world.requests.Perm c'.last.world.requests ∧
    (∀ index < resolved.config.concurrency, ∃ outcomes, outcomes.length = quota ∧
      Outcomes c seed index outcomes ∧ Outcomes c' seed index outcomes ∧
      ∀ other, other.length = quota →
        Outcomes c seed index other ∨ Outcomes c' seed index other → other = outcomes) ∧
    c.last.world.counters.snapshot.withoutLatencies =
      c'.last.world.counters.snapshot.withoutLatencies ∧
    c.last.endCount = c'.last.endCount ∧
    ∀ occasion occasion' account account' summary summary',
      Run.finish network occasion (hooks entropy) resolved c.shared c.last = some account →
      Run.finish network' occasion' (hooks entropy') resolved c'.shared c'.last = some account' →
      account.conclusion = .finished summary → account'.conclusion = .finished summary' →
      summary.outcome.withoutLatencies = summary'.outcome.withoutLatencies ∧
      summary.agentEndCount = summary'.agentEndCount := by
  have hAlike := alike_talkOf hFixed hFixed' hSeed hQuota hUndisturbed hUndisturbed' hEnded hEnded'
  obtain ⟨_, _, _, hPosts, hSteps⟩ := client_of_setup rfl c
  obtain ⟨_, _, _, hPosts', hSteps'⟩ := client_of_setup rfl c'
  have hRequests : ∀ index,
      c.last.world.requestsOf index = c'.last.world.requestsOf index := by
    intro index
    rw [c.reaches.requestsOf hPosts, c'.reaches.requestsOf hPosts']
    exact (hAlike index).requests
  have hTells : c.last.world.counters.Tells c.tally := c.reaches.tells hSteps
  have hTells' : c'.last.world.counters.Tells c.tally := by
    rw [tally_eq hAlike]
    exact c'.reaches.tells hSteps'
  have hIterations : c.last.world.counters.iterations = c'.last.world.counters.iterations := by
    rw [c.iterations_last, c'.iterations_last,
      Course.iterations_of_hasEnded hQuota (assigned_hooks c) hUndisturbed hEnded,
      Course.iterations_of_hasEnded hQuota (assigned_hooks c') hUndisturbed' hEnded']
  have hSnapshot := hTells.snapshot_eq hTells' hIterations
  have hEndCount : c.last.endCount = c'.last.endCount := by
    rw [Course.endCount_of_hasEnded hQuota (assigned_hooks c) hUndisturbed hEnded
        (Course.hasCrash_last (assigned_hooks c) (fun _ ↦ rfl) rfl),
      Course.endCount_of_hasEnded hQuota (assigned_hooks c') hUndisturbed' hEnded'
        (Course.hasCrash_last (assigned_hooks c') (fun _ ↦ rfl) rfl)]
  refine ⟨hRequests, ?_, fun index hIndex ↦ ?_, hSnapshot, hEndCount, ?_⟩
  · exact World.requests_perm (c.reaches.isSome_of_mem_posts hPosts)
      (c'.reaches.isSome_of_mem_posts hPosts') hRequests
  · obtain ⟨outcomes, hLength, h⟩ :=
      outcomes_of_hasEnded c hSeed hQuota hUndisturbed hEnded hIndex
    obtain ⟨outcomes', hLength', h'⟩ :=
      outcomes_of_hasEnded c' hSeed hQuota hUndisturbed' hEnded' hIndex
    have hSame := (h.unique hFixed hFixed' h' (hLength.trans hLength'.symm)).1
    subst hSame
    refine ⟨outcomes, hLength, h, h', fun other hOther hOutcomes ↦ ?_⟩
    have hLengths := hOther.trans hLength.symm
    rcases hOutcomes with hHere | hThere
    · exact (hHere.unique hFixed hFixed h hLengths).1
    · exact (hThere.unique hFixed' hFixed' h' hLengths).1
  · intro occasion occasion' account account' summary summary' hFinish hFinish' hSummary hSummary'
    obtain ⟨hOutcome, hCount⟩ := summary_of_hooks hFinish hSummary
    obtain ⟨hOutcome', hCount'⟩ := summary_of_hooks hFinish' hSummary'
    rw [hOutcome, hOutcome', hCount, hCount', hEndCount]
    exact ⟨hSnapshot, rfl⟩

end Courses

/-! ## Two guests, twice -/

/-- Answers as it is fixed, and at once. -/
def answering (answer : Url → List Char → Answer) : Network Unit where
  deliver target request _ := (⟨answer target request.text, .zero⟩, ())

theorem fixed_answering (answer : Url → List Char → Answer) : Fixed (answering answer) answer :=
  fun _ _ _ ↦ rfl

namespace TwoGuests

/-- One body that serves as a catalog and as the response to a checkout. -/
def anyBody : String :=
  "\x7b\"data\":\x7b\"products\":\x7b\"edges\":[\x7b\"node\":\x7b\"id\":\"p\"," ++
    "\"variants\":[\x7b\"id\":\"v\"\x7d]\x7d\x7d]\x7d," ++
    "\"checkoutCreate\":\x7b\"checkout\":\x7b\"id\":\"c\"\x7d\x7d\x7d\x7d"

def answer (_ : Url) (_ : List Char) : Answer := .ok anyBody

def inOrder : List Move := List.replicate 13 (.agent 0) ++ List.replicate 13 (.agent 1)

def oneAfterTheOther : Course (answering answer) () (GuestCheckout.hooks 3) resolved :=
  .ofMoves (by decide +kernel) inOrder (by decide +kernel)

def inTurn : List Move := (List.replicate 13 [.agent 0, .agent 1]).flatten

def alternating : Course (answering answer) () (GuestCheckout.hooks 4) resolved :=
  .ofMoves (by decide +kernel) inTurn (by decide +kernel)

theorem over_oneAfterTheOther :
    oneAfterTheOther.last.hasEnded = true ∧ oneAfterTheOther.last.world.stopRequested = false := by
  rw [State.hasEnded, ← Array.all_toList]
  decide +kernel

theorem over_alternating :
    alternating.last.hasEnded = true ∧ alternating.last.world.stopRequested = false := by
  rw [State.hasEnded, ← Array.all_toList]
  decide +kernel

end TwoGuests

theorem seeded_replay_twoGuests :
    TwoGuests.oneAfterTheOther.last.world.requestsOf 1 =
        TwoGuests.alternating.last.world.requestsOf 1 ∧
      TwoGuests.oneAfterTheOther.last.world.requests.Perm
        TwoGuests.alternating.last.world.requests ∧
      TwoGuests.oneAfterTheOther.last.endCount = TwoGuests.alternating.last.endCount := by
  obtain ⟨hEnded, hFree⟩ := TwoGuests.over_oneAfterTheOther
  obtain ⟨hEnded', hFree'⟩ := TwoGuests.over_alternating
  have h := seeded_replay (fixed_answering TwoGuests.answer) (fixed_answering TwoGuests.answer) rfl
    rfl TwoGuests.oneAfterTheOther TwoGuests.alternating (Course.undisturbed_of_last hFree)
    (Course.undisturbed_of_last hFree') hEnded hEnded'
  exact ⟨h.1 1, h.2.1, h.2.2.2.2.1⟩

end StorefrontLoad.GuestCheckout
