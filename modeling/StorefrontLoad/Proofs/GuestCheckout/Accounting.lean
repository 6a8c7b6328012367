import StorefrontLoad.Proofs.GuestCheckout.Iteration

/-!
# The accounts of a guest checkout run

Every iteration tries the catalog once and tries a checkout exactly if the catalog step succeeded,
with one request for each. Summed over the agents this ties the two steps to the iterations, in
every state of every run and whatever the answers were.
-/

namespace StorefrontLoad.GuestCheckout

open Run (Program Exchange Deed Ending AgentContext Hooks World Agent Course Move State)
open Storefront

/-! ## One conversation -/

section Conversation

/-- How often a conversation tries the catalog. -/
def catalogAttempts (talk : List Exchange) : Nat :=
  (Exchange.tally talk Client.catalogStep).attempts

def catalogSuccesses (talk : List Exchange) : Nat :=
  Exchange.tally talk Client.catalogStep .succeeded

/-- How often a conversation tries a checkout. -/
def checkoutAttempts (talk : List Exchange) : Nat :=
  (Exchange.tally talk Client.checkoutStep).attempts

/-- The accounts of so many whole iterations. -/
structure Balanced (count : Nat) (talk : List Exchange) : Prop where
  catalog : catalogAttempts talk = count
  checkout : checkoutAttempts talk = catalogSuccesses talk
  requests : (Exchange.requests talk).length = catalogAttempts talk + checkoutAttempts talk

/-- The accounts of an iteration that is cut off. -/
structure Underway (talk : List Exchange) : Prop where
  catalog : catalogAttempts talk ≤ 1
  checkout : checkoutAttempts talk ≤ catalogSuccesses talk

theorem kind_ne_succeeded (failure : StepFailure) : failure.kind ≠ .succeeded := by
  cases failure <;> simp [StepFailure.kind]

variable {client : Client} {channel email variantId : String} {thinkTime : Duration}
  {source after : Random.Source} {talk first second : List Exchange} {outcome : IterationOutcome}
  {target : Url} {request : Request} {name : String} {kind : OutcomeKind} {delivery : Delivery}

@[simp] theorem catalogAttempts_append :
    catalogAttempts (first ++ second) = catalogAttempts first + catalogAttempts second :=
  Exchange.attempts_append ..

@[simp] theorem catalogSuccesses_append :
    catalogSuccesses (first ++ second) = catalogSuccesses first + catalogSuccesses second :=
  Exchange.tally_append ..

@[simp] theorem checkoutAttempts_append :
    checkoutAttempts (first ++ second) = checkoutAttempts first + checkoutAttempts second :=
  Exchange.attempts_append ..

@[simp] theorem catalogAttempts_stepTalk :
    catalogAttempts (stepTalk target request name kind delivery) =
      if name = Client.catalogStep then 1 else 0 :=
  attempts_stepTalk _

@[simp] theorem catalogSuccesses_stepTalk :
    catalogSuccesses (stepTalk target request name kind delivery) =
      if name = Client.catalogStep ∧ kind = .succeeded then 1 else 0 :=
  tally_stepTalk _ _

@[simp] theorem checkoutAttempts_stepTalk :
    checkoutAttempts (stepTalk target request name kind delivery) =
      if name = Client.checkoutStep then 1 else 0 :=
  attempts_stepTalk _

/-! ## Whole iterations -/

theorem Balanced.nil : Balanced 0 [] := ⟨rfl, rfl, rfl⟩

theorem Balanced.append {count more : Nat} (h : Balanced count first) (h' : Balanced more second) :
    Balanced (count + more) (first ++ second) where
  catalog := by rw [catalogAttempts_append, h.catalog, h'.catalog]
  checkout := by
    rw [checkoutAttempts_append, catalogSuccesses_append, h.checkout, h'.checkout]
  requests := by
    rw [Exchange.requests_append, List.length_append, h.requests, h'.requests,
      catalogAttempts_append, checkoutAttempts_append]
    omega

theorem balanced_of_isSilent (h : ∀ e ∈ talk, e.action.isSilent) : Balanced 0 talk := by
  have hTally := Exchange.tally_of_isSilent h
  have hRequests := Exchange.requests_of_isSilent h
  refine ⟨?_, ?_, ?_⟩ <;>
    simp [catalogAttempts, checkoutAttempts, catalogSuccesses, hTally, hRequests,
      StepTally.attempts]

/-- A catalog step that chose nothing is all there is to try. -/
theorem balanced_catalog_failure (failure : StepFailure) :
    Balanced 1 (stepTalk target request Client.catalogStep failure.kind delivery) := by
  refine ⟨?_, ?_, ?_⟩ <;> simp [requests_stepTalk, steps_ne, kind_ne_succeeded]

/-- A variant that was chosen is tried once. -/
theorem balanced_checkout (request' : Request) (delivery' : Delivery) :
    Balanced 1 (stepTalk target request Client.catalogStep .succeeded delivery ++
      stepTalk target request' Client.checkoutStep kind delivery') := by
  refine ⟨?_, ?_, ?_⟩ <;>
    simp [Exchange.requests_append, requests_stepTalk, steps_ne, steps_ne.symm]

theorem Pass.balanced (h : Pass client channel email source talk outcome after) :
    Balanced 1 talk := by
  cases h with
  | unavailable _ silent =>
    exact (balanced_catalog_failure _).append (balanced_of_isSilent silent)
  | tried _ silent =>
    rw [← List.append_assoc]
    exact (balanced_checkout _ _).append (balanced_of_isSilent silent)

/-! ## Iterations that are cut off -/

/-- What may still be said after the catalog step: at most so many attempts of a checkout. -/
structure Follows (most : Nat) (talk : List Exchange) : Prop where
  catalog : catalogAttempts talk = 0
  checkout : checkoutAttempts talk ≤ most

theorem follows_of_isSilent (most : Nat) (h : ∀ e ∈ talk, e.action.isSilent) :
    Follows most talk where
  catalog := (balanced_of_isSilent h).catalog
  checkout := by
    have hNone : Exchange.tally talk = fun _ _ ↦ 0 := Exchange.tally_of_isSilent h
    have hAttempts : checkoutAttempts talk = 0 := by
      rw [checkoutAttempts, hNone]
      rfl
    rw [hAttempts]
    exact Nat.zero_le most

theorem Follows.append {most more : Nat} (h : Follows most first) (h' : Follows more second) :
    Follows (most + more) (first ++ second) where
  catalog := by rw [catalogAttempts_append, h.catalog, h'.catalog]
  checkout := by
    rw [checkoutAttempts_append]
    exact Nat.add_le_add h.checkout h'.checkout

/-- A checkout step that is cut off has made at most one attempt. -/
theorem follows_of_prefix (h : talk <+: stepTalk target request Client.checkoutStep kind delivery) :
    Follows 1 talk where
  catalog := by
    have hMost := attempts_le_of_prefix h Client.catalogStep
    rw [if_neg steps_ne.symm] at hMost
    exact Nat.le_zero.1 hMost
  checkout := by
    have hMost := attempts_le_of_prefix h Client.checkoutStep
    rwa [if_pos rfl] at hMost

theorem follows_checkOut {rest : Program IterationOutcome}
    (h : (checkOut client channel variantId email).Yields talk rest) : Follows 1 talk := by
  unfold checkOut at h
  rw [Client.createCheckout_eq] at h
  rcases Program.yields_bind h with ⟨now, hStep⟩ | ⟨first, second, result, rfl, hStep, hLog⟩
  · obtain ⟨delivery, hPrefix⟩ := yields_stepProgram hStep
    exact follows_of_prefix hPrefix
  · obtain ⟨delivery, _, rfl⟩ := yields_stepProgram_done hStep
    have hStepTalk := follows_of_prefix (List.prefix_refl (stepTalk client.target
      (.checkout channel variantId email) Client.checkoutStep (kindOf result) delivery))
    have hSilent : ∀ e ∈ second, e.action.isSilent := by
      cases result with
      | ok id => exact isSilent_log _ _ _ _ hLog
      | error failure => exact isSilent_log _ _ _ _ hLog
    exact hStepTalk.append (follows_of_isSilent 0 hSilent)

/-- Only a variant that was chosen can lead to a checkout. -/
theorem follows_afterCatalog {result : Except StepFailure Selection}
    {rest : Program IterationOutcome}
    (h : (afterCatalog client channel email result).Yields talk rest) :
    Follows (if kindOf result = .succeeded then 1 else 0) talk := by
  cases result with
  | ok selection => exact follows_checkOut h
  | error failure => exact follows_of_isSilent _ (isSilent_log _ _ _ _ h)

/-- A catalog step that is cut off has not led to a checkout. -/
theorem underway_of_prefix (h : talk <+: stepTalk target request Client.catalogStep kind delivery) :
    Underway talk where
  catalog := by
    have hMost := attempts_le_of_prefix h Client.catalogStep
    rwa [if_pos rfl] at hMost
  checkout := by
    have hMost := attempts_le_of_prefix h Client.checkoutStep
    rw [if_neg steps_ne] at hMost
    exact Nat.le_trans hMost (Nat.zero_le _)

theorem underway_of_follows
    (h : Follows (if kind = .succeeded then 1 else 0) talk) :
    Underway (stepTalk target request Client.catalogStep kind delivery ++ talk) where
  catalog := by
    rw [catalogAttempts_append, h.catalog, catalogAttempts_stepTalk, if_pos rfl]
  checkout := by
    have hMost := h.checkout
    simp only [checkoutAttempts_append, checkoutAttempts_stepTalk, if_neg steps_ne,
      catalogSuccesses_append, catalogSuccesses_stepTalk, true_and]
    omega

theorem underway_of_yields {rest : Program (IterationOutcome × Random.Source)}
    (h : (checkoutIteration client channel email thinkTime source).Yields talk rest) :
    Underway talk := by
  unfold checkoutIteration at h
  rw [Client.fetchCatalog_eq] at h
  rcases Program.yields_bind h with ⟨now, hStep⟩ | ⟨first, second, result, rfl, hStep, hRest⟩
  · obtain ⟨delivery, hPrefix⟩ := yields_stepProgram hStep
    exact underway_of_prefix hPrefix
  · obtain ⟨delivery, _, rfl⟩ := yields_stepProgram_done hStep
    apply underway_of_follows
    rcases Program.yields_bind hRest with ⟨now, hAfter⟩ | ⟨third, fourth, _, rfl, hAfter, hPause⟩
    · exact follows_afterCatalog hAfter
    · have hSilent := isSilent_pause _ _ _ _ hPause
      exact (follows_afterCatalog hAfter).append (follows_of_isSilent 0 hSilent)

theorem underway_of_behaviour {context : AgentContext Shop} {guest : Guest}
    {rest : Program (Guest × Ending)} (hClient : context.shared.client = some client)
    (h : (behaviour context guest).Yields talk rest) : Underway talk := by
  rw [behaviour_eq hClient] at h
  rcases Program.yields_bind h with ⟨now, hNow⟩ | ⟨first, second, result, rfl, hFirst, hDone⟩
  · exact underway_of_yields hNow
  · obtain ⟨rfl, _⟩ := Program.yields_done_iff.1 hDone
    rw [List.append_nil]
    exact underway_of_yields hFirst

end Conversation

/-! ## One agent -/

section OneAgent

variable {plan : Run.Plan Shop Guest} {client : Client} {index : Nat} {own : Guest}
  {talk : List Exchange}

theorem balanced_of_life {count : Nat} {value : Guest}
    (hBehaviour : plan.hooks.behaviour = some behaviour)
    (hClient : plan.shared.client = some client)
    (h : Agent.Life plan index own count value talk) : Balanced count talk := by
  induction h with
  | unprepared => exact .nil
  | prepared => exact .nil
  | iterated life hSome went ih =>
    rw [hBehaviour] at hSome
    cases hSome
    obtain ⟨outcome, source, _, _, hPass⟩ := pass_of_behaviour hClient went
    exact ih.append hPass.balanced

/-- The accounts of an agent, wherever it is. -/
structure Accounts (a : Agent Guest) (talk : List Exchange) : Prop where
  catalog : catalogAttempts talk ≤ a.begun
  checkout : checkoutAttempts talk ≤ catalogSuccesses talk
  ended : a.hasEnded = true → Balanced a.iteration talk

theorem Accounts.congr {a : Agent Guest} {other : List Exchange} (h : Accounts a talk)
    (hTally : Exchange.tally talk = Exchange.tally other)
    (hRequests : Exchange.requests talk = Exchange.requests other) : Accounts a other := by
  have hCatalog : catalogAttempts talk = catalogAttempts other :=
    congrArg (fun tally : Tally ↦ (tally Client.catalogStep).attempts) hTally
  have hSuccesses : catalogSuccesses talk = catalogSuccesses other :=
    congrArg (fun tally : Tally ↦ tally Client.catalogStep .succeeded) hTally
  have hCheckout : checkoutAttempts talk = checkoutAttempts other :=
    congrArg (fun tally : Tally ↦ (tally Client.checkoutStep).attempts) hTally
  refine ⟨hCatalog ▸ h.catalog, hCheckout ▸ hSuccesses ▸ h.checkout, fun hEnd ↦ ?_⟩
  obtain ⟨catalog, checkout, requests⟩ := h.ended hEnd
  exact ⟨hCatalog ▸ catalog, hCheckout ▸ hSuccesses ▸ checkout,
    hRequests ▸ hCatalog ▸ hCheckout ▸ requests⟩

theorem Accounts.of_balanced {a : Agent Guest} {count : Nat} (h : Balanced count talk)
    (hBegun : count ≤ a.begun) (hEnded : a.hasEnded = true → count = a.iteration) :
    Accounts a talk where
  catalog := h.catalog ▸ hBegun
  checkout := Nat.le_of_eq h.checkout
  ended hEnd := hEnded hEnd ▸ h

theorem accounts_of_lives {a : Agent Guest} (hBehaviour : plan.hooks.behaviour = some behaviour)
    (hClient : plan.shared.client = some client) (h : a.Lives plan index own talk) :
    Accounts a talk := by
  have hNothing : Balanced 0 ([] : List Exchange) := .nil
  have hCounted : a.iteration ≤ a.begun := Nat.le_add_right _ _
  unfold Agent.Lives at h
  split at h
  · rw [h.1]
    exact .of_balanced hNothing (Nat.zero_le _) fun _ ↦ h.2.1.symm
  · rw [h.1]
    exact .of_balanced hNothing (Nat.zero_le _) fun _ ↦ h.2.1.symm
  · exact .of_balanced (balanced_of_life hBehaviour hClient h) hCounted fun _ ↦ rfl
  · exact .of_balanced (balanced_of_life hBehaviour hClient h) hCounted fun _ ↦ rfl
  · next hPhase =>
    obtain ⟨before, new, hook, rfl, life, hSome, went⟩ := h
    rw [hBehaviour] at hSome
    cases hSome
    have hBefore := balanced_of_life hBehaviour hClient life
    have hNew : Underway new := underway_of_behaviour hClient went
    have hBegun : a.begun = a.iteration + 1 := by simp [Agent.begun, Agent.isInFlight, hPhase]
    refine ⟨?_, ?_, fun hEnd ↦ ?_⟩
    · rw [catalogAttempts_append, hBefore.catalog, hBegun]
      exact Nat.add_le_add_left hNew.catalog _
    · rw [checkoutAttempts_append, catalogSuccesses_append, hBefore.checkout]
      exact Nat.add_le_add_left hNew.checkout _
    · simp [Agent.hasEnded, hPhase] at hEnd
  · next hPhase =>
    refine .of_balanced (balanced_of_life hBehaviour hClient h) ?_ fun hEnd ↦ ?_
    · simp [Agent.begun, Agent.isInFlight, hPhase]
    · simp [Agent.hasEnded, hPhase] at hEnd
  all_goals
    rcases h with ⟨hIteration, rfl⟩ | ⟨value, life⟩
    · exact .of_balanced hNothing (Nat.zero_le _) fun _ ↦ hIteration.symm
    · exact .of_balanced (balanced_of_life hBehaviour hClient life) hCounted fun _ ↦ rfl

end OneAgent

/-! ## All agents -/

section AllAgents

variable {σ : Type} {network : Network σ} {state : σ} {hooks : Hooks Shop Guest}
  {resolved : ResolvedScenario}

/-- The setup has left the client to all agents and has neither sent nor counted anything. -/
theorem client_of_setup (hSetup : hooks.setup = some configureClient)
    (c : Course network state hooks resolved) :
    ∃ client, Client.connect resolved.config.targetUrl = .ok client ∧
      c.plan.shared.client = some client ∧ c.world.posts = [] ∧
      c.world.counters.steps = [] := by
  have hOpened := c.opened
  rw [hSetup] at hOpened
  obtain ⟨client, hConnect, hShared, hMurmurs⟩ := configured hOpened
  have hLogged := World.murmurs_logAll (Run.opening hooks resolved) (World.fresh state)
  have hWorld := hLogged.trans hMurmurs
  refine ⟨client, hConnect, congrArg Shop.client hShared, hWorld.posts, ?_⟩
  rw [hWorld.counters]
  rfl

theorem accounts_last (hSetup : hooks.setup = some configureClient)
    (hBehaviour : hooks.agent.behaviour = some behaviour) (hQuiet : hooks.agent.IsQuiet)
    (c : Course network state hooks resolved) {index : Nat} {a : Agent Guest}
    (found : c.last.agents[index]? = some a) : Accounts a (Deed.talkOf index c.deeds) := by
  obtain ⟨client, _, hClient, _⟩ := client_of_setup hSetup c
  have hAccounts : Accounts a (c.saidOf index) :=
    accounts_of_lives hBehaviour hClient (c.lives_last found)
  have hKeeps := c.keepsQuiet_last hQuiet found
  exact hAccounts.congr hKeeps.tally_said hKeeps.requests_said

theorem accounts_of_mem (hSetup : hooks.setup = some configureClient)
    (hBehaviour : hooks.agent.behaviour = some behaviour) (hQuiet : hooks.agent.IsQuiet)
    (c : Course network state hooks resolved) {index : Nat}
    (hIndex : index ∈ Finset.range c.last.agents.size) :
    ∃ a, c.last.agents[index]? = some a ∧ Accounts a (Deed.talkOf index c.deeds) := by
  have found := Array.getElem?_eq_getElem (Finset.mem_range.1 hIndex)
  exact ⟨_, found, accounts_last hSetup hBehaviour hQuiet c found⟩

/-- Nobody tries a checkout without having chosen a variant before. -/
theorem checkout_le (hSetup : hooks.setup = some configureClient)
    (hBehaviour : hooks.agent.behaviour = some behaviour) (hQuiet : hooks.agent.IsQuiet)
    (c : Course network state hooks resolved) :
    (c.tally Client.checkoutStep).attempts ≤ c.tally Client.catalogStep .succeeded := by
  calc
    _ = ∑ index ∈ Finset.range c.last.agents.size,
        checkoutAttempts (Deed.talkOf index c.deeds) :=
      Deed.attempts_talk c.agent_lt _
    _ ≤ ∑ index ∈ Finset.range c.last.agents.size,
        catalogSuccesses (Deed.talkOf index c.deeds) := by
      apply Finset.sum_le_sum
      intro index hIndex
      obtain ⟨a, _, hAccounts⟩ := accounts_of_mem hSetup hBehaviour hQuiet c hIndex
      exact hAccounts.checkout
    _ = _ := (Deed.tally_talk c.agent_lt _ _).symm

/-- Nobody tries the catalog outside of an iteration. -/
theorem catalog_le (hSetup : hooks.setup = some configureClient)
    (hBehaviour : hooks.agent.behaviour = some behaviour) (hQuiet : hooks.agent.IsQuiet)
    (c : Course network state hooks resolved) :
    (c.tally Client.catalogStep).attempts ≤ c.last.iterations + c.last.inFlight := by
  calc
    _ = ∑ index ∈ Finset.range c.last.agents.size,
        catalogAttempts (Deed.talkOf index c.deeds) :=
      Deed.attempts_talk c.agent_lt _
    _ ≤ ∑ index ∈ Finset.range c.last.agents.size,
        (c.last.agents[index]?).elim 0 Agent.begun := by
      apply Finset.sum_le_sum
      intro index hIndex
      obtain ⟨a, found, hAccounts⟩ := accounts_of_mem hSetup hBehaviour hQuiet c hIndex
      rw [found]
      exact hAccounts.catalog
    _ = c.last.total Agent.begun := (State.total_eq_sum ..).symm
    _ = _ := State.total_begun c.last

/-- At the end the accounts are settled. -/
theorem settled (hSetup : hooks.setup = some configureClient)
    (hBehaviour : hooks.agent.behaviour = some behaviour) (hQuiet : hooks.agent.IsQuiet)
    (c : Course network state hooks resolved) (hEnded : c.last.hasEnded = true) :
    (c.tally Client.catalogStep).attempts = c.last.iterations ∧
      (c.tally Client.checkoutStep).attempts = c.tally Client.catalogStep .succeeded ∧
      c.last.world.requests.length =
        (c.tally Client.catalogStep).attempts + (c.tally Client.checkoutStep).attempts := by
  have hBalanced : ∀ index ∈ Finset.range c.last.agents.size, ∃ a,
      c.last.agents[index]? = some a ∧ Balanced a.iteration (Deed.talkOf index c.deeds) := by
    intro index hIndex
    obtain ⟨a, found, hAccounts⟩ := accounts_of_mem hSetup hBehaviour hQuiet c hIndex
    exact ⟨a, found, hAccounts.ended (State.agent_hasEnded hEnded found)⟩
  obtain ⟨_, _, _, hPosts, _⟩ := client_of_setup hSetup c
  have hCatalog := Deed.attempts_talk c.agent_lt Client.catalogStep
  have hCheckout := Deed.attempts_talk c.agent_lt Client.checkoutStep
  refine ⟨?_, ?_, ?_⟩
  · calc
      _ = ∑ index ∈ Finset.range c.last.agents.size,
          catalogAttempts (Deed.talkOf index c.deeds) := hCatalog
      _ = ∑ index ∈ Finset.range c.last.agents.size,
          (c.last.agents[index]?).elim 0 Agent.iteration := by
        apply Finset.sum_congr rfl
        intro index hIndex
        obtain ⟨a, found, h⟩ := hBalanced index hIndex
        rw [found]
        exact h.catalog
      _ = c.last.iterations := (State.total_eq_sum ..).symm
  · calc
      _ = ∑ index ∈ Finset.range c.last.agents.size,
          checkoutAttempts (Deed.talkOf index c.deeds) := hCheckout
      _ = ∑ index ∈ Finset.range c.last.agents.size,
          catalogSuccesses (Deed.talkOf index c.deeds) := by
        apply Finset.sum_congr rfl
        intro index hIndex
        obtain ⟨a, _, h⟩ := hBalanced index hIndex
        exact h.checkout
      _ = _ := (Deed.tally_talk c.agent_lt _ _).symm
  · calc
      _ = (Exchange.requests (Deed.talk c.deeds)).length :=
        congrArg List.length (c.reaches.requests hPosts)
      _ = ∑ index ∈ Finset.range c.last.agents.size,
          (Exchange.requests (Deed.talkOf index c.deeds)).length :=
        Deed.length_requests_talk c.agent_lt
      _ = ∑ index ∈ Finset.range c.last.agents.size,
          (catalogAttempts (Deed.talkOf index c.deeds) +
            checkoutAttempts (Deed.talkOf index c.deeds)) := by
        apply Finset.sum_congr rfl
        intro index hIndex
        obtain ⟨a, _, h⟩ := hBalanced index hIndex
        exact h.requests
      _ = _ := by
        rw [Finset.sum_add_distrib]
        exact congrArg₂ (· + ·) hCatalog.symm hCheckout.symm

/-- The accounts of a guest checkout run, in every state of it. The counters hold what the agents
have recorded; a checkout is tried only after a success of the catalog step, and the catalog only in
an iteration; at the end all of these are settled, and every attempt was one request. Setup and
teardown of the agents may be anything that neither sends nor counts. Words are numbers up to
multiples of 2^64, so they compare like numbers while fewer iterations were begun. -/
theorem accounting (hSetup : hooks.setup = some configureClient)
    (hBehaviour : hooks.agent.behaviour = some behaviour) (hQuiet : hooks.agent.IsQuiet)
    (c : Course network state hooks resolved) :
    let counters := c.last.world.counters
    let catalog := counters.stepOrFresh Client.catalogStep
    let checkout := counters.stepOrFresh Client.checkoutStep
    let requests := c.last.world.requests.length
    (counters.Tells c.tally ∧ counters.iterations = c.last.iterations.toUInt64) ∧
    (∀ name, (counters.stepOrFresh name).attempted =
      (counters.stepOrFresh name).succeeded + (counters.stepOrFresh name).failedTransport +
        (counters.stepOrFresh name).failedParse + (counters.stepOrFresh name).failedBusiness +
        (counters.stepOrFresh name).noUsableData) ∧
    ((c.tally Client.checkoutStep).attempts ≤ c.tally Client.catalogStep .succeeded ∧
      (c.tally Client.catalogStep).attempts ≤ c.last.iterations + c.last.inFlight) ∧
    (c.last.world.calls.length < 2 ^ 64 → checkout.attempted ≤ catalog.succeeded ∧
      catalog.attempted.toNat ≤ counters.iterations.toNat + c.last.inFlight) ∧
    (c.last.hasEnded = true →
      ((c.tally Client.catalogStep).attempts = c.last.iterations ∧
        (c.tally Client.checkoutStep).attempts = c.tally Client.catalogStep .succeeded ∧
        requests = (c.tally Client.catalogStep).attempts +
          (c.tally Client.checkoutStep).attempts) ∧
      catalog.attempted = counters.iterations ∧ checkout.attempted = catalog.succeeded ∧
      requests.toUInt64 = catalog.attempted + checkout.attempted) := by
  intro counters catalog checkout requests
  obtain ⟨_, _, _, _, hSteps⟩ := client_of_setup hSetup c
  have hTells : counters.Tells c.tally := c.reaches.tells hSteps
  have hIterations : counters.iterations = c.last.iterations.toUInt64 := c.iterations_last
  have hCatalog := hTells.step Client.catalogStep
  have hCheckout := hTells.step Client.checkoutStep
  have hSucceeded : catalog.succeeded = (c.tally Client.catalogStep .succeeded).toUInt64 :=
    hCatalog.category .succeeded
  have hCheckoutLe := checkout_le hSetup hBehaviour hQuiet c
  have hCatalogLe := catalog_le hSetup hBehaviour hQuiet c
  refine ⟨⟨hTells, hIterations⟩, fun name ↦ (hTells.step name).balanced, ⟨hCheckoutLe, hCatalogLe⟩,
    fun hFew ↦ ?_, fun hEnded ↦ ?_⟩
  · have hCalls := c.length_calls_last
    have hSuccessesLe : c.tally Client.catalogStep .succeeded ≤
        (c.tally Client.catalogStep).attempts := by
      unfold StepTally.attempts
      omega
    have hWord : ∀ {n : Nat}, n < 2 ^ 64 → n.toUInt64.toNat = n := fun h ↦
      Nat.mod_eq_of_lt h
    rw [UInt64.le_iff_toNat_le, hCheckout.attempted, hSucceeded, hCatalog.attempted, hIterations,
      hWord (by omega), hWord (by omega), hWord (by omega), hWord (by omega)]
    exact ⟨hCheckoutLe, hCatalogLe⟩
  · have hSettled := settled hSetup hBehaviour hQuiet c hEnded
    obtain ⟨hAll, hTried, hRequests⟩ := hSettled
    refine ⟨⟨hAll, hTried, hRequests⟩, ?_, ?_, ?_⟩
    · rw [hCatalog.attempted, hAll, hIterations]
    · rw [hCheckout.attempted, hTried, hSucceeded]
    · rw [hCatalog.attempted, hCheckout.attempted]
      have hSum := congrArg Nat.toUInt64 hRequests
      rw [hSum]
      exact UInt64.ofNat_add _ _

end AllAgents

/-! ## Two guests -/

theorem isQuiet_hooks (entropy : UInt64) : (GuestCheckout.hooks entropy).agent.IsQuiet where
  setup := by
    rintro hook ⟨⟩ context value
    exact isSilent_seedAgent context value
  teardown := by
    rintro hook ⟨⟩

namespace TwoGuests

def resolved : ResolvedScenario :=
  ⟨"two-guests", { RunConfig.of "http://a" "b" 2 (.iterations 1) with seed := some 7 }, true, .noop,
    none, none⟩

/-- A catalog of one product with one variant. -/
def catalogBody : String :=
  "\x7b\"data\":\x7b\"products\":\x7b\"edges\":[\x7b\"node\":\x7b\"id\":\"p\"," ++
    "\"variants\":[\x7b\"id\":\"v\"\x7d]\x7d\x7d]\x7d\x7d\x7d"

def checkoutBody : String :=
  "\x7b\"data\":\x7b\"checkoutCreate\":\x7b\"checkout\":\x7b\"id\":\"c\"\x7d\x7d\x7d\x7d"

/-- The second guest gets no catalog. -/
def answers : List Answer := [.ok catalogBody, .error (.status 500), .ok checkoutBody]

def moves : List Move :=
  [0, 1, 0, 1, 0, 1, 0, 1, 0, 1, 0, 1, 0, 1, 0, 1, 0, 1, 0, 1, 0, 1, 0, 0].map .agent

def course : Course Network.scripted answers (GuestCheckout.hooks 3) resolved :=
  .ofMoves (by decide +kernel) moves (by decide +kernel)

end TwoGuests

theorem accounting_twoGuests :
    let counters := TwoGuests.course.last.world.counters
    (counters.stepOrFresh Client.catalogStep).attempted = counters.iterations ∧
      TwoGuests.course.last.world.requests.length.toUInt64 =
        (counters.stepOrFresh Client.catalogStep).attempted +
          (counters.stepOrFresh Client.checkoutStep).attempted ∧
      TwoGuests.course.last.world.requests.length = 3 := by
  have hEnded : TwoGuests.course.last.hasEnded = true := by
    rw [State.hasEnded, ← Array.all_toList]
    decide +kernel
  have h := accounting rfl rfl (isQuiet_hooks 3) TwoGuests.course
  obtain ⟨_, hCatalog, _, hRequests⟩ := h.2.2.2.2 hEnded
  exact ⟨hCatalog, hRequests, by decide +kernel⟩

end StorefrontLoad.GuestCheckout
