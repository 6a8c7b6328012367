import StorefrontLoad.Proofs.Outcome.Tally
import StorefrontLoad.Proofs.Run.Iteration

/-!
# What the agents leave in the counters and in the network

The counters of a run hold exactly the records that its agents have made, and the history lists
exactly the requests that they have sent. Since every action belongs to one agent, both are sums
over the agents.
-/

namespace StorefrontLoad.Run

open Storefront (Network)

variable {R V σ : Type}

/-! ## The records and requests of a conversation -/

namespace Exchange

/-- Whether it counts an outcome of this step and kind. -/
def records (step : String) (kind : OutcomeKind) (exchange : Exchange) : Bool :=
  match exchange.action with
  | .record s k _ => s = step ∧ k = kind
  | _ => false

/-- The outcomes that are counted in a conversation. -/
def tally (talk : List Exchange) : Tally := fun step kind ↦ talk.countP (records step kind)

/-- The requests that are sent in a conversation. -/
def requests (talk : List Exchange) : List Storefront.Request :=
  talk.filterMap fun exchange ↦ exchange.action.request?

theorem tally_append (first second : List Exchange) (step : String) (kind : OutcomeKind) :
    tally (first ++ second) step kind = tally first step kind + tally second step kind :=
  List.countP_append

theorem attempts_append (first second : List Exchange) (step : String) :
    (tally (first ++ second) step).attempts =
      (tally first step).attempts + (tally second step).attempts := by
  simp only [StepTally.attempts, tally_append]
  omega

theorem requests_append (first second : List Exchange) :
    requests (first ++ second) = requests first ++ requests second :=
  List.filterMap_append

theorem tally_of_isSilent {talk : List Exchange} (h : ∀ e ∈ talk, e.action.isSilent) :
    tally talk = fun _ _ ↦ 0 := by
  funext step kind
  rw [tally, List.countP_eq_zero]
  rintro ⟨action, reply⟩ hMem
  have hSilent := h _ hMem
  cases action <;> simp_all [records, Action.isSilent]

theorem requests_of_isSilent {talk : List Exchange} (h : ∀ e ∈ talk, e.action.isSilent) :
    requests talk = [] := by
  rw [requests, List.filterMap_eq_nil_iff]
  intro e hMem
  exact Action.request?_of_isSilent (h e hMem)

end Exchange

namespace Deed

/-- What the agents have said and heard. -/
def talk (deeds : List Deed) : List Exchange := deeds.map Deed.exchange

theorem talk_append (first second : List Deed) :
    talk (first ++ second) = talk first ++ talk second :=
  List.map_append

/-- What the history tells of it. -/
def post? (deed : Deed) : Option (Option Nat × Storefront.Request) :=
  deed.exchange.action.request?.map (some deed.agent, ·)

end Deed

/-! ## What a step adds -/

namespace Agent.Turn

variable {plan : Plan R V} {network : Network σ} {index : Nat} {a after : Agent V}
  {w world : World σ} {new : List Deed}

theorem agent_of_mem (turn : a.Turn plan network index w after new world) {deed : Deed}
    (h : deed ∈ new) : deed.agent = index := by
  cases turn with
  | act =>
    rw [List.mem_singleton.1 h]
  | prepare | start | refuse | skip | leave | clear | call | emerge | account | bail | close =>
    cases h

theorem filter_agent (turn : a.Turn plan network index w after new world) :
    new.filter (·.agent = index) = new := by
  rw [List.filter_eq_self]
  intro deed hMem
  exact decide_eq_true (turn.agent_of_mem hMem)

theorem posts (turn : a.Turn plan network index w after new world) :
    world.posts = w.posts ++ new.filterMap Deed.post? := by
  cases turn with
  | @act stage action next taken _ performed =>
    rw [(World.performs_of_perform performed).posts]
    cases hRequest : action.request? <;> simp [Deed.post?, hRequest]
  | call => simp [World.posts_note, Event.post?]
  | clear | emerge => simp
  | prepare _ _ world | start _ _ world | refuse _ _ _ world | skip _ _ world | leave _ _ world
  | close _ _ world =>
    rw [List.filterMap_nil, List.append_nil, world.posts]
  | account _ _ world | bail _ _ world =>
    rw [List.filterMap_nil, List.append_nil, world.posts]
    rfl

/-- The counters of the steps take up the records of an agent and nothing else. -/
theorem tells (turn : a.Turn plan network index w after new world) {talk : List Exchange}
    (h : w.counters.Tells (Exchange.tally talk)) :
    world.counters.Tells (Exchange.tally (talk ++ Deed.talk new)) := by
  have hSame (hSteps : world.counters.steps = w.counters.steps) :
      world.counters.Tells (Exchange.tally (talk ++ [])) := by
    rw [List.append_nil]
    exact h.congr hSteps
  cases turn with
  | @act stage action next taken _ performed =>
    rw [(World.performs_of_perform performed).counters]
    have hTally : ∀ step kind, Exchange.tally (talk ++ [⟨action, taken.reply⟩]) step kind =
        Exchange.tally talk step kind +
          if Exchange.records step kind ⟨action, taken.reply⟩ then 1 else 0 := by
      intro step kind
      rw [Exchange.tally_append]
      simp [Exchange.tally]
    cases action with
    | record step kind latency =>
      have hAdd : Exchange.tally (talk ++ [⟨.record step kind latency, taken.reply⟩]) =
          (Exchange.tally talk).add step kind := by
        funext name k
        rw [hTally]
        simp only [Exchange.records, Tally.add, decide_eq_true_eq, @eq_comm _ name, @eq_comm _ k]
      change Counters.Tells (Exchange.tally (talk ++ [_])) _
      rw [hAdd]
      exact h.record step kind latency
    | post | log | pause | requestStop | isStopRequested | awaitStop | readOutcome =>
      have hAdd : Exchange.tally (talk ++ [⟨_, taken.reply⟩]) = Exchange.tally talk := by
        funext name k
        rw [hTally]
        rfl
      change Counters.Tells (Exchange.tally (talk ++ [_])) _
      rw [hAdd]
      exact h
  | clear | call | emerge => exact hSame rfl
  | prepare _ _ world | start _ _ world | refuse _ _ _ world | skip _ _ world | leave _ _ world
  | close _ _ world => exact hSame (congrArg Counters.steps world.counters)
  | account _ _ world | bail _ _ world =>
    have hSteps := congrArg Counters.steps world.counters
    exact hSame hSteps

end Agent.Turn

namespace State.Reaches

variable {Allowed : State σ V → Prop} {plan : Plan R V} {network : Network σ}
  {s last : State σ V} {deeds : List Deed}

theorem agent_lt (h : Reaches Allowed plan network s deeds last) :
    ∀ deed ∈ deeds, deed.agent < s.agents.size := by
  induction h with
  | refl => simp
  | stop before allowed reason ih => exact ih
  | agent before allowed found turn ih =>
    intro deed hMem
    rcases List.mem_append.1 hMem with hOld | hNew
    · exact ih deed hOld
    · rw [turn.agent_of_mem hNew, ← before.size_agents]
      exact (Array.getElem?_eq_some_iff.1 found).1

theorem posts (h : Reaches Allowed plan network s deeds last) :
    last.world.posts = s.world.posts ++ deeds.filterMap Deed.post? := by
  induction h with
  | refl => simp
  | @stop deeds now before allowed reason ih =>
    have hLog := (World.Murmurs.log reason now.world).posts
    exact hLog.trans ih
  | agent before allowed found turn ih =>
    rw [turn.posts, ih, List.filterMap_append, List.append_assoc]

theorem tells (h : Reaches Allowed plan network s deeds last)
    (hStart : s.world.counters.steps = []) :
    last.world.counters.Tells (Exchange.tally (Deed.talk deeds)) := by
  induction h with
  | refl => exact Counters.tells_of_steps_eq_nil hStart
  | stop before allowed reason ih => exact ih
  | agent before allowed found turn ih =>
    rw [Deed.talk_append]
    exact turn.tells ih

end State.Reaches

/-! ## Sums over the agents -/

namespace Deed

/-- What one agent has said and heard. -/
def talkOf (agent : Nat) (deeds : List Deed) : List Exchange :=
  talk (deeds.filter (·.agent = agent))

/-- A number of actions is a sum over the agents. -/
theorem countP_talk (p : Exchange → Bool) {deeds : List Deed} {size : Nat}
    (h : ∀ deed ∈ deeds, deed.agent < size) :
    (talk deeds).countP p = ∑ agent ∈ Finset.range size, (talkOf agent deeds).countP p := by
  induction deeds with
  | nil => simp [talk, talkOf]
  | cons deed deeds ih =>
    have hRest := ih fun d hMem ↦ h d (List.mem_cons_of_mem _ hMem)
    have hOne : ∀ agent, (talkOf agent (deed :: deeds)).countP p =
        (talkOf agent deeds).countP p +
          if deed.agent = agent then (if p deed.exchange then 1 else 0) else 0 := by
      intro agent
      unfold talkOf talk
      by_cases hAgent : deed.agent = agent
      · rw [List.filter_cons_of_pos (by simpa using hAgent), List.map_cons, List.countP_cons,
          if_pos hAgent]
      · rw [List.filter_cons_of_neg (by simpa using hAgent), if_neg hAgent, Nat.add_zero]
    have hMem : deed.agent ∈ Finset.range size :=
      Finset.mem_range.2 (h deed List.mem_cons_self)
    calc (talk (deed :: deeds)).countP p
        = (talk deeds).countP p + if p deed.exchange then 1 else 0 := by
          rw [talk, List.map_cons, List.countP_cons]
          rfl
      _ = ∑ agent ∈ Finset.range size, (talkOf agent (deed :: deeds)).countP p := by
          rw [hRest, Finset.sum_congr rfl fun agent _ ↦ hOne agent, Finset.sum_add_distrib,
            Finset.sum_ite_eq, if_pos hMem]

theorem tally_talk {deeds : List Deed} {size : Nat} (h : ∀ deed ∈ deeds, deed.agent < size)
    (step : String) (kind : OutcomeKind) : Exchange.tally (talk deeds) step kind =
      ∑ agent ∈ Finset.range size, Exchange.tally (talkOf agent deeds) step kind :=
  countP_talk _ h

theorem attempts_talk {deeds : List Deed} {size : Nat} (h : ∀ deed ∈ deeds, deed.agent < size)
    (step : String) : (Exchange.tally (talk deeds) step).attempts =
      ∑ agent ∈ Finset.range size, (Exchange.tally (talkOf agent deeds) step).attempts := by
  simp only [StepTally.attempts, tally_talk h, Finset.sum_add_distrib]

theorem length_requests_talk {deeds : List Deed} {size : Nat}
    (h : ∀ deed ∈ deeds, deed.agent < size) : (Exchange.requests (talk deeds)).length =
      ∑ agent ∈ Finset.range size, (Exchange.requests (talkOf agent deeds)).length := by
  simp only [Exchange.requests, List.length_filterMap_eq_countP]
  exact countP_talk _ h

theorem map_snd_posts (deeds : List Deed) :
    (deeds.filterMap post?).map Prod.snd = Exchange.requests (talk deeds) := by
  induction deeds with
  | nil => rfl
  | cons deed deeds ih =>
    unfold Exchange.requests talk at ih ⊢
    rw [List.map_cons, List.filterMap_cons, List.filterMap_cons, post?]
    cases deed.exchange.action.request? with
    | none => exact ih
    | some request => exact congrArg (request :: ·) ih

/-- What the history tells of an agent is what it has done. -/
theorem filter_posts (agent : Nat) (deeds : List Deed) :
    (deeds.filterMap post?).filter (·.1 = some agent) =
      (deeds.filter (·.agent = agent)).filterMap post? := by
  induction deeds with
  | nil => rfl
  | cons deed deeds ih =>
    by_cases hAgent : deed.agent = agent <;>
      cases hRequest : deed.exchange.action.request? <;>
        simp [post?, hRequest, hAgent, ← ih]

end Deed

/-- A figure of all agents is a sum over their positions. -/
theorem State.total_eq_sum (figure : Agent V → Nat) (s : State σ V) :
    s.total figure = ∑ index ∈ Finset.range s.agents.size, (s.agents[index]?).elim 0 figure := by
  have hTotal : s.total figure =
      ((List.range s.agents.size).map fun index ↦ (s.agents[index]?).elim 0 figure).sum := by
    apply total_eq
    intro index a found
    rw [found]
    rfl
  exact hTotal

namespace World

/-- Histories that tell the same of every agent tell of the same requests. -/
theorem requests_perm {σ' : Type} {w : World σ} {w' : World σ'}
    (hAgents : ∀ post ∈ w.posts, post.1.isSome) (hAgents' : ∀ post ∈ w'.posts, post.1.isSome)
    (h : ∀ agent, w.requestsOf agent = w'.requestsOf agent) : w.requests.Perm w'.requests := by
  classical
  have hFilter : ∀ sender, w.posts.filter (·.1 = sender) = w'.posts.filter (·.1 = sender) := by
    intro sender
    cases sender with
    | none =>
      have hNone : ∀ {posts : List (Option Nat × Storefront.Request)},
          (∀ post ∈ posts, post.1.isSome) → posts.filter (·.1 = none) = [] := by
        intro posts hSome
        rw [List.filter_eq_nil_iff]
        intro post hMem hEq
        have hSender := hSome post hMem
        rw [of_decide_eq_true hEq] at hSender
        cases hSender
      rw [hNone hAgents, hNone hAgents']
    | some agent =>
      have hPair : ∀ posts : List (Option Nat × Storefront.Request),
          posts.filter (·.1 = some agent) =
            ((posts.filter (·.1 = some agent)).map Prod.snd).map (some agent, ·) := by
        intro posts
        have hSame : ∀ post ∈ posts.filter (·.1 = some agent), (some agent, post.2) = id post := by
          intro post hMem
          have hSender := of_decide_eq_true (List.mem_filter.1 hMem).2
          exact Prod.ext hSender.symm rfl
        rw [List.map_map]
        exact ((List.map_congr_left hSame).trans (List.map_id _)).symm
      have hAgent := h agent
      unfold requestsOf at hAgent
      rw [hPair w.posts, hPair w'.posts, hAgent]
  have hPosts : w.posts.Perm w'.posts := by
    rw [List.perm_iff_count]
    intro post
    have hCount : ∀ posts : List (Option Nat × Storefront.Request),
        (posts.filter (·.1 = post.1)).count post = posts.count post := fun posts ↦
      List.count_filter (by simp)
    rw [← hCount w.posts, ← hCount w'.posts, hFilter]
  exact hPosts.map Prod.snd

end World

namespace State.Reaches

variable {Allowed : State σ V → Prop} {plan : Plan R V} {network : Network σ}
  {s last : State σ V} {deeds : List Deed}

theorem requests (h : Reaches Allowed plan network s deeds last) (hStart : s.world.posts = []) :
    last.world.requests = Exchange.requests (Deed.talk deeds) := by
  rw [World.requests, h.posts, hStart, List.nil_append, Deed.map_snd_posts]

theorem requestsOf (h : Reaches Allowed plan network s deeds last) (hStart : s.world.posts = [])
    (agent : Nat) :
    last.world.requestsOf agent = Exchange.requests (Deed.talkOf agent deeds) := by
  rw [World.requestsOf, h.posts, hStart, List.nil_append, Deed.filter_posts, Deed.map_snd_posts]
  rfl

theorem isSome_of_mem_posts (h : Reaches Allowed plan network s deeds last)
    (hStart : s.world.posts = []) : ∀ post ∈ last.world.posts, post.1.isSome := by
  rw [h.posts, hStart, List.nil_append]
  intro post hMem
  obtain ⟨deed, _, hPost⟩ := List.mem_filterMap.1 hMem
  obtain ⟨request, _, rfl⟩ := Option.map_eq_some_iff.1 hPost
  rfl

end State.Reaches

/-! ## In every course -/

/-- What all agents together have recorded. -/
def Course.tally {network : Network σ} {state : σ} {hooks : Hooks R V}
    {resolved : ResolvedScenario} (c : Course network state hooks resolved) : Tally :=
  Exchange.tally (Deed.talk c.deeds)

theorem Course.agent_lt {network : Network σ} {state : σ} {hooks : Hooks R V}
    {resolved : ResolvedScenario} (c : Course network state hooks resolved) :
    ∀ deed ∈ c.deeds, deed.agent < c.last.agents.size := by
  rw [c.reaches.size_agents]
  exact c.reaches.agent_lt

end StorefrontLoad.Run
