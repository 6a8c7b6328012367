import StorefrontLoad.Proofs.GuestCheckout.Accounting
import StorefrontLoad.Proofs.Run.Completion
import Mathlib.Data.List.Basic

/-!
# Guests of a run

An iteration creates a checkout for one guest at most, who is named by the agent and the iteration.
The name tells both of them, and an agent begins an iteration of each number once, so that nobody is
a guest twice. How a call of the behaviour ends and where it breaks off does not matter.
-/

namespace StorefrontLoad.Storefront

/-- The name of a guest tells the agent and the iteration. -/
theorem guestEmail_inj {agent iteration agent' iteration' : Nat} :
    guestEmail agent iteration = guestEmail agent' iteration' ↔
      agent = agent' ∧ iteration = iteration' := by
  constructor
  · intro h
    have hText (agent iteration : Nat) : (guestEmail agent iteration).toList =
        "guest_".toList ++ (Nat.toDigits 10 agent ++ '_' ::
          (Nat.toDigits 10 iteration ++ "@example.com".toList)) := by
      simp only [guestEmail, String.toList_append, Nat.toString_eq_ofList_toDigits,
        String.toList_ofList, List.append_assoc]
      rfl
    have hRest : '_' ∉ Nat.toDigits 10 iteration ++ "@example.com".toList := by
      simp [Nat.underscore_not_in_toDigits]
    have hLists := congrArg String.toList h
    -- the first underscore behind the prefix ends the number of the agent
    rw [hText, hText, List.append_cancel_left_eq,
      List.append_cons_inj_of_notMem Nat.underscore_not_in_toDigits hRest] at hLists
    obtain ⟨hAgent, _, hEnd⟩ := hLists
    have hIteration := List.append_cancel_right hEnd
    have hValue (n : Nat) : Nat.ofDigitChars 10 (Nat.toDigits 10 n) 0 = n :=
      Nat.ofDigitChars_ten_toDigits
    constructor
    · rw [← hValue agent, hAgent, hValue]
    · rw [← hValue iteration, hIteration, hValue]
  · rintro ⟨rfl, rfl⟩
    rfl

namespace Request

/-- Whom a request creates a checkout for. -/
def guest? (r : Request) : Option String :=
  if r.query = checkoutMutation then r.values.bind (·.extractString "email") else none

theorem guest?_products (channel : String) : (products channel).guest? = none := by
  have hQuery : productsQuery ≠ checkoutMutation := by decide +kernel
  exact if_neg hQuery

theorem guest?_checkout (channel variantId email : String) :
    (checkout channel variantId email).guest? = some email := by
  have hEmail : (checkout channel variantId email).values.bind (·.extractString "email") =
      some email := rfl
  exact (if_pos rfl).trans hEmail

end Request

end StorefrontLoad.Storefront

namespace StorefrontLoad.Run

variable {R V : Type}

/-- A hook says nothing but what the whole one would say; it may break off anywhere and end in any
way. -/
def AgentHook.IsPartOf (hook whole : AgentHook R V) : Prop :=
  ∀ context value talk rest, (hook context value).Yields talk rest →
    ∃ more, (whole context value).Yields talk more

end StorefrontLoad.Run

namespace StorefrontLoad.GuestCheckout

open Run (Program Exchange Deed Ending AgentContext AgentHook Hooks World Agent Course Account)
open Storefront (Network Client Request guestEmail guestEmail_inj)

/-! ## One conversation -/

/-- Whom a conversation creates checkouts for. -/
def guests (talk : List Exchange) : List String :=
  (Exchange.requests talk).filterMap Request.guest?

theorem guests_append (first second : List Exchange) :
    guests (first ++ second) = guests first ++ guests second := by
  rw [guests, Exchange.requests_append, List.filterMap_append]
  rfl

theorem guests_of_isSilent {talk : List Exchange} (h : ∀ e ∈ talk, e.action.isSilent) :
    guests talk = [] := by
  rw [guests, Exchange.requests_of_isSilent h]
  rfl

theorem count_guests (email : String) (talk : List Exchange) :
    (guests talk).count email =
      talk.countP fun exchange ↦ exchange.action.request?.bind Request.guest? == some email := by
  rw [guests, Exchange.requests, List.filterMap_filterMap, List.count_filterMap]

section Conversation

variable {client : Client} {channel email : String} {source after : Random.Source}
  {talk : List Exchange} {outcome : IterationOutcome}

theorem Pass.guests_sublist (h : Pass client channel email source talk outcome after) :
    List.Sublist (guests talk) [email] := by
  cases h with
  | unavailable _ silent =>
    rw [guests_append, guests_of_isSilent silent, guests, Storefront.requests_stepTalk,
      List.filterMap_cons_none (Request.guest?_products channel)]
    exact List.nil_sublist _
  | tried _ silent =>
    rw [guests_append, guests_append, guests_of_isSilent silent, guests, guests,
      Storefront.requests_stepTalk, Storefront.requests_stepTalk,
      List.filterMap_cons_none (Request.guest?_products channel),
      List.filterMap_cons_some (Request.guest?_checkout ..)]
    exact List.Sublist.refl _

/-- A call of the behaviour that is cut off can be thought to its end, so it has at most the one
guest of the whole call. -/
theorem guests_of_behaviour {context : AgentContext Shop} {guest : Guest}
    {rest : Program (Guest × Ending)} (h : (behaviour context guest).Yields talk rest) :
    List.Sublist (guests talk) [guestEmail context.index context.iteration] := by
  obtain ⟨more, result, hMore⟩ := Program.exists_yields_done rest
  have hWhole := h.trans hMore
  have hAll : List.Sublist (guests (talk ++ more))
      [guestEmail context.index context.iteration] := by
    cases hClient : context.shared.client with
    | none =>
      unfold behaviour at hWhole
      rw [hClient] at hWhole
      rw [(Program.yields_done_iff.1 hWhole).1]
      exact List.nil_sublist _
    | some client =>
      obtain ⟨outcome, source, _, _, hPass⟩ := pass_of_behaviour hClient hWhole
      exact hPass.guests_sublist
  rw [guests_append] at hAll
  exact (List.sublist_append_left _ _).trans hAll

end Conversation

/-! ## One agent -/

section OneAgent

variable {plan : Run.Plan Shop Guest} {index : Nat} {own : Guest} {talk : List Exchange}

/-- The guests that an agent may have in its first iterations. -/
def named (index count : Nat) : List String := (List.range count).map (guestEmail index)

theorem named_succ (index count : Nat) :
    named index (count + 1) = named index count ++ [guestEmail index count] := by
  rw [named, List.range_succ, List.map_append]
  rfl

theorem nodup_named (index count : Nat) : (named index count).Nodup := by
  apply List.Nodup.map _ List.nodup_range
  intro iteration iteration' h
  exact (guestEmail_inj.1 h).2

theorem guests_of_life {count : Nat} {value : Guest}
    (hBehaviour : ∀ hook, plan.hooks.behaviour = some hook → hook.IsPartOf behaviour)
    (h : Agent.Life plan index own count value talk) :
    List.Sublist (guests talk) (named index count) := by
  induction h with
  | unprepared => exact List.nil_sublist _
  | prepared => exact List.nil_sublist _
  | iterated life hSome went ih =>
    obtain ⟨more, hMore⟩ := hBehaviour _ hSome _ _ _ _ went
    have hNew := guests_of_behaviour hMore
    rw [guests_append, named_succ]
    exact ih.append hNew

theorem guests_of_lives {a : Agent Guest}
    (hBehaviour : ∀ hook, plan.hooks.behaviour = some hook → hook.IsPartOf behaviour)
    (h : a.Lives plan index own talk) : List.Sublist (guests talk) (named index a.begun) := by
  have hFew : ∀ {count : Nat}, count ≤ a.begun → List.Sublist (named index count)
      (named index a.begun) := by
    intro count hCount
    exact (List.range_sublist.2 hCount).map _
  have hCounted : a.iteration ≤ a.begun := Nat.le_add_right _ _
  unfold Agent.Lives at h
  split at h
  · rw [h.1]
    exact List.nil_sublist _
  · rw [h.1]
    exact List.nil_sublist _
  · exact (guests_of_life hBehaviour h).trans (hFew hCounted)
  · exact (guests_of_life hBehaviour h).trans (hFew hCounted)
  · next hPhase =>
    obtain ⟨before, new, hook, rfl, life, hSome, went⟩ := h
    obtain ⟨more, hMore⟩ := hBehaviour hook hSome _ _ _ _ went
    have hNew := guests_of_behaviour hMore
    have hBegun : a.begun = a.iteration + 1 := by simp [Agent.begun, Agent.isInFlight, hPhase]
    rw [guests_append, hBegun, named_succ]
    exact (guests_of_life hBehaviour life).append hNew
  · next hPhase =>
    have hBegun : a.begun = a.iteration + 1 := by simp [Agent.begun, Agent.isInFlight, hPhase]
    rw [hBegun]
    exact guests_of_life hBehaviour h
  all_goals
    rcases h with ⟨_, rfl⟩ | ⟨value, life⟩
    · exact List.nil_sublist _
    · exact (guests_of_life hBehaviour life).trans (hFew hCounted)

end OneAgent

/-! ## All agents -/

/-- Agents behave as guests do, as far as a call gets. No other hook sends or counts anything. -/
structure IsGuestRun (hooks : Hooks Shop Guest) : Prop where
  setup : ∀ hook, hooks.setup = some hook → ∀ config shop, (hook config shop).IsSilent
  behaviour : ∀ hook, hooks.agent.behaviour = some hook → hook.IsPartOf behaviour
  quiet : hooks.agent.IsQuiet
  teardown : ∀ hook, hooks.teardown = some hook → ∀ config shop, (hook config shop).IsSilent

section AllAgents

variable {σ : Type} {network : Network σ} {state : σ} {hooks : Hooks Shop Guest}
  {resolved : ResolvedScenario}

theorem posts_world (hGuests : IsGuestRun hooks) (c : Course network state hooks resolved) :
    c.world.posts = [] := by
  have hOpening := World.murmurs_logAll (Run.opening hooks resolved) (World.fresh state)
  have hSetup : c.world.posts = _ :=
    Run.posts_of_callHook (fun hook hSome ↦ hGuests.setup hook hSome _ _) c.opened
  rw [hSetup, hOpening.posts]
  rfl

/-- An agent has the guests of the iterations it has begun, or some of them. -/
theorem guests_talkOf (hGuests : IsGuestRun hooks) (c : Course network state hooks resolved)
    {index : Nat} {a : Agent Guest} (found : c.last.agents[index]? = some a) :
    List.Sublist (guests (Deed.talkOf index c.deeds)) (named index a.begun) := by
  have hSaid : List.Sublist (guests (c.saidOf index)) (named index a.begun) :=
    guests_of_lives hGuests.behaviour (c.lives_last found)
  have hRequests := (c.keepsQuiet_last hGuests.quiet found).requests_said
  unfold guests at hSaid ⊢
  rwa [Deed.talkOf, ← hRequests]

/-- A name belongs to one agent, and there it is used once. -/
theorem sum_count_le_one {size : Nat} {guestsOf : Nat → List String}
    (hNamed : ∀ index < size, ∃ count, List.Sublist (guestsOf index) (named index count))
    (email : String) : ∑ index ∈ Finset.range size, (guestsOf index).count email ≤ 1 := by
  have hIteration : ∀ index < size, email ∈ guestsOf index →
      ∃ iteration, guestEmail index iteration = email := by
    intro index hIndex hMem
    obtain ⟨count, hSublist⟩ := hNamed index hIndex
    obtain ⟨iteration, _, hEmail⟩ := List.mem_map.1 (hSublist.subset hMem)
    exact ⟨iteration, hEmail⟩
  by_cases hSome : ∃ index < size, email ∈ guestsOf index
  · obtain ⟨index, hIndex, hMem⟩ := hSome
    obtain ⟨iteration, hEmail⟩ := hIteration index hIndex hMem
    obtain ⟨count, hSublist⟩ := hNamed index hIndex
    calc
      _ = (guestsOf index).count email := by
        apply Finset.sum_eq_single_of_mem index (Finset.mem_range.2 hIndex)
        intro other hOther hne
        rw [List.count_eq_zero]
        intro hForeign
        obtain ⟨iteration', hEmail'⟩ := hIteration other (Finset.mem_range.1 hOther) hForeign
        exact hne (guestEmail_inj.1 (hEmail'.trans hEmail.symm)).1
      _ ≤ 1 := List.nodup_iff_count_le_one.1 (hSublist.nodup (nodup_named index count)) email
  · have hNone : ∑ index ∈ Finset.range size, (guestsOf index).count email = 0 := by
      apply Finset.sum_eq_zero
      intro index hIndex
      rw [List.count_eq_zero]
      exact fun hMem ↦ hSome ⟨index, Finset.mem_range.1 hIndex, hMem⟩
    omega

theorem nodup_guests (hGuests : IsGuestRun hooks) (c : Course network state hooks resolved) :
    (c.last.world.requests.filterMap Request.guest?).Nodup := by
  rw [c.reaches.requests (posts_world hGuests c), List.nodup_iff_count_le_one]
  intro email
  calc
    _ = ∑ index ∈ Finset.range c.last.agents.size,
        (guests (Deed.talkOf index c.deeds)).count email := by
      have hCount := count_guests email
      simp only [guests] at hCount
      simp only [guests, hCount]
      exact Deed.countP_talk _ c.agent_lt
    _ ≤ 1 := by
      apply sum_count_le_one
      intro index hIndex
      have found := Array.getElem?_eq_getElem hIndex
      exact ⟨_, guests_talkOf hGuests c found⟩

/-- Nobody is a guest twice in a run, whatever the storefront answers, wherever and however calls of
the behaviour end, and in whatever order the agents move. -/
theorem distinct_guests (hGuests : IsGuestRun hooks) (c : Course network state hooks resolved) :
    (c.last.world.requests.filterMap Request.guest?).Nodup ∧
      (∀ index a, c.last.agents[index]? = some a → (c.last.world.callsOf index).Nodup) ∧
      (∀ agent iteration agent' iteration',
        guestEmail agent iteration = guestEmail agent' iteration' →
          agent = agent' ∧ iteration = iteration') ∧
      ∀ occasion account,
        Run.finish network occasion hooks resolved c.shared c.last = some account →
          (account.requests.filterMap Request.guest?).Nodup := by
  refine ⟨nodup_guests hGuests c, ?_, ?_, ?_⟩
  · intro index a found
    rw [c.callsOf_last found]
    exact List.nodup_range
  · intro agent iteration agent' iteration'
    exact guestEmail_inj.1
  · intro occasion account hFinish
    have hRequests : account.requests = c.last.world.requests :=
      Run.requests_of_finish (fun hook hSome ↦ hGuests.teardown hook hSome _ _) hFinish
    rw [hRequests]
    exact nodup_guests hGuests c

end AllAgents

/-! ## Guests of a behaviour that panics -/

/-- Panics where the hook would have returned. -/
def panicking (hook : AgentHook Shop Guest) : AgentHook Shop Guest := fun context guest ↦
  hook context guest >>= fun result ↦ .done (result.1, .panicked none)

theorem isPartOf_panicking (hook : AgentHook Shop Guest) : (panicking hook).IsPartOf hook := by
  intro context guest talk rest h
  rcases Program.yields_bind h with ⟨now, hNow⟩ | ⟨first, second, result, rfl, hFirst, hSecond⟩
  · exact ⟨now, hNow⟩
  · have hNothing := (Program.yields_done_iff.1 hSecond).1
    rw [hNothing, List.append_nil]
    exact ⟨_, hFirst⟩

namespace TwoGuests

/-- The hooks of a guest checkout run whose behaviour panics in the end. -/
def panickingHooks : Hooks Shop Guest :=
  { GuestCheckout.hooks 3 with agent := ⟨some seedAgent, some (panicking behaviour), none⟩ }

theorem isGuestRun_panickingHooks : IsGuestRun panickingHooks where
  setup := by
    rintro hook ⟨⟩ config shop
    exact isSilent_configureClient config shop
  behaviour := by
    rintro hook ⟨⟩
    exact isPartOf_panicking behaviour
  quiet := ⟨(isQuiet_hooks 3).setup, (isQuiet_hooks 3).teardown⟩
  teardown := by
    rintro hook ⟨⟩

def panickingCourse : Course Network.scripted answers panickingHooks resolved :=
  .ofMoves (by decide +kernel) moves (by decide +kernel)

end TwoGuests

theorem distinct_guests_panicking :
    (TwoGuests.panickingCourse.last.world.requests.filterMap Request.guest?).Nodup ∧
      TwoGuests.panickingCourse.last.world.requests.filterMap Request.guest? ≠ [] := by
  have h := distinct_guests TwoGuests.isGuestRun_panickingHooks TwoGuests.panickingCourse
  exact ⟨h.1, by decide +kernel⟩

end StorefrontLoad.GuestCheckout
