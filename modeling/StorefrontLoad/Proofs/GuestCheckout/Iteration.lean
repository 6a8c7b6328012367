import StorefrontLoad.GuestCheckout
import StorefrontLoad.Proofs.Run.Life
import StorefrontLoad.Proofs.Storefront.Client

/-!
# One iteration of the guest checkout

An iteration holds the conversation of the catalog step and, if that chose a variant, the
conversation of the checkout step. Whatever else is said in it is silent. How it goes on is decided
by the answers and by the source of random words alone.
-/

namespace StorefrontLoad.GuestCheckout

open Run (Program Exchange Ending AgentContext Hooks World)
open Storefront

theorem steps_ne : Client.catalogStep ≠ Client.checkoutStep := by decide

/-- What comes of an iteration that has tried a checkout. -/
def outcomeOf : Except StepFailure String → IterationOutcome
  | .ok id => .checkoutCreated id
  | .error failure => .checkoutFailed failure

/-- What a whole iteration can be: what is said in it, its outcome and the source after it. -/
inductive Pass (client : Client) (channel email : String) (source : Random.Source) :
    List Exchange → IterationOutcome → Random.Source → Prop
  | unavailable {delivery : Delivery} {failure : StepFailure} {after : Random.Source}
      {quiet : List Exchange}
      (chosen : Client.selectionOf delivery.answer source = (.error failure, after))
      (silent : ∀ e ∈ quiet, e.action.isSilent) :
      Pass client channel email source
        (stepTalk client.target (.products channel) Client.catalogStep failure.kind delivery ++
          quiet)
        (.catalogUnavailable failure) after
  | tried {delivery delivery' : Delivery} {selection : Selection} {after : Random.Source}
      {quiet : List Exchange}
      (chosen : Client.selectionOf delivery.answer source = (.ok selection, after))
      (silent : ∀ e ∈ quiet, e.action.isSilent) :
      Pass client channel email source
        (stepTalk client.target (.products channel) Client.catalogStep .succeeded delivery ++
          (stepTalk client.target (.checkout channel selection.variantId email)
            Client.checkoutStep (kindOf (Client.checkoutIdOf delivery'.answer)) delivery' ++ quiet))
        (outcomeOf (Client.checkoutIdOf delivery'.answer)) after

/-! ## Whole iterations -/

theorem silent_of_log {talk : List Exchange} {line : LogLine} {reply : Unit}
    (h : (Program.log line).Yields talk (.done reply)) : ∀ e ∈ talk, e.action.isSilent := by
  intro e hMem
  rw [Program.yields_perform_done_iff.1 h] at hMem
  rw [List.mem_singleton.1 hMem]
  rfl

/-- What is said after a step, a log line and the pause, is silent. -/
theorem silent_append_pause {quiet talk : List Exchange} {length : Duration} {reply : Unit}
    (hQuiet : ∀ e ∈ quiet, e.action.isSilent)
    (h : (Program.pause length).Yields talk (.done reply)) :
    ∀ e ∈ quiet ++ talk, e.action.isSilent := by
  intro e hMem
  rcases List.mem_append.1 hMem with hMem | hMem
  · exact hQuiet e hMem
  · rw [Program.yields_perform_done_iff.1 h] at hMem
    rw [List.mem_singleton.1 hMem]
    rfl

variable {client : Client} {channel email variantId : String} {thinkTime : Duration}
  {source after : Random.Source} {talk : List Exchange} {outcome : IterationOutcome}

theorem yields_checkOut_done
    (h : (checkOut client channel variantId email).Yields talk (.done outcome)) :
    ∃ delivery quiet, (∀ e ∈ quiet, e.action.isSilent) ∧
      talk = stepTalk client.target (.checkout channel variantId email) Client.checkoutStep
        (kindOf (Client.checkoutIdOf delivery.answer)) delivery ++ quiet ∧
      outcome = outcomeOf (Client.checkoutIdOf delivery.answer) := by
  obtain ⟨first, second, result, rfl, hStep, hRest⟩ := Program.yields_bind_done h
  rw [Client.createCheckout_eq] at hStep
  obtain ⟨delivery, rfl, rfl⟩ := yields_stepProgram_done hStep
  refine ⟨delivery, second, ?_⟩
  cases hResult : Client.checkoutIdOf delivery.answer with
  | ok id | error failure =>
    rw [hResult] at hRest
    obtain ⟨third, fourth, reply, rfl, hLog, hDone⟩ := Program.yields_bind_done hRest
    obtain ⟨rfl, hOutcome⟩ := Program.yields_done_iff.1 hDone
    rw [List.append_nil]
    exact ⟨silent_of_log hLog, rfl, Program.done.inj hOutcome⟩

/-- Every iteration that has come to its end is one of the two. -/
theorem pass_of_yields
    (h : (checkoutIteration client channel email thinkTime source).Yields talk
      (.done (outcome, after))) : Pass client channel email source talk outcome after := by
  obtain ⟨first, second, ⟨result, left⟩, rfl, hCatalog, hRest⟩ := Program.yields_bind_done h
  rw [Client.fetchCatalog_eq] at hCatalog
  obtain ⟨delivery, hChosen, rfl⟩ := yields_stepProgram_done hCatalog
  obtain ⟨third, fourth, found, rfl, hAfter, hEnd⟩ := Program.yields_bind_done hRest
  obtain ⟨fifth, sixth, reply, rfl, hPause, hDone⟩ := Program.yields_bind_done hEnd
  obtain ⟨rfl, hResult⟩ := Program.yields_done_iff.1 hDone
  obtain ⟨rfl, rfl⟩ := Prod.mk.inj (Program.done.inj hResult)
  rw [List.append_nil]
  cases result with
  | error failure =>
    obtain ⟨seventh, eighth, reply, rfl, hLog, hDone⟩ := Program.yields_bind_done hAfter
    obtain ⟨rfl, hOutcome⟩ := Program.yields_done_iff.1 hDone
    rw [Program.done.inj hOutcome, List.append_nil]
    exact .unavailable hChosen.symm (silent_append_pause (silent_of_log hLog) hPause)
  | ok selection =>
    obtain ⟨delivery', quiet, hQuiet, rfl, rfl⟩ := yields_checkOut_done hAfter
    rw [List.append_assoc]
    exact .tried hChosen.symm (silent_append_pause hQuiet hPause)

/-- What follows the last step of an iteration is silent, wherever it is cut off. -/
theorem isSilent_log {α : Type} (line : LogLine) (a : α) :
    (Program.log line >>= fun _ ↦ .done a).IsSilent :=
  Program.isSilent_step rfl fun _ ↦ Program.isSilent_done a

theorem isSilent_pause {α : Type} (length : Duration) (a : α) :
    (Program.pause length >>= fun _ ↦ .done a).IsSilent :=
  Program.isSilent_step rfl fun _ ↦ Program.isSilent_done a

/-! ## Hooks -/

/-- The source that an agent goes on with. -/
def sourceOf (context : AgentContext Shop) (guest : Guest) : Random.Source :=
  guest.getD (agentSource context.shared.entropy context.index)

/-- Once there is a client, the behaviour is an iteration and nothing else. -/
theorem behaviour_eq {context : AgentContext Shop} {guest : Guest}
    (hClient : context.shared.client = some client) :
    behaviour context guest =
      checkoutIteration client context.config.channel
        (guestEmail context.index context.iteration) context.config.thinkTime
        (sourceOf context guest) >>= fun result ↦ .done (some result.2, .ok) := by
  unfold behaviour
  rw [hClient]
  rfl

theorem pass_of_behaviour {context : AgentContext Shop} {guest left : Guest} {ending : Ending}
    (hClient : context.shared.client = some client)
    (h : (behaviour context guest).Yields talk (.done (left, ending))) :
    ∃ outcome source, left = some source ∧ ending = .ok ∧
      Pass client context.config.channel (guestEmail context.index context.iteration)
        (sourceOf context guest) talk outcome source := by
  rw [behaviour_eq hClient] at h
  obtain ⟨first, second, ⟨outcome, source⟩, rfl, hIteration, hDone⟩ := Program.yields_bind_done h
  obtain ⟨rfl, hResult⟩ := Program.yields_done_iff.1 hDone
  obtain ⟨rfl, rfl⟩ := Prod.mk.inj (Program.done.inj hResult)
  rw [List.append_nil]
  exact ⟨outcome, source, rfl, rfl, pass_of_yields hIteration⟩

theorem isSilent_seedAgent (context : AgentContext Shop) (guest : Guest) :
    (seedAgent context guest).IsSilent :=
  Program.isSilent_done _

theorem isSilent_configureClient (config : RunConfig) (shop : Shop) :
    (configureClient config shop).IsSilent := by
  unfold configureClient
  split
  · exact Program.isSilent_done _
  · exact Program.isSilent_step rfl fun _ ↦ Program.isSilent_done _

/-- A setup that went well has connected the client and otherwise only written to the log. -/
theorem configured {σ : Type} {network : Network σ} {config : RunConfig} {shop shared : Shop}
    {w after : World σ}
    (h : Run.callHook network config .setup (some configureClient) shop w =
      some ((shared, .ok), after)) :
    ∃ client, Client.connect config.targetUrl = .ok client ∧
      shared = { shop with client := some client } ∧ w.Murmurs after := by
  unfold Run.callHook configureClient at h
  cases hConnect : Client.connect config.targetUrl with
  | error trouble =>
    simp only [hConnect] at h
    cases h
  | ok client =>
    simp only [hConnect] at h
    obtain ⟨hShared, hAfter⟩ := Prod.mk.inj (Option.some.inj h)
    refine ⟨client, rfl, (Prod.mk.inj hShared).1.symm, ?_⟩
    rw [← hAfter]
    exact (World.Murmurs.called rfl w).trans (World.Murmurs.log _ _)

end StorefrontLoad.GuestCheckout
