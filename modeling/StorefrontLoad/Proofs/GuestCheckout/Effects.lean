import StorefrontLoad.Proofs.GuestCheckout.Iteration
import StorefrontLoad.Proofs.Storefront.Rejection

/-!
# The effects of one iteration

An iteration sends requests, counts outcomes, writes to the log, draws from a source and gives an
outcome. All of these follow from what the storefront answers, so they tell the same story on every
branch.
-/

namespace StorefrontLoad.GuestCheckout

open Run (Program World)
open Storefront

variable {σ : Type}

/-- Why an iteration created no checkout. -/
def IterationOutcome.failure? : IterationOutcome → Option StepFailure
  | checkoutCreated _ => none
  | checkoutFailed failure | catalogUnavailable failure => some failure

/-- Whether somebody should look into it: the line is a warning or an error. -/
def isAlarm (line : LogLine) : Bool := line.isShownAt .warn

theorem isAlarm_failureLine (step email : String) (failure : StepFailure) :
    isAlarm (failureLine step email failure) = true := by
  cases failure with
  | transport fault => cases fault <;> rfl
  | parse | noUsableData | business => rfl

theorem severity_failureLine (step email : String) (failure : StepFailure) :
    (failureLine step email failure).severity =
      if failure.kind = .noUsableData ∨ failure.kind = .businessFailure then .warn else .error := by
  cases failure with
  | transport fault => cases fault <;> rfl
  | parse | noUsableData | business => rfl

/-- What an iteration has done, by what the storefront answered: `page` to the catalog query, where
`choice` was made from it, and `reply` to the mutation if it was sent. -/
structure Effects (channel email : String) (w after : World σ) (page : Delivery)
    (choice : Except StepFailure Selection) (reply : Option Delivery)
    (outcome : IterationOutcome) : Prop where
  /-- The catalog is asked for first, and a checkout only for what was chosen from it. -/
  requests : after.requests = w.requests ++
    ⟨Request.productsQuery, some (.ofMembers [("channel", .string channel)])⟩ ::
      match choice with
      | .ok selection => [⟨Request.checkoutMutation, some (.ofMembers [
          ("channel", .string channel), ("variantId", .string selection.variantId),
          ("email", .string email)])⟩]
      | .error _ => []
  /-- One record of the catalog step. -/
  catalog : after.counters.steps.find? Client.catalogStep =
    some (((w.counters.steps.find? Client.catalogStep).getD .fresh).record (kindOf choice)
      page.latency)
  /-- One record of the checkout step if it was tried; else it is not even there. -/
  checkout : after.counters.steps.find? Client.checkoutStep =
    match reply with
    | some delivery =>
      some (((w.counters.steps.find? Client.checkoutStep).getD .fresh).record
        (kindOf (Client.checkoutIdOf delivery.answer)) delivery.latency)
    | none => w.counters.steps.find? Client.checkoutStep
  others : ∀ name, name ≠ Client.catalogStep → name ≠ Client.checkoutStep →
    after.counters.steps.find? name = w.counters.steps.find? name
  iterations : after.counters.iterations = w.counters.iterations
  created : ∀ id, outcome = .checkoutCreated id ↔
    ∃ delivery, reply = some delivery ∧ Client.checkoutIdOf delivery.answer = .ok id
  failed : ∀ failure, outcome = .checkoutFailed failure ↔
    ∃ delivery, reply = some delivery ∧ Client.checkoutIdOf delivery.answer = .error failure
  unavailable : ∀ failure, outcome = .catalogUnavailable failure ↔ choice = .error failure
  /-- One alarm for a failure and none for a checkout. -/
  alarms : ∃ lines, after.lines = w.lines ++ lines ∧
    (lines.filter isAlarm).map LogLine.severity = (outcome.failure?.map fun failure ↦
      if failure.kind = .noUsableData ∨ failure.kind = .businessFailure then .warn
      else .error).toList

/-- The line that an attempt of a checkout leaves in the log. -/
def checkoutLine (email : String) : Except StepFailure String → LogLine
  | .ok id => .trace s!"Created checkout {id} for {email}"
  | .error failure => failureLine "Checkout" email failure

section Parts

variable {network : Network σ} {client : Client} {channel variantId email : String} {w : World σ}

theorem complete_checkOut {result : Except StepFailure String}
    (hResult : Client.checkoutIdOf (network.deliver client.target
      (.checkout channel variantId email) w.network).1.answer = result) :
    (checkOut client channel variantId email).complete network w =
      some (outcomeOf result, (tried network client.target (.checkout channel variantId email)
        Client.checkoutStep (fun answer ↦ kindOf (Client.checkoutIdOf answer)) w).log
          (checkoutLine email result)) := by
  unfold checkOut
  rw [Client.createCheckout_eq, Program.complete_bind, complete_stepProgram, Option.bind_some,
    hResult]
  cases result with
  | ok id => rfl
  | error failure => rfl

theorem outcomeOf_eq_created_iff {result : Except StepFailure String} {id : String} :
    outcomeOf result = .checkoutCreated id ↔ result = .ok id := by
  cases result <;> simp [outcomeOf]

theorem outcomeOf_eq_failed_iff {result : Except StepFailure String} {failure : StepFailure} :
    outcomeOf result = .checkoutFailed failure ↔ result = .error failure := by
  cases result <;> simp [outcomeOf]

theorem outcomeOf_ne_unavailable {result : Except StepFailure String} {failure : StepFailure} :
    outcomeOf result ≠ .catalogUnavailable failure := by
  cases result <;> simp [outcomeOf]

/-- Only a failure is an alarm. -/
theorem alarms_checkoutLine (result : Except StepFailure String) :
    ([checkoutLine email result].filter isAlarm).map LogLine.severity =
      ((outcomeOf result).failure?.map fun failure ↦
        if failure.kind = .noUsableData ∨ failure.kind = .businessFailure then Severity.warn
        else .error).toList := by
  cases result with
  | ok id => rfl
  | error failure =>
    have hAlarm : isAlarm (checkoutLine email (.error failure)) = true :=
      isAlarm_failureLine ..
    rw [List.filter_cons_of_pos hAlarm]
    exact congrArg (fun severity ↦ [severity]) (severity_failureLine ..)

end Parts

/-- The world after the catalog query of an iteration. -/
def asked (network : Network σ) (client : Client) (channel : String) (source : Random.Source)
    (w : World σ) : World σ :=
  tried network client.target (.products channel) Client.catalogStep
    (fun answer ↦ kindOf (Client.selectionOf answer source).1) w

section Whole

variable {network : Network σ} {client : Client} {channel email : String}
  {source : Random.Source} {w : World σ}

theorem find?_steps_asked (name : String) :
    (asked network client channel source w).counters.steps.find? name =
      let page := (network.deliver client.target (.products channel) w.network).1
      if Client.catalogStep = name then
        some (((w.counters.steps.find? Client.catalogStep).getD .fresh).record
          (kindOf (Client.selectionOf page.answer source).1) page.latency)
      else w.counters.steps.find? name :=
  find?_steps_tried name

/-- An iteration asks for the catalog and goes on with what it chose from it. -/
theorem complete_checkoutIteration (thinkTime : Duration) :
    let page := (network.deliver client.target (.products channel) w.network).1
    let chosen := Client.selectionOf page.answer source
    (checkoutIteration client channel email thinkTime source).complete network w =
      ((afterCatalog client channel email chosen.1).complete network
        (asked network client channel source w)).map
          fun (outcome, after) ↦ ((outcome, chosen.2), after) := by
  intro page chosen
  have hFetch : (client.fetchCatalog channel source).complete network w =
      some (chosen, asked network client channel source w) := by
    rw [Client.fetchCatalog_eq]
    exact complete_stepProgram ..
  unfold checkoutIteration
  rw [Program.complete_bind, hFetch, Option.bind_some]
  simp only [Program.complete_bind]
  cases (afterCatalog client channel email chosen.1).complete network
      (asked network client channel source w) with
  | none => rfl
  | some result => rfl

/-- Without a choice nothing comes after the query but a line in the log. -/
theorem effects_of_error {failure : StepFailure}
    (hChoice : (Client.selectionOf
      (network.deliver client.target (.products channel) w.network).1.answer source).1 =
        .error failure) :
    Effects channel email w
      ((asked network client channel source w).log (failureLine "Catalog" email failure))
      (network.deliver client.target (.products channel) w.network).1 (.error failure) none
      (.catalogUnavailable failure) where
  requests := by
    rw [World.requests_log]
    exact requests_tried
  catalog := by rw [World.counters_log, find?_steps_asked, if_pos rfl, hChoice]
  checkout := by rw [World.counters_log, find?_steps_asked, if_neg steps_ne]
  others name hCatalog _ := by rw [World.counters_log, find?_steps_asked, if_neg hCatalog.symm]
  iterations := rfl
  created := by simp
  failed := by simp
  unavailable := by simp [@eq_comm _ failure]
  alarms := by
    refine ⟨[failureLine "Catalog" email failure], ?_, ?_⟩
    · rw [World.lines_log]
      exact congrArg (· ++ _) lines_tried
    · rw [List.filter_cons_of_pos (isAlarm_failureLine ..)]
      exact congrArg (fun severity ↦ [severity]) (severity_failureLine ..)

/-- With a choice one checkout is tried, and its result is the outcome. -/
theorem effects_of_ok {selection : Selection}
    (hChoice : (Client.selectionOf
      (network.deliver client.target (.products channel) w.network).1.answer source).1 =
        .ok selection) :
    let delivered := (network.deliver client.target (.checkout channel selection.variantId email)
      (asked network client channel source w).network).1
    Effects channel email w
      ((tried network client.target (.checkout channel selection.variantId email)
        Client.checkoutStep (fun answer ↦ kindOf (Client.checkoutIdOf answer))
        (asked network client channel source w)).log
          (checkoutLine email (Client.checkoutIdOf delivered.answer)))
      (network.deliver client.target (.products channel) w.network).1 (.ok selection)
      (some delivered) (outcomeOf (Client.checkoutIdOf delivered.answer)) where
  requests := by
    rw [World.requests_log, requests_tried, asked, requests_tried, List.append_assoc]
    rfl
  catalog := by
    rw [World.counters_log, find?_steps_tried, if_neg steps_ne.symm, find?_steps_asked,
      if_pos rfl, hChoice]
  checkout := by
    rw [World.counters_log, find?_steps_tried, if_pos rfl, find?_steps_asked, if_neg steps_ne]
  others name hCatalog hCheckout := by
    rw [World.counters_log, find?_steps_tried, if_neg hCheckout.symm, find?_steps_asked,
      if_neg hCatalog.symm]
  iterations := rfl
  created := by simp [outcomeOf_eq_created_iff]
  failed := by simp [outcomeOf_eq_failed_iff]
  unavailable := by simp [outcomeOf_ne_unavailable]
  alarms := by
    refine ⟨[checkoutLine email (Client.checkoutIdOf _)], ?_, alarms_checkoutLine _⟩
    rw [World.lines_log, lines_tried, asked, lines_tried]

end Whole

/-- Whatever the storefront answers, one iteration comes to its end, and its requests, its records,
its outcome, its log lines and the source it leaves are those of the same story. -/
theorem consistent_effects (network : Network σ) (client : Client) (channel email : String)
    (thinkTime : Duration) (source : Random.Source) (w : World σ) :
    let page := network.deliver client.target (.products channel) w.network
    let chosen := Client.selectionOf page.1.answer source
    let reply := chosen.1.toOption.map fun selection ↦
      (network.deliver client.target (.checkout channel selection.variantId email) page.2).1
    ∃ outcome after,
      (checkoutIteration client channel email thinkTime source).complete network w =
        some ((outcome, chosen.2), after) ∧
      Effects channel email w after page.1 chosen.1 reply outcome := by
  intro page chosen reply
  rw [complete_checkoutIteration]
  cases hChoice : chosen.1 with
  | error failure =>
    have hReply : reply = none := by
      simp only [reply, hChoice]
      rfl
    rw [hReply]
    exact ⟨_, _, rfl, effects_of_error hChoice⟩
  | ok selection =>
    have hReply : reply = some (network.deliver client.target
        (.checkout channel selection.variantId email) page.2).1 := by
      simp only [reply, hChoice]
      rfl
    rw [hReply, afterCatalog, complete_checkOut rfl]
    exact ⟨_, _, rfl, effects_of_ok hChoice⟩

/-! ## Rejections in the log -/

/-- When a checkout is refused, one line is written behind what the step has done. Whatever the
storefront said, the list in the line holds no control character, and reading it back gives what was
said. -/
theorem rejection_logged {network : Network σ} {client : Client}
    {channel variantId email : String} {w after : World σ} {rejections : List Rejection}
    (h : (client.createCheckout channel variantId email).complete network w =
      some (.error (.business rejections), after)) :
    ∃ json : String,
      (checkOut client channel variantId email).complete network w =
        some (.checkoutFailed (.business rejections),
          after.log (.warn (s!"Checkout rejected for {email}: " ++ json))) ∧
      Json.NoControl json.toList ∧ Rejection.listOfText json.toList = .ok rejections := by
  rw [Client.createCheckout_eq, complete_stepProgram] at h
  obtain ⟨hResult, rfl⟩ := Prod.mk.inj (Option.some.inj h)
  refine ⟨String.ofList (Rejection.listText rejections), complete_checkOut hResult, ?_, ?_⟩
  · rw [String.toList_ofList]
    exact Rejection.noControl_listText rejections
  · rw [String.toList_ofList]
    exact Rejection.listOfText_listText rejections

namespace Refusal

/-- Refuses with a quotation mark, a line break, a control character and a character of two
surrogates in its texts, and with a reason that says nothing. -/
def body : String :=
  "\x7b\"data\":\x7b\"checkoutCreate\":\x7b\"errors\":[\x7b\"field\":\"\\\"\\r\\n\"," ++
    "\"message\":\"\\u0001\\ud83d\\ude00\"\x7d,null]\x7d\x7d\x7d"

def rejections : List Rejection :=
  [⟨some "\"\r\n", some "\x01😀", none⟩, ⟨none, none, none⟩]

def client : Client := ⟨⟨['a'], none, .opaqueText [], none, none⟩⟩

theorem checkoutIdOf_body : Client.checkoutIdOf (.ok body) = .error (.business rejections) := by
  decide +kernel

end Refusal

/-- The line breaks of the storefront do not break the line, and nothing of them is lost. -/
theorem rejection_logged_unruly : ∃ after : World (List Answer), ∃ json : String,
    (checkOut Refusal.client "c" "v" "g").complete Network.scripted (.fresh [.ok Refusal.body]) =
      some (.checkoutFailed (.business Refusal.rejections),
        after.log (.warn (s!"Checkout rejected for g: " ++ json))) ∧
    Json.NoControl json.toList ∧ Rejection.listOfText json.toList = .ok Refusal.rejections := by
  have hStep : (Refusal.client.createCheckout "c" "v" "g").complete Network.scripted
      (.fresh [.ok Refusal.body]) = some (Client.checkoutIdOf (.ok Refusal.body),
        tried Network.scripted Refusal.client.target (.checkout "c" "v" "g") Client.checkoutStep
          (fun answer ↦ kindOf (Client.checkoutIdOf answer)) (.fresh [.ok Refusal.body])) :=
    complete_stepProgram ..
  rw [Refusal.checkoutIdOf_body] at hStep
  exact ⟨_, rejection_logged hStep⟩

end StorefrontLoad.GuestCheckout
