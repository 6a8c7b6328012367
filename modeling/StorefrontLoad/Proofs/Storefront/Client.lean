import StorefrontLoad.Proofs.Run.Completion
import StorefrontLoad.Proofs.Run.Ledger
import StorefrontLoad.Storefront.Client

/-!
# What a client says

Both steps of a client hold the same conversation: one request, then one record under the step's own
name. Cut off anywhere, a step has said a part of it. Where nobody cuts it off, the answer has been
judged at its end, and the world has met its request and its record.
-/

namespace StorefrontLoad.Storefront

open Json (Value)
open Run (Program Exchange World)

/-! ## Documents -/

/-- The answer is the text of a document. -/
def Shows (answer : Answer) (document : Value) : Prop :=
  ∃ body, answer = .ok body ∧ Value.ofText body = .ok document

/-- There is a string at the path. -/
def HasText (document : Value) (path : String) : Prop :=
  ∃ text, document.lookup path = .found (.string text)

theorem Shows.unique {answer : Answer} {document other : Value} (h : Shows answer document)
    (h' : Shows answer other) : other = document := by
  obtain ⟨body, rfl, hText⟩ := h
  obtain ⟨_, hBody, hText'⟩ := h'
  cases hBody
  rw [hText] at hText'
  cases hText'
  rfl

theorem not_shows_error {fault : TransportFault} {document : Value} :
    ¬ Shows (.error fault) document := by
  rintro ⟨body, hBody, _⟩
  cases hBody

/-! ## Conversations -/

/-- The conversation of one step. -/
def stepTalk (target : Url) (request : Request) (name : String) (kind : OutcomeKind)
    (delivery : Delivery) : List Exchange :=
  [⟨.post target request, delivery⟩, ⟨.record name kind delivery.latency, ()⟩]

section StepTalk

variable {target : Url} {request : Request} {name : String} {kind : OutcomeKind}
  {delivery : Delivery}

theorem tally_stepTalk (step : String) (k : OutcomeKind) :
    Exchange.tally (stepTalk target request name kind delivery) step k =
      if name = step ∧ kind = k then 1 else 0 := by
  simp [Exchange.tally, stepTalk, Exchange.records, List.countP_cons]

theorem attempts_stepTalk (step : String) :
    (Exchange.tally (stepTalk target request name kind delivery) step).attempts =
      if name = step then 1 else 0 := by
  simp only [StepTally.attempts, tally_stepTalk]
  by_cases hName : name = step
  · cases kind <;> simp [hName]
  · simp [hName]

theorem requests_stepTalk :
    Exchange.requests (stepTalk target request name kind delivery) = [request] := rfl

/-- A step that is cut off has been counted once or not yet. -/
theorem attempts_le_of_prefix {talk : List Exchange}
    (h : talk <+: stepTalk target request name kind delivery) (step : String) :
    (Exchange.tally talk step).attempts ≤ if name = step then 1 else 0 := by
  have hTally : ∀ k, Exchange.tally talk step k ≤
      Exchange.tally (stepTalk target request name kind delivery) step k := fun k ↦
    h.sublist.countP_le
  rw [← attempts_stepTalk]
  unfold StepTally.attempts
  gcongr <;> exact hTally _

end StepTalk

/-- The program of one step: the answer is judged, and the judgement is counted. -/
def stepProgram {α : Type} (target : Url) (request : Request) (name : String)
    (kind : α → OutcomeKind) (judge : Answer → α) : Program α := do
  let delivery ← Program.post target request
  let result := judge delivery.answer
  Program.record name (kind result) delivery.latency
  return result

section StepProgram

variable {α : Type} {target : Url} {request : Request} {name : String} {kind : α → OutcomeKind}
  {judge : Answer → α} {talk : List Exchange}

/-- Any answer can be given to a step. -/
theorem yields_stepTalk (target : Url) (request : Request) (name : String)
    (kind : α → OutcomeKind) (judge : Answer → α) (delivery : Delivery) :
    (stepProgram target request name kind judge).Yields
      (stepTalk target request name (kind (judge delivery.answer)) delivery)
      (.done (judge delivery.answer)) := by
  have hPost : (Program.post target request).Yields [⟨.post target request, delivery⟩]
      (.done delivery) := Program.yields_perform_done_iff.2 rfl
  have hRecord : (Program.record name (kind (judge delivery.answer)) delivery.latency).Yields
      [⟨.record name (kind (judge delivery.answer)) delivery.latency, ()⟩] (.done ()) :=
    Program.yields_perform_done_iff.2 rfl
  exact hPost.bind (hRecord.bind (.refl _))

theorem yields_stepProgram_done {result : α}
    (h : (stepProgram target request name kind judge).Yields talk (.done result)) :
    ∃ delivery, result = judge delivery.answer ∧
      talk = stepTalk target request name (kind result) delivery := by
  obtain ⟨first, second, delivery, rfl, hPost, hRest⟩ := Program.yields_bind_done h
  obtain ⟨third, fourth, reply, rfl, hRecord, hDone⟩ := Program.yields_bind_done hRest
  obtain ⟨rfl, hResult⟩ := Program.yields_done_iff.1 hDone
  obtain rfl := Program.yields_perform_done_iff.1 hPost
  obtain rfl := Program.yields_perform_done_iff.1 hRecord
  obtain rfl := Program.done.inj hResult
  exact ⟨delivery, rfl, rfl⟩

theorem yields_stepProgram {rest : Program α}
    (h : (stepProgram target request name kind judge).Yields talk rest) :
    ∃ delivery, talk <+:
      stepTalk target request name (kind (judge delivery.answer)) delivery := by
  rcases Program.yields_step_iff.1 h with ⟨rfl, _⟩ | ⟨delivery, tail, rfl, hRecord⟩
  · exact ⟨⟨.ok "", .zero⟩, List.nil_prefix⟩
  · refine ⟨delivery, ?_⟩
    rcases Program.yields_step_iff.1 hRecord with ⟨rfl, _⟩ | ⟨reply, tail, rfl, hDone⟩
    · exact ⟨[_], rfl⟩
    · obtain ⟨rfl, _⟩ := Program.yields_done_iff.1 hDone
      exact ⟨[], rfl⟩

end StepProgram

/-! ## Whole steps -/

/-- The world after one step of a client: the request has been answered and its outcome counted. -/
def tried {σ : Type} (network : Network σ) (target : Url) (request : Request) (name : String)
    (kind : Answer → OutcomeKind) (w : World σ) : World σ :=
  let delivery := (network.deliver target request w.network).1
  { counters := w.counters.record name (kind delivery.answer) delivery.latency
    stopRequested := w.stopRequested
    network := (network.deliver target request w.network).2
    history := .posted none request :: w.history }

section Tried

variable {σ α : Type} {network : Network σ} {target : Url} {request : Request} {name : String}
  {kind : Answer → OutcomeKind} {w : World σ}

/-- A step of a client always comes to its end. -/
theorem complete_stepProgram (judge : Answer → α) (kindOf : α → OutcomeKind) :
    (stepProgram target request name kindOf judge).complete network w =
      some (judge (network.deliver target request w.network).1.answer,
        tried network target request name (fun answer ↦ kindOf (judge answer)) w) := rfl

theorem requests_tried :
    (tried network target request name kind w).requests = w.requests ++ [request] := by
  have hPosts := World.posts_note (.posted none request) w
  exact (congrArg (List.map Prod.snd) hPosts).trans List.map_append

theorem lines_tried : (tried network target request name kind w).lines = w.lines :=
  (World.lines_note (.posted none request) w).trans (List.append_nil _)

theorem find?_steps_tried (step : String) :
    (tried network target request name kind w).counters.steps.find? step =
      let delivery := (network.deliver target request w.network).1
      if name = step then
        some (((w.counters.steps.find? name).getD .fresh).record (kind delivery.answer)
          delivery.latency)
      else w.counters.steps.find? step :=
  Counters.find?_steps_record ..

end Tried

namespace Client

theorem fetchCatalog_eq (client : Client) (channel : String) (source : Random.Source) :
    client.fetchCatalog channel source =
      stepProgram client.target (.products channel) catalogStep (fun result ↦ kindOf result.1)
        (selectionOf · source) := rfl

theorem createCheckout_eq (client : Client) (channel variantId email : String) :
    client.createCheckout channel variantId email =
      stepProgram client.target (.checkout channel variantId email) checkoutStep kindOf
        checkoutIdOf := rfl

end Client

end StorefrontLoad.Storefront
