import StorefrontLoad.Proofs.Json.Path
import StorefrontLoad.Proofs.Storefront.Client

/-!
# What an answer to the checkout mutation comes to

An identifier decides alone. Without one, every entry of the two lists of errors becomes one
rejection, whatever its shape, and a part of a rejection is the string at its path or nothing. All
paths are paths from the root of the document.
-/

namespace StorefrontLoad.Storefront

open Json (Value elementPath)
open Run (World)

/-! ## Documents -/

/-- The list at a path. What is no list has no elements. -/
inductive ListAt (document : Value) (path : String) : List Value → Prop
  | found {items : List Value} (h : document.lookup path = .found (.array items)) :
      ListAt document path items
  | none (h : ∀ items, document.lookup path ≠ .found (.array items)) : ListAt document path []

/-- The string at a path, if there is one. -/
def TextAt (document : Value) (path : String) (part : Option String) : Prop :=
  ∀ text, part = some text ↔ document.lookup path = .found (.string text)

def checkoutIdPath : String := "data.checkoutCreate.checkout.id"

def mutationErrorsPath : String := "data.checkoutCreate.errors"

def responseErrorsPath : String := "errors"

/-- The rejection tells what the error of the mutation at a place says. -/
structure TellsMutationError (document : Value) (place : Nat) (rejection : Rejection) : Prop where
  field : TextAt document (elementPath mutationErrorsPath place "field") rejection.field
  message : TextAt document (elementPath mutationErrorsPath place "message") rejection.message
  code : TextAt document (elementPath mutationErrorsPath place "code") rejection.code

/-- The rejection tells what the error of the response at a place says. -/
structure TellsResponseError (document : Value) (place : Nat) (rejection : Rejection) : Prop where
  field : rejection.field = none
  message : TextAt document (elementPath responseErrorsPath place "message") rejection.message
  code : TextAt document (elementPath responseErrorsPath place "extensions.code") rejection.code

/-- The rejections tell of so many errors of the mutation, then of so many of the response, each of
them once and in order. -/
structure TellsErrors (document : Value) (ofMutation ofResponse : Nat)
    (rejections : List Rejection) : Prop where
  length : rejections.length = ofMutation + ofResponse
  mutation : ∀ i < ofMutation, ∃ rejection, rejections[i]? = some rejection ∧
    TellsMutationError document i rejection
  response : ∀ i < ofResponse, ∃ rejection, rejections[ofMutation + i]? = some rejection ∧
    TellsResponseError document i rejection

/-- What the checkout step returns for an answer. -/
structure Concludes (answer : Answer) (result : Except StepFailure String) : Prop where
  transport : ∀ fault, result = .error (.transport fault) ↔ answer = .error fault
  created : ∀ id, result = .ok id ↔
    ∃ document, Shows answer document ∧ document.lookup checkoutIdPath = .found (.string id)
  business : ∀ rejections, result = .error (.business rejections) ↔
    ∃ document ofMutation ofResponse, Shows answer document ∧
      ¬ HasText document checkoutIdPath ∧ ListAt document mutationErrorsPath ofMutation ∧
      ListAt document responseErrorsPath ofResponse ∧ (ofMutation ≠ [] ∨ ofResponse ≠ []) ∧
      TellsErrors document ofMutation.length ofResponse.length rejections
  parse : (∃ reason, result = .error (.parse reason)) ↔
    (∃ body, answer = .ok body ∧ ∀ document, ¬ Shows answer document) ∨
    ∃ document, Shows answer document ∧ ¬ HasText document checkoutIdPath ∧
      ListAt document mutationErrorsPath [] ∧ ListAt document responseErrorsPath []
  usable : result ≠ .error .noUsableData

/-! ## Reading the lists of errors -/

section Parts

variable {document item : Value} {path : String} {items others : List Value} {place : Nat}

theorem elements_of_listAt (h : ListAt document path items) :
    CheckoutResponse.elements document path = items := by
  unfold CheckoutResponse.elements Value.extract
  cases h with
  | found hFound =>
    rw [hFound]
    rfl
  | none hNone =>
    cases hLookup : document.lookup path with
    | missing | null | typeMismatch => rfl
    | found v =>
      cases v with
      | array items => exact absurd hLookup (hNone items)
      | null | bool | number | string | object => rfl

theorem listAt_elements (document : Value) (path : String) :
    ListAt document path (CheckoutResponse.elements document path) := by
  by_cases hFound : ∃ items, document.lookup path = .found (.array items)
  · obtain ⟨items, hItems⟩ := hFound
    rw [elements_of_listAt (.found hItems)]
    exact .found hItems
  · have hNone := not_exists.1 hFound
    rw [elements_of_listAt (.none hNone)]
    exact .none hNone

/-- A list with an element has been found. -/
theorem ListAt.lookup_eq (h : ListAt document path items) (hItem : items[place]? = some item) :
    document.lookup path = .found (.array items) := by
  cases h with
  | found hFound => exact hFound
  | none hNone => cases hItem

theorem textAt_iff {part : Option String} :
    TextAt document path part ↔ part = document.extractString path := by
  constructor
  · intro h
    refine Option.ext fun text ↦ ?_
    rw [h text, Value.extractString_eq_some_iff]
  · rintro rfl text
    exact Value.extractString_eq_some_iff

/-- A string of an element is the same string of the document. -/
theorem textAt_element_iff (h : ListAt document path items) (hItem : items[place]? = some item)
    {rest : String} {part : Option String} :
    TextAt document (elementPath path place rest) part ↔ part = item.extractString rest := by
  rw [← textAt_iff]
  exact forall_congr' fun text ↦
    iff_congr Iff.rfl (Value.lookup_element_eq_found_iff (h.lookup_eq hItem) hItem rest)

theorem tellsMutationError_iff (h : ListAt document mutationErrorsPath items)
    (hItem : items[place]? = some item) {rejection : Rejection} :
    TellsMutationError document place rejection ↔
      rejection = Rejection.ofMutationError item := by
  constructor
  · rintro ⟨hField, hMessage, hCode⟩
    rw [textAt_element_iff h hItem] at hField hMessage hCode
    cases rejection
    simp_all [Rejection.ofMutationError]
  · rintro rfl
    exact ⟨(textAt_element_iff h hItem).2 rfl, (textAt_element_iff h hItem).2 rfl,
      (textAt_element_iff h hItem).2 rfl⟩

theorem tellsResponseError_iff (h : ListAt document responseErrorsPath items)
    (hItem : items[place]? = some item) {rejection : Rejection} :
    TellsResponseError document place rejection ↔
      rejection = Rejection.ofTopLevelError item := by
  constructor
  · rintro ⟨hField, hMessage, hCode⟩
    rw [textAt_element_iff h hItem] at hMessage hCode
    cases rejection
    simp_all [Rejection.ofTopLevelError]
  · rintro rfl
    exact ⟨rfl, (textAt_element_iff h hItem).2 rfl, (textAt_element_iff h hItem).2 rfl⟩

end Parts

section Errors

variable {document : Value} {ofMutation ofResponse : List Value} {rejections : List Rejection}

/-- Two lists of rejections that tell of the same errors are the same. -/
theorem TellsErrors.eq_append (hMutation : ListAt document mutationErrorsPath ofMutation)
    (hResponse : ListAt document responseErrorsPath ofResponse)
    (h : TellsErrors document ofMutation.length ofResponse.length rejections) :
    rejections = ofMutation.map Rejection.ofMutationError ++
      ofResponse.map Rejection.ofTopLevelError := by
  -- A place holds an error of the mutation, or one of the response, or lies behind both lists.
  refine List.ext_getElem? fun i ↦ ?_
  rcases lt_or_ge i ofMutation.length with hLt | hLe
  · obtain ⟨rejection, hAt, hTells⟩ := h.mutation i hLt
    have hItem := List.getElem?_eq_getElem hLt
    rw [hAt, List.getElem?_append_left (by simpa using hLt), List.getElem?_map, hItem,
      (tellsMutationError_iff hMutation hItem).1 hTells]
    rfl
  · obtain ⟨j, rfl⟩ := Nat.exists_eq_add_of_le hLe
    rw [List.getElem?_append_right (by simp), List.length_map, Nat.add_sub_cancel_left,
      List.getElem?_map]
    rcases lt_or_ge j ofResponse.length with hLt | hPast
    · obtain ⟨rejection, hAt, hTells⟩ := h.response j hLt
      have hItem := List.getElem?_eq_getElem hLt
      rw [hAt, hItem, (tellsResponseError_iff hResponse hItem).1 hTells]
      rfl
    · rw [List.getElem?_eq_none hPast, List.getElem?_eq_none (by rw [h.length]; omega)]
      rfl

theorem tellsErrors_append (hMutation : ListAt document mutationErrorsPath ofMutation)
    (hResponse : ListAt document responseErrorsPath ofResponse) :
    TellsErrors document ofMutation.length ofResponse.length
      (ofMutation.map Rejection.ofMutationError ++
        ofResponse.map Rejection.ofTopLevelError) where
  length := by simp
  mutation i hLt := by
    have hItem := List.getElem?_eq_getElem hLt
    refine ⟨Rejection.ofMutationError ofMutation[i], ?_,
      (tellsMutationError_iff hMutation hItem).2 rfl⟩
    rw [List.getElem?_append_left (by simpa using hLt), List.getElem?_map, hItem]
    rfl
  response i hLt := by
    have hItem := List.getElem?_eq_getElem hLt
    refine ⟨Rejection.ofTopLevelError ofResponse[i], ?_,
      (tellsResponseError_iff hResponse hItem).2 rfl⟩
    rw [List.getElem?_append_right (by simp), List.length_map, Nat.add_sub_cancel_left,
      List.getElem?_map, hItem]
    rfl

theorem rejections_eq (hMutation : ListAt document mutationErrorsPath ofMutation)
    (hResponse : ListAt document responseErrorsPath ofResponse) :
    (CheckoutResponse.ofDocument document).rejections =
      ofMutation.map Rejection.ofMutationError ++ ofResponse.map Rejection.ofTopLevelError := by
  rw [← elements_of_listAt hMutation, ← elements_of_listAt hResponse]
  rfl

end Errors

/-! ## What a response comes to -/

namespace CheckoutResponse

variable {response : CheckoutResponse} {document : Value}

theorem result_eq_ok_iff {id : String} :
    response.result = .ok id ↔ response.checkoutId = some id := by
  rcases response with ⟨_ | _, _ | _⟩ <;> simp [result]

theorem result_eq_business_iff {rejections : List Rejection} :
    response.result = .error (.business rejections) ↔
      response.checkoutId = none ∧ response.rejections ≠ [] ∧ rejections = response.rejections := by
  rcases response with ⟨_ | _, _ | _⟩ <;> simp [result, eq_comm]

theorem result_eq_parse_iff :
    (∃ reason, response.result = .error (.parse reason)) ↔
      response.checkoutId = none ∧ response.rejections = [] := by
  rcases response with ⟨_ | _, _ | _⟩ <;> simp [result]

theorem result_ne_transport {fault : TransportFault} :
    response.result ≠ .error (.transport fault) := by
  rcases response with ⟨_ | _, _ | _⟩ <;> simp [result]

theorem result_ne_noUsableData : response.result ≠ .error .noUsableData := by
  rcases response with ⟨_ | _, _ | _⟩ <;> simp [result]

theorem checkoutId_eq_some_iff {id : String} :
    (ofDocument document).checkoutId = some id ↔
      document.lookup checkoutIdPath = .found (.string id) :=
  Value.extractString_eq_some_iff

theorem checkoutId_eq_none_iff :
    (ofDocument document).checkoutId = none ↔ ¬ HasText document checkoutIdPath :=
  Value.extractString_eq_none_iff.trans not_exists.symm

end CheckoutResponse

namespace Concludes

theorem of_fault (fault : TransportFault) :
    Concludes (.error fault) (.error (.transport fault)) where
  transport other := by simp
  created id := by simp [not_shows_error]
  business rejections := by simp [not_shows_error]
  parse := by simp [not_shows_error]
  usable := by simp

theorem of_noDocument {body : String} (h : ∀ document, ¬ Shows (.ok body) document)
    (reason : String) : Concludes (.ok body) (.error (.parse reason)) where
  transport fault := by simp
  created id := by simp [h]
  business rejections := by simp [h]
  parse := by simp [h]
  usable := by simp

theorem of_document {answer : Answer} {document : Value} (hShows : Shows answer document) :
    Concludes answer (CheckoutResponse.ofDocument document).result where
  transport fault := by
    refine iff_of_false CheckoutResponse.result_ne_transport ?_
    rintro rfl
    exact not_shows_error hShows
  created id := by
    rw [CheckoutResponse.result_eq_ok_iff, CheckoutResponse.checkoutId_eq_some_iff]
    refine ⟨fun h ↦ ⟨document, hShows, h⟩, ?_⟩
    rintro ⟨other, hOther, h⟩
    exact hOther.unique hShows ▸ h
  business rejections := by
    rw [CheckoutResponse.result_eq_business_iff, CheckoutResponse.checkoutId_eq_none_iff]
    constructor
    · rintro ⟨hId, hSome, rfl⟩
      have hMutation := listAt_elements document mutationErrorsPath
      have hResponse := listAt_elements document responseErrorsPath
      rw [rejections_eq hMutation hResponse] at hSome ⊢
      refine ⟨document, _, _, hShows, hId, hMutation, hResponse, ?_,
        tellsErrors_append hMutation hResponse⟩
      simpa [← not_and_or] using hSome
    · rintro ⟨other, ofMutation, ofResponse, hOther, hId, hMutation, hResponse, hSome, hTells⟩
      obtain rfl := hShows.unique hOther
      have hRejections := rejections_eq hMutation hResponse
      refine ⟨hId, ?_, (hTells.eq_append hMutation hResponse).trans hRejections.symm⟩
      rw [hRejections]
      simpa [← not_and_or] using hSome
  parse := by
    rw [CheckoutResponse.result_eq_parse_iff, CheckoutResponse.checkoutId_eq_none_iff]
    constructor
    · rintro ⟨hId, hNone⟩
      have hMutation := listAt_elements document mutationErrorsPath
      have hResponse := listAt_elements document responseErrorsPath
      rw [rejections_eq hMutation hResponse, List.append_eq_nil_iff, List.map_eq_nil_iff,
        List.map_eq_nil_iff] at hNone
      rw [hNone.1] at hMutation
      rw [hNone.2] at hResponse
      exact .inr ⟨document, hShows, hId, hMutation, hResponse⟩
    · rintro (⟨body, _, hNone⟩ | ⟨other, hOther, hId, hMutation, hResponse⟩)
      · exact absurd hShows (hNone document)
      · obtain rfl := hShows.unique hOther
        exact ⟨hId, rejections_eq hMutation hResponse⟩
  usable := CheckoutResponse.result_ne_noUsableData

end Concludes

theorem concludes (answer : Answer) : Concludes answer (Client.checkoutIdOf answer) := by
  cases answer with
  | error fault => exact .of_fault fault
  | ok body =>
    cases hRead : Value.ofText body with
    | error e =>
      have hNone (document : Value) : ¬ Shows (.ok body) document := by
        rintro ⟨_, hBody, hText⟩
        cases hBody
        rw [hRead] at hText
        cases hText
      have hResult : Client.checkoutIdOf (.ok body) =
          .error (.parse ("checkout body is not JSON: " ++ e.message)) := by
        simp only [Client.checkoutIdOf, CheckoutResponse.ofBody, hRead]
        rfl
      rw [hResult]
      exact .of_noDocument hNone _
    | ok document =>
      have hResult : Client.checkoutIdOf (.ok body) =
          (CheckoutResponse.ofDocument document).result := by
        simp only [Client.checkoutIdOf, CheckoutResponse.ofBody, hRead]
        rfl
      rw [hResult]
      exact .of_document ⟨body, rfl, hRead⟩

/-- An error that says nothing is a rejection all the same. -/
example : Client.checkoutIdOf (.ok "\x7b\"errors\":[null]\x7d") =
    .error (.business [⟨none, none, none⟩]) := by decide +kernel

/-- Whatever the storefront answers to the checkout mutation, the step returns what the answer comes
to, and is counted once, as what it returns. -/
theorem checkout_classified {σ : Type} (network : Network σ) (client : Client)
    (channel variantId email : String) (w : World σ) :
    let reply := (network.deliver client.target (.checkout channel variantId email) w.network).1
    ∃ (result : Except StepFailure String) (after : World σ),
      (client.createCheckout channel variantId email).complete network w = some (result, after) ∧
      Concludes reply.answer result ∧
      ∀ name, after.counters.steps.find? name =
        if Client.checkoutStep = name then
          some (((w.counters.steps.find? Client.checkoutStep).getD .fresh).record (kindOf result)
            reply.latency)
        else w.counters.steps.find? name := by
  intro reply
  refine ⟨Client.checkoutIdOf reply.answer, tried network client.target
    (.checkout channel variantId email) Client.checkoutStep
    (fun answer ↦ kindOf (Client.checkoutIdOf answer)) w, ?_, concludes reply.answer,
    find?_steps_tried⟩
  rw [Client.createCheckout_eq, complete_stepProgram]

end StorefrontLoad.Storefront
