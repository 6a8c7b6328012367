import StorefrontLoad.Proofs.GuestCheckout.Iteration
import StorefrontLoad.Proofs.Json.Value
import StorefrontLoad.Proofs.Storefront.Catalog

/-!
# What reaches the storefront

A request is sent as the text of a document and read by whoever receives it. Reading undoes writing,
so the storefront gets the very strings that the client was given: no channel, variant or address
can break out of its place. The variant of a checkout comes out of another document, the catalog
page, and is the same string in both however the page has escaped it.
-/

namespace StorefrontLoad

namespace Storefront

open Json (Value ReadError)
open Json.Decoder (Reads)
open Run (Program Exchange)

/-! ## Requests -/

namespace Request

/-- The document that whoever reads the text of the request gets. -/
def readBack (r : Request) : Except ReadError Value := Value.ofText (String.ofList r.text)

theorem queries_ne : productsQuery ≠ checkoutMutation := by decide

/-- A request is read back when its variables are. -/
theorem readBack_eq (query : String) {v : Value} (h : Reads Json.value 126 v.text v) :
    readBack ⟨query, some v⟩ = .ok (.object [("query", .string query), ("variables", v)]) := by
  have hSorted : Dictionary.Sorted [("query", Value.string query), ("variables", v)] := by
    refine List.pairwise_pair.2 ?_
    change "query" < "variables"
    decide
  have hMembers : ∀ field ∈ [("query", Value.string query), ("variables", v)],
      Reads Json.value 126 field.2.text field.2 := by
    simp [h, Value.reads_string]
  have hText : (Value.object [("query", .string query), ("variables", v)]).text =
      text ⟨query, some v⟩ := by
    rw [Json.text_object, text]
    simp [Value.text]
  have hRead := (Value.reads_object hSorted hMembers).document
  rw [hText] at hRead
  rw [readBack, Value.ofText, String.toList_ofList, hRead]

theorem readBack_products (channel : String) : (products channel).readBack =
    .ok (.object [("query", .string productsQuery),
      ("variables", .object [("channel", .string channel)])]) := by
  have hMembers : Value.ofMembers [("channel", .string channel)] =
      .object [("channel", .string channel)] := rfl
  rw [products, hMembers]
  refine readBack_eq productsQuery (Value.reads_object (List.pairwise_singleton _ _) ?_)
  simp [Value.reads_string]

theorem readBack_checkout (channel variantId email : String) :
    (checkout channel variantId email).readBack =
      .ok (.object [("query", .string checkoutMutation),
        ("variables", .object [("channel", .string channel), ("email", .string email),
          ("variantId", .string variantId)])]) := by
  have hSorted : Dictionary.Sorted [("channel", Value.string channel), ("email", .string email),
      ("variantId", .string variantId)] := by
    obtain ⟨hEmail, hVariant, hLast⟩ :
        "channel" < "email" ∧ "channel" < "variantId" ∧ "email" < "variantId" := by decide
    refine .cons (List.forall_mem_cons.2 ⟨hEmail, List.forall_mem_singleton.2 hVariant⟩) ?_
    exact .cons (List.forall_mem_singleton.2 hLast) (List.pairwise_singleton _ _)
  have hMembers : Value.ofMembers [("channel", .string channel), ("variantId", .string variantId),
      ("email", .string email)] = .object [("channel", .string channel), ("email", .string email),
        ("variantId", .string variantId)] := rfl
  rw [checkout, hMembers]
  refine readBack_eq checkoutMutation (Value.reads_object hSorted ?_)
  simp [Value.reads_string]

end Request

/-! ## The page a variant comes from -/

/-- The identifier is that of the first variant of the edge which the source chooses among those
that the body of a catalog page lists. -/
def IsFirstVariant (body : String) (source : Random.Source) (variantId : String) : Prop :=
  ∃ document edges edge first more,
    Value.ofText body = .ok document ∧
    document.lookup "data.products.edges" = .found (.array edges) ∧
    (source.choose edges).1 = some edge ∧
    edge.lookup "node.variants" = .found (.array (first :: more)) ∧
    first.extractString "id" = some variantId

theorem exists_of_bind {ε α β : Type} {x : Except ε α} {next : α → Except ε β} {b : β}
    (h : x >>= next = .ok b) : ∃ a, x = .ok a ∧ next a = .ok b := by
  cases x with
  | error e => cases h
  | ok a => exact ⟨a, rfl, h⟩

theorem exists_of_map {ε α β : Type} {x : Except ε α} {f : α → β} {b : β}
    (h : x.map f = .ok b) : ∃ a, x = .ok a ∧ f a = b := by
  cases x with
  | error e => cases h
  | ok a => exact ⟨a, rfl, Except.ok.inj h⟩

/-- A product with a variant was read from an edge that lists this variant first. -/
theorem variants_of_ofEdge {edge : Value} {p : Product} (h : Product.ofEdge edge = .ok p)
    {variantId : String} {others : List String} (hIds : p.variantIds = variantId :: others) :
    ∃ first more, edge.lookup "node.variants" = .found (.array (first :: more)) ∧
      first.extractString "id" = some variantId := by
  unfold Product.ofEdge at h
  split at h
  · cases h
  · split at h
    · next variants hFound =>
      obtain ⟨ids, hRead, rfl⟩ := exists_of_map h
      obtain rfl : ids = variantId :: others := hIds
      rcases mapM_variantId _ variants with ⟨all, hAll, hEach⟩ | ⟨_, reason, hFail⟩
      · rw [hRead] at hAll
        cases hAll
        cases hEach with
        | @cons first _ more _ hFirst _ => exact ⟨first, more, hFound, hFirst⟩
      · rw [hRead] at hFail
        cases hFail
    · cases h
      cases hIds
    · cases h

/-- Whatever variant is chosen, it stands first at an edge of the page. -/
theorem isFirstVariant_of_ok {body : String} {source after : Random.Source} {selection : Selection}
    (h : Client.selectionOf (.ok body) source = (.ok selection, after)) :
    IsFirstVariant body source selection.variantId := by
  unfold Client.selectionOf at h
  dsimp only at h
  split at h
  · cases h
  · next edges hEdges =>
    obtain ⟨document, ⟨_, hBody, hText⟩, hFound⟩ := lists_of_edges hEdges
    cases hBody
    unfold selectVariant at h
    split at h
    · cases h
    · next edge left hChoose =>
      obtain ⟨p, hEdge, hSelect⟩ := exists_of_bind (congrArg Prod.fst h)
      unfold Product.select at hSelect
      split at hSelect
      · cases hSelect
      · next variantId others hIds =>
        cases hSelect
        obtain ⟨first, more, hVariants, hId⟩ := variants_of_ofEdge hEdge hIds
        exact ⟨document, edges, edge, first, more, hText, hFound, congrArg Prod.fst hChoose,
          hVariants, hId⟩

end Storefront

namespace GuestCheckout

open Json (Value)
open Run (Program Exchange)
open Storefront

/-- Every request of an iteration, also of one that is cut off, is the catalog query or a checkout
of the variant that stands first at an edge of the page. -/
theorem page_of_mem_requests {client : Client} {channel email : String} {thinkTime : Duration}
    {source : Random.Source} {talk : List Exchange}
    {rest : Program (IterationOutcome × Random.Source)}
    (h : (checkoutIteration client channel email thinkTime source).Yields talk rest)
    {request : Request} (hMem : request ∈ Exchange.requests talk) :
    request = .products channel ∨ ∃ body latency more variantId,
      talk = ⟨.post client.target (.products channel), ⟨.ok body, latency⟩⟩ :: more ∧
      IsFirstVariant body source variantId ∧ request = .checkout channel variantId email := by
  -- What is cut off can be played to its end, and of a whole iteration everything is known.
  obtain ⟨further, ⟨outcome, after⟩, hFurther⟩ := Program.exists_yields_done rest
  generalize hWhole : talk ++ further = whole at *
  have hPass := pass_of_yields (hWhole ▸ h.trans hFurther)
  have hRequests : request ∈ Exchange.requests whole := by
    rw [← hWhole, Exchange.requests_append]
    exact List.mem_append_left _ hMem
  cases hPass with
  | unavailable _ hSilent =>
    rw [Exchange.requests_append, Exchange.requests_of_isSilent hSilent,
      requests_stepTalk] at hRequests
    exact .inl (List.mem_singleton.1 hRequests)
  | @tried delivery _ selection _ _ hChosen hSilent =>
    rw [Exchange.requests_append, Exchange.requests_append, Exchange.requests_of_isSilent hSilent,
      requests_stepTalk, requests_stepTalk] at hRequests
    rcases List.mem_cons.1 hRequests with hProducts | hCheckout
    · exact .inl hProducts
    · obtain ⟨answer, latency⟩ := delivery
      cases talk with
      | nil => cases hMem
      | cons exchange more =>
        obtain rfl := (List.cons.inj hWhole).1
        cases answer with
        | error fault => cases hChosen
        | ok body =>
          exact .inr ⟨body, latency, more, selection.variantId, rfl,
            isFirstVariant_of_ok hChosen, List.mem_singleton.1 hCheckout⟩

theorem extractString_checkout (channel variantId email : String) :
    (Value.object [("query", .string Request.checkoutMutation),
      ("variables", .object [("channel", .string channel), ("email", .string email),
        ("variantId", .string variantId)])]).extractString "variables.variantId" =
          some variantId := rfl

/-- Strings cross the wire unchanged. Both steps send one request, which reads back as the query and
the variables it was made for. In every iteration, also in one that is cut off, the variant that is
read back from a checkout is the one that stands first at the chosen edge of the catalog page. -/
theorem verbatim (client : Client) (channel email : String) :
    (∀ variantId talk result,
      (client.createCheckout channel variantId email).Yields talk (.done result) →
        ∃ request, Exchange.requests talk = [request] ∧
          request.readBack = .ok (.object [("query", .string Request.checkoutMutation),
            ("variables", .object [("channel", .string channel), ("email", .string email),
              ("variantId", .string variantId)])])) ∧
    (∀ source talk result, (client.fetchCatalog channel source).Yields talk (.done result) →
      ∃ request, Exchange.requests talk = [request] ∧
        request.readBack = .ok (.object [("query", .string Request.productsQuery),
          ("variables", .object [("channel", .string channel)])])) ∧
    (∀ thinkTime source talk rest,
      (checkoutIteration client channel email thinkTime source).Yields talk rest →
        ∀ request ∈ Exchange.requests talk, request.query = Request.checkoutMutation →
          ∃ body latency more variantId sent,
            talk = ⟨.post client.target (.products channel), ⟨.ok body, latency⟩⟩ :: more ∧
            IsFirstVariant body source variantId ∧ request.readBack = .ok sent ∧
            sent.extractString "variables.variantId" = some variantId) := by
  refine ⟨fun variantId talk result h ↦ ?_, fun source talk result h ↦ ?_,
    fun thinkTime source talk rest h request hMem hQuery ↦ ?_⟩
  · rw [Client.createCheckout_eq] at h
    obtain ⟨delivery, _, rfl⟩ := yields_stepProgram_done h
    exact ⟨_, requests_stepTalk, Request.readBack_checkout channel variantId email⟩
  · rw [Client.fetchCatalog_eq] at h
    obtain ⟨delivery, _, rfl⟩ := yields_stepProgram_done h
    exact ⟨_, requests_stepTalk, Request.readBack_products channel⟩
  · rcases page_of_mem_requests h hMem with
      rfl | ⟨body, latency, more, variantId, hTalk, hFirst, rfl⟩
    · exact absurd hQuery Request.queries_ne
    · exact ⟨body, latency, more, variantId, _, hTalk, hFirst,
        Request.readBack_checkout channel variantId email, extractString_checkout ..⟩

/-- Once a variant is chosen, its checkout is posted. -/
theorem yields_of_chosen (client : Client) (channel email : String) (thinkTime : Duration)
    {source : Random.Source} (page : Delivery) {selection : Selection}
    (h : (Client.selectionOf page.answer source).1 = .ok selection) (reply : Delivery) :
    ∃ rest, (checkoutIteration client channel email thinkTime source).Yields
      (stepTalk client.target (.products channel) Client.catalogStep .succeeded page ++
        [⟨.post client.target (.checkout channel selection.variantId email), reply⟩]) rest := by
  have hChosen : Client.selectionOf page.answer source =
      (.ok selection, (Client.selectionOf page.answer source).2) := Prod.ext h rfl
  have hCatalog : (client.fetchCatalog channel source).Yields
      (stepTalk client.target (.products channel) Client.catalogStep .succeeded page)
      (.done (.ok selection, (Client.selectionOf page.answer source).2)) := by
    have hYields := yields_stepTalk client.target (.products channel) Client.catalogStep
      (fun result ↦ kindOf result.1) (Client.selectionOf · source) page
    rw [hChosen] at hYields
    exact hYields
  have hPost : (Program.post client.target (.checkout channel selection.variantId email)).Yields
      [⟨.post client.target (.checkout channel selection.variantId email), reply⟩] (.done reply) :=
    Program.yields_perform_done_iff.2 rfl
  have hCheckout : ∃ rest, (client.createCheckout channel selection.variantId email).Yields
      [⟨.post client.target (.checkout channel selection.variantId email), reply⟩] rest :=
    Program.exists_yields_bind ⟨_, hPost⟩ _
  have hAfter : ∃ rest, (afterCatalog client channel email (.ok selection)).Yields
      [⟨.post client.target (.checkout channel selection.variantId email), reply⟩] rest :=
    Program.exists_yields_bind hCheckout _
  obtain ⟨rest, hRest⟩ := Program.exists_yields_bind hAfter fun outcome ↦ do
    Program.pause thinkTime
    return (outcome, (Client.selectionOf page.answer source).2)
  exact ⟨rest, hCatalog.bind hRest⟩

namespace Unruly

/-- A variant whose identifier has a quotation mark, a control character, a brace and a character of
two surrogates in it, all of them escaped. -/
def catalogBody : String :=
  "\x7b\"data\":\x7b\"products\":\x7b\"edges\":[\x7b\"node\":\x7b\"id\":\"p\"," ++
    "\"variants\":[\x7b\"id\":\"\\\"\\u0001\\u007d\\ud83d\\ude00\"\x7d]\x7d\x7d]\x7d\x7d\x7d"

def variantId : String := "\"\x01\x7d😀"

def client : Client := ⟨⟨['a'], none, .opaqueText [], none, none⟩⟩

theorem selectionOf_catalogBody :
    (Client.selectionOf (.ok catalogBody) (.ofWords #[])).1 = .ok ⟨"p", variantId⟩ := by
  decide +kernel

end Unruly

/-- The identifier leaves escaped as it came and is the same on both sides. -/
theorem verbatim_unruly : ∃ sent,
    (Request.checkout "\n" Unruly.variantId "g").readBack = .ok sent ∧
    sent.extractString "variables.variantId" = some Unruly.variantId ∧
    IsFirstVariant Unruly.catalogBody (.ofWords #[]) Unruly.variantId := by
  obtain ⟨rest, hTalk⟩ := yields_of_chosen Unruly.client "\n" "g" .zero
    ⟨.ok Unruly.catalogBody, .zero⟩ Unruly.selectionOf_catalogBody ⟨.error (.status 500), .zero⟩
  obtain ⟨body, latency, more, variantId, sent, hStart, hFirst, hSent, hId⟩ :=
    (verbatim Unruly.client "\n" "g").2.2 _ _ _ _ hTalk (.checkout "\n" Unruly.variantId "g")
      (List.mem_cons_of_mem _ List.mem_cons_self) rfl
  obtain rfl : variantId = Unruly.variantId := by
    have hRead := Request.readBack_checkout "\n" Unruly.variantId "g"
    rw [hSent] at hRead
    rw [Except.ok.inj hRead, extractString_checkout] at hId
    exact (Option.some.inj hId).symm
  cases hStart
  exact ⟨sent, hSent, hId, hFirst⟩

end GuestCheckout

end StorefrontLoad
