import StorefrontLoad.Proofs.Random.Source
import StorefrontLoad.Proofs.Storefront.Client

/-!
# The choice of a product

How many products a page lists decides alone which words are taken for the choice among them and
which place is chosen; no place is preferred. What stands at the other places is never looked at. So
a source that has served many pages is left as if it had only been told how long they were.
-/

namespace StorefrontLoad.Storefront

open Json (Value)
open Run (Program Exchange)

/-! ## One page -/

/-- The edge at the drawn place is read. -/
theorem selectVariant_eq {edges : List Value} (hNe : edges ≠ []) (source : Random.Source) :
    ∃ edge, edges[(source.index edges.length).1]? = some edge ∧
      selectVariant edges source =
        (Product.ofEdge edge >>= Product.select, (source.index edges.length).2) := by
  have hLt : (source.index edges.length).1 < edges.length :=
    Random.searchIndex_lt (List.length_pos_iff.2 hNe) source.span source
  have hEdge := List.getElem?_eq_getElem hLt
  refine ⟨edges[(source.index edges.length).1], hEdge, ?_⟩
  have hEmpty : edges.isEmpty = false := List.isEmpty_eq_false_iff.2 hNe
  simp only [selectVariant, Random.Source.choose, hEmpty, Bool.false_eq_true, if_false, hEdge]

/-- Every product of a page is equally likely to be the one that is read. -/
theorem uniform_choice {edges : List Value} (hNe : edges ≠ []) (hFew : edges.length < 2 ^ 32) :
    Random.IsFairDraw edges.length ∧ ∀ source : Random.Source, ∃ edge,
      edges[(source.index edges.length).1]? = some edge ∧
        selectVariant edges source =
          (Product.ofEdge edge >>= Product.select, (source.index edges.length).2) :=
  ⟨Random.isFairDraw (List.length_pos_iff.2 hNe) hFew, selectVariant_eq hNe⟩

/-- Of three products each has a quarter of all words, and the rest is passed over. -/
theorem uniform_choice_three : ([.null, .null, .null] : List Value) ≠ [] ∧ 3 < 2 ^ 32 ∧
    (Finset.univ.filter fun w : UInt32 ↦ Random.indexOfWord? 3 w = some 2).card = 2 ^ 30 := by
  have hNe : ([.null, .null, .null] : List Value) ≠ [] := by simp
  have hFew : ([.null, .null, .null] : List Value).length < 2 ^ 32 := by decide
  exact ⟨hNe, hFew, (uniform_choice hNe hFew).1.share 2 (by decide)⟩

/-! ## Many pages -/

/-- How many products an answer leaves to choose from, if there is a choice. -/
def choices? : Answer → Option Nat
  | .error _ => none
  | .ok body =>
    match Catalog.edges body with
    | .error _ | .ok [] => none
    | .ok edges => some edges.length

/-- The source after a draw from each of some numbers of choices. -/
def drawn (source : Random.Source) (counts : List Nat) : Random.Source :=
  counts.foldl (fun source count ↦ (source.index count).2) source

/-- The source is left as it was without a choice, and else as by a draw. -/
theorem selectionOf_source (answer : Answer) (source : Random.Source) :
    (Client.selectionOf answer source).2 = drawn source (choices? answer).toList := by
  cases answer with
  | error fault => rfl
  | ok body =>
    unfold Client.selectionOf choices?
    dsimp only
    cases Catalog.edges body with
    | error failure => rfl
    | ok edges =>
      cases edges with
      | nil => rfl
      | cons edge edges =>
        obtain ⟨_, _, hSelect⟩ := selectVariant_eq (List.cons_ne_nil edge edges) source
        exact congrArg Prod.snd hSelect

theorem drawn_append (source : Random.Source) (first second : List Nat) :
    drawn source (first ++ second) = drawn (drawn source first) second :=
  List.foldl_append

/-- A client has fetched the catalog some times with one source: what it was answered, and the
source that is left. -/
inductive Fetched (client : Client) (source : Random.Source) :
    List Answer → Random.Source → Prop
  | none : Fetched client source [] source
  | next {answers : List Answer} {left after : Random.Source} {channel : String}
      {delivery : Delivery} {talk : List Exchange} {result : Except StepFailure Selection}
      (before : Fetched client source answers left)
      (went : (client.fetchCatalog channel left).Yields
        (⟨.post client.target (.products channel), delivery⟩ :: talk) (.done (result, after))) :
      Fetched client source (answers ++ [delivery.answer]) after

namespace Fetched

variable {client : Client} {source left : Random.Source} {answers : List Answer}

theorem left_eq (h : Fetched client source answers left) :
    left = drawn source (answers.filterMap choices?) := by
  induction h with
  | none => rfl
  | @next answers left after channel delivery talk result before went ih =>
    rw [Client.fetchCatalog_eq] at went
    obtain ⟨delivery', hResult, hTalk⟩ := yields_stepProgram_done went
    cases (List.cons.inj hTalk).1
    have hAfter : after = (Client.selectionOf delivery.answer left).2 := congrArg Prod.snd hResult
    rw [hAfter, selectionOf_source, ih, ← drawn_append, List.filterMap_append,
      List.filterMap_cons]
    cases choices? delivery.answer <;> rfl

/-- Every sequence of answers can be met. -/
theorem exists_left (client : Client) (source : Random.Source) (answers : List Answer) :
    ∃ left, Fetched client source answers left := by
  induction answers using List.reverseRecOn with
  | nil => exact ⟨source, .none⟩
  | append_singleton answers answer ih =>
    obtain ⟨left, before⟩ := ih
    have went := yields_stepTalk client.target (.products "") Client.catalogStep
      (fun result ↦ kindOf result.1) (Client.selectionOf · left) ⟨answer, .zero⟩
    exact ⟨_, before.next went⟩

end Fetched

/-- The words that a choice takes depend on the number of products alone, and what comes of it on
the product at the drawn place. Whatever a client was answered before, its source is where the
numbers of products in the answers have brought it. -/
theorem only_choice_counts :
    (∀ (edges others : List Value) (source : Random.Source), edges.length = others.length →
      (∃ count, (selectVariant edges source).2 = source.skip count ∧
        (selectVariant others source).2 = source.skip count) ∧
      (edges[(source.index edges.length).1]? = others[(source.index edges.length).1]? →
        (selectVariant edges source).1 = (selectVariant others source).1)) ∧
    ∀ (client : Client) (source : Random.Source) (answers : List Answer),
      (∃ left, Fetched client source answers left) ∧
      ∀ left, Fetched client source answers left →
        left = drawn source (answers.filterMap choices?) := by
  refine ⟨fun edges others source hLength ↦ ?_, fun client source answers ↦
    ⟨Fetched.exists_left client source answers, fun left h ↦ h.left_eq⟩⟩
  by_cases hNe : edges = []
  · subst hNe
    obtain rfl := List.length_eq_zero_iff.1 hLength.symm
    exact ⟨⟨0, rfl, rfl⟩, fun _ ↦ rfl⟩
  · have hOthers : others ≠ [] := fun h ↦ hNe (List.length_eq_zero_iff.1 (by rw [hLength, h]; rfl))
    obtain ⟨edge, hEdge, hSelect⟩ := selectVariant_eq hNe source
    obtain ⟨other, hOther, hSelectOther⟩ := selectVariant_eq hOthers source
    obtain ⟨count, hCount⟩ :=
      Random.exists_skip_searchIndex edges.length source.span source
    rw [← hLength] at hOther hSelectOther
    rw [hSelect, hSelectOther, hEdge, hOther]
    refine ⟨⟨count, hCount, hCount⟩, fun hSame ↦ ?_⟩
    rw [Option.some.inj hSame]

namespace Torn

/-- A product that can be bought. -/
def edge : Value := .object [("node", .object [("id", .string "p"),
  ("variants", .array [.object [("id", .string "v")]])])]

def source : Random.Source := .ofWords #[0x80000000]

def client : Client := ⟨⟨['a'], none, .opaqueText [], none, none⟩⟩

/-- The body of a page whose edges are no products at all. -/
def page : String := "\x7b\"data\":\x7b\"products\":\x7b\"edges\":[null,7]\x7d\x7d\x7d"

theorem place_eq : (source.index 2).1 = 1 := by decide +kernel

theorem choices?_page : choices? (.ok page) = some 2 := by decide +kernel

theorem drawn_eq : (source.index 2).2 = source.skip 1 := rfl

end Torn

/-- The second of two products is bought whatever stands in place of the first, and a fault and a
page without a readable product leave the source behind the one word of the page. -/
theorem only_choice_counts_torn :
    (selectVariant [.null, Torn.edge] Torn.source).1 =
      (selectVariant [.bool true, Torn.edge] Torn.source).1 ∧
    Fetched Torn.client Torn.source [.error (.status 503), .ok Torn.page]
      (Torn.source.skip 1) := by
  refine ⟨(only_choice_counts.1 _ _ _ rfl).2 ?_, ?_⟩
  · change [Value.null, Torn.edge][(Torn.source.index 2).1]? =
      [Value.bool true, Torn.edge][(Torn.source.index 2).1]?
    rw [Torn.place_eq]
    rfl
  · obtain ⟨⟨left, hLeft⟩, hAll⟩ := only_choice_counts.2 Torn.client Torn.source
      [.error (.status 503), .ok Torn.page]
    obtain rfl : left = Torn.source.skip 1 := by
      rw [hAll left hLeft, List.filterMap_cons, List.filterMap_cons, Torn.choices?_page]
      exact Torn.drawn_eq
    exact hLeft

end StorefrontLoad.Storefront
