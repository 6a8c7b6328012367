import StorefrontLoad.Proofs.Json.Path
import StorefrontLoad.Proofs.Storefront.Choice

/-!
# What an answer to the catalog query comes to

An answer is a fault, or a body that lists no products, or a page; and the product that is drawn
from a page is malformed, has no variants, or offers its first one. All of this is told by what is
found under paths from the root of the document. Exactly one verdict applies to an answer, and the
catalog step returns what it says, leaves the source where it says and counts the kind it says.
-/

namespace StorefrontLoad.Storefront

open Json (Value elementPath)
open Run (World)

/-! ## Pages -/

/-- The answer is a page of these edges. -/
structure Lists (answer : Answer) (document : Value) (edges : List Value) : Prop where
  shows : Shows answer document
  edges : document.lookup "data.products.edges" = .found (.array edges)

/-- The path of a part of the product that the edge at a place holds. -/
def productPath (place : Nat) (part : String) : String :=
  elementPath "data.products.edges" place ("node." ++ part)

/-- The path of the identifier of a variant of the product that the edge at a place holds. -/
def variantPath (place i : Nat) : String := elementPath (productPath place "variants") i "id"

example : productPath 3 "id" = "data.products.edges.3.node.id" := by decide

example : variantPath 3 0 = "data.products.edges.3.node.variants.0.id" := by decide

/-- The product at a place of a page cannot be read. -/
inductive IsMalformed (document : Value) (place : Nat) : Prop
  | noId (h : ¬ HasText document (productPath place "id"))
  | noList (hNull : document.lookup (productPath place "variants") ≠ .null "variants")
      (hList : ∀ variants,
        document.lookup (productPath place "variants") ≠ .found (.array variants))
  /-- One variant is enough, wherever it stands. -/
  | noVariantId {variants : List Value} {i : Nat}
      (hList : document.lookup (productPath place "variants") = .found (.array variants))
      (hLt : i < variants.length)
      (hId : ¬ HasText document (variantPath place i))

/-- The product at a place of a page has no variants. A walk that stops at a null names the segment
it has stopped at, and on the path of the variants only the last one has this name. -/
def IsSoldOut (document : Value) (place : Nat) : Prop :=
  document.lookup (productPath place "variants") = .null "variants" ∨
    document.lookup (productPath place "variants") = .found (.array [])

/-- The product at a place of a page and its first variant have these identifiers. -/
structure Offers (document : Value) (place : Nat) (selection : Selection) : Prop where
  productId : document.lookup (productPath place "id") = .found (.string selection.productId)
  variantId : document.lookup (variantPath place 0) = .found (.string selection.variantId)

/-- The source chooses this place of a page with so many edges. -/
structure IsDrawn (answer : Answer) (source : Random.Source) (document : Value)
    (choices place : Nat) : Prop where
  lists : ∃ edges, Lists answer document edges ∧ edges.length = choices
  place_lt : place < choices
  place_eq : (source.index choices).1 = place

/-! ## Verdicts -/

inductive PageVerdict
  | faulty (fault : TransportFault)
  /-- The body is no document, or the document has no list of edges. -/
  | noPage
  | emptyPage
  | malformed (choices place : Nat)
  | soldOut (choices place : Nat)
  | offer (choices place : Nat) (selection : Selection)

namespace PageVerdict

def Applies (answer : Answer) (source : Random.Source) : PageVerdict → Prop
  | faulty fault => answer = .error fault
  | noPage => (∃ body, answer = .ok body) ∧ ∀ document edges, ¬ Lists answer document edges
  | emptyPage => ∃ document, Lists answer document []
  | malformed choices place =>
    ∃ document, IsDrawn answer source document choices place ∧ IsMalformed document place
  | soldOut choices place =>
    ∃ document, IsDrawn answer source document choices place ∧ ¬ IsMalformed document place ∧
      IsSoldOut document place
  | offer choices place selection =>
    ∃ document, IsDrawn answer source document choices place ∧ ¬ IsMalformed document place ∧
      ¬ IsSoldOut document place ∧ Offers document place selection

/-- What the catalog step returns. -/
def Allows (result : Except StepFailure Selection) : PageVerdict → Prop
  | faulty fault => result = .error (.transport fault)
  | noPage | malformed _ _ => ∃ reason, result = .error (.parse reason)
  | emptyPage | soldOut _ _ => result = .error .noUsableData
  | offer _ _ selection => result = .ok selection

/-- The source that the catalog step leaves: only a page with edges takes words. -/
def left (source : Random.Source) : PageVerdict → Random.Source
  | faulty _ | noPage | emptyPage => source
  | malformed choices _ | soldOut choices _ | offer choices _ _ => (source.index choices).2

/-- What the catalog step is counted as. -/
def kind : PageVerdict → OutcomeKind
  | faulty _ => .transportFailure
  | noPage | malformed _ _ => .parseFailure
  | emptyPage | soldOut _ _ => .noUsableData
  | offer _ _ _ => .succeeded

theorem kindOf_of_allows {verdict : PageVerdict} {result : Except StepFailure Selection}
    (h : verdict.Allows result) : kindOf result = verdict.kind := by
  cases verdict with
  | faulty | emptyPage | soldOut | offer =>
    simp only [Allows] at h
    subst h
    rfl
  | noPage | malformed =>
    obtain ⟨reason, rfl⟩ := h
    rfl

end PageVerdict

/-! ## Reading the chosen product -/

section Product

variable {document edge : Value} {edges : List Value} {place : Nat}
  (hEdges : document.lookup "data.products.edges" = .found (.array edges))
  (hEdge : edges[place]? = some edge)

include hEdges hEdge

theorem lookup_product (hNull : edge ≠ .null) (part : String) :
    document.lookup (productPath place part) = edge.lookup ("node." ++ part) :=
  Value.lookup_element hEdges hEdge hNull _

theorem lookup_product_eq_found_iff {part : String} {v : Value} :
    document.lookup (productPath place part) = .found v ↔
      edge.lookup ("node." ++ part) = .found v :=
  Value.lookup_element_eq_found_iff hEdges hEdge _

end Product

/-- A variant of a product is reached in one walk from the root or in two. -/
theorem lookup_variant_eq_found_iff {document variant v : Value} {variants : List Value}
    {place i : Nat} (hList : document.lookup (productPath place "variants") =
      .found (.array variants)) (hVariant : variants[i]? = some variant) :
    document.lookup (variantPath place i) = .found v ↔ variant.lookup "id" = .found v :=
  Value.lookup_element_eq_found_iff hList hVariant _

/-- Either all variants have identifiers, which are read in order, or reading them fails. -/
theorem mapM_variantId (productId : String) (variants : List Value) :
    (∃ ids, variants.mapM (Product.variantId productId) = .ok ids ∧
      List.Forall₂ (fun variant id ↦ variant.extractString "id" = some id) variants ids) ∨
    (∃ variant ∈ variants, variant.extractString "id" = none) ∧
      ∃ reason, variants.mapM (Product.variantId productId) = .error (.parse reason) := by
  induction variants with
  | nil => exact .inl ⟨[], rfl, .nil⟩
  | cons variant variants ih =>
    rw [List.mapM_cons]
    cases hId : variant.extractString "id" with
    | none =>
      refine .inr ⟨⟨variant, List.mem_cons_self, hId⟩, ?_⟩
      simp only [Product.variantId, hId]
      exact ⟨_, rfl⟩
    | some id =>
      simp only [Product.variantId, hId]
      rcases ih with ⟨ids, hRead, hIds⟩ | ⟨⟨other, hMem, hNone⟩, reason, hRead⟩
      · refine .inl ⟨id :: ids, ?_, .cons hId hIds⟩
        rw [hRead]
        rfl
      · refine .inr ⟨⟨other, List.mem_cons_of_mem _ hMem, hNone⟩, reason, ?_⟩
        rw [hRead]
        rfl

/-- An edge with a product has no null above the variants. -/
theorem eq_variants_of_null {edge : Value} {id segment : String}
    (hId : edge.lookup "node.id" = .found (.string id))
    (hNull : edge.lookup "node.variants" = .null segment) : segment = "variants" := by
  have hIdPath : "node.id" = "node" ++ "." ++ "id" := by decide
  have hVariantsPath : "node.variants" = "node" ++ "." ++ "variants" := by decide
  rw [hIdPath] at hId
  rw [hVariantsPath] at hNull
  by_cases hNode : ∃ node, edge.lookup "node" = .found node
  · obtain ⟨node, hNode⟩ := hNode
    rw [Value.lookup_append hNode] at hNull
    have hDot : '.' ∉ "variants".toList := by simp
    exact Value.eq_of_lookup_eq_null hDot hNull
  · rw [Value.lookup_append_of_ne (not_exists.1 hNode)] at hId
    exact absurd ⟨_, hId⟩ hNode

/-- What reading the product at a place of a page comes to. -/
inductive Fate (document : Value) (place : Nat) : Except StepFailure Selection → Prop
  | malformed (h : IsMalformed document place) (reason : String) :
      Fate document place (.error (.parse reason))
  | soldOut (hSound : ¬ IsMalformed document place) (h : IsSoldOut document place) :
      Fate document place (.error .noUsableData)
  | offer {selection : Selection} (hSound : ¬ IsMalformed document place)
      (hStock : ¬ IsSoldOut document place) (h : Offers document place selection) :
      Fate document place (.ok selection)

section Fate

variable {document edge : Value} {edges : List Value} {place : Nat}
  (hEdges : document.lookup "data.products.edges" = .found (.array edges))
  (hEdge : edges[place]? = some edge)

include hEdges hEdge

theorem fate_of_noId (hId : edge.extractString "node.id" = none) :
    Fate document place (Product.ofEdge edge >>= Product.select) := by
  have hMalformed : IsMalformed document place := by
    refine .noId fun ⟨id, hText⟩ ↦ ?_
    rw [lookup_product_eq_found_iff hEdges hEdge] at hText
    exact Value.extractString_eq_none_iff.1 hId id hText
  simp only [Product.ofEdge, hId]
  exact .malformed hMalformed _

variable {id : String} (hId : edge.extractString "node.id" = some id)

include hId

theorem lookup_id : document.lookup (productPath place "id") = .found (.string id) := by
  rw [lookup_product_eq_found_iff hEdges hEdge]
  exact Value.extractString_eq_some_iff.1 hId

/-- With a product the edge is no null, so both walks to the variants end alike. -/
theorem lookup_variants :
    document.lookup (productPath place "variants") = edge.lookup "node.variants" := by
  refine lookup_product hEdges hEdge ?_ "variants"
  rintro rfl
  cases hId

theorem fate_of_noList (hNull : ∀ segment, edge.lookup "node.variants" ≠ .null segment)
    (hList : ∀ variants, edge.lookup "node.variants" ≠ .found (.array variants)) :
    Fate document place (Product.ofEdge edge >>= Product.select) := by
  have hMalformed : IsMalformed document place := by
    have hVariants := lookup_variants hEdges hEdge hId
    refine .noList ?_ fun variants ↦ ?_
    · rw [hVariants]
      exact hNull "variants"
    · rw [hVariants]
      exact hList variants
  simp only [Product.ofEdge, hId]
  exact .malformed hMalformed _

theorem fate_of_null {segment : String} (hNull : edge.lookup "node.variants" = .null segment) :
    Fate document place (Product.ofEdge edge >>= Product.select) := by
  have hVariants := lookup_variants hEdges hEdge hId
  have hSegment := eq_variants_of_null (Value.extractString_eq_some_iff.1 hId) hNull
  rw [hNull, hSegment] at hVariants
  have hSound : ¬ IsMalformed document place := by
    rintro (hNoId | ⟨hNotNull, _⟩ | ⟨hList, _, _⟩)
    · exact hNoId ⟨id, lookup_id hEdges hEdge hId⟩
    · exact hNotNull hVariants
    · rw [hVariants] at hList
      cases hList
  simp only [Product.ofEdge, hId, hNull]
  exact .soldOut hSound (.inl hVariants)

/-- A list of variants is malformed or not, and without any variants it is not. -/
theorem fate_of_list {variants : List Value}
    (hList : edge.lookup "node.variants" = .found (.array variants)) :
    Fate document place (Product.ofEdge edge >>= Product.select) := by
  have hVariants := (lookup_variants hEdges hEdge hId).trans hList
  have hRead : Product.ofEdge edge =
      (variants.mapM (Product.variantId id)).map (⟨id, ·⟩) := by
    simp only [Product.ofEdge, hId, hList]
  rw [hRead]
  -- Nothing is malformed if all variants can be read; then there is a first one or there is none.
  rcases mapM_variantId id variants with ⟨ids, hIds, hAll⟩ | ⟨⟨variant, hMem, hNone⟩, reason, hFail⟩
  · rw [hIds]
    have hSound : ¬ IsMalformed document place := by
      rintro (hNoId | ⟨_, hNoList⟩ | ⟨hOther, hLt, hNoId⟩)
      · exact hNoId ⟨id, lookup_id hEdges hEdge hId⟩
      · exact hNoList variants hVariants
      · rw [hVariants] at hOther
        cases hOther
        have hText := hAll.get hLt (hAll.length_eq ▸ hLt)
        rw [Value.extractString_eq_some_iff] at hText
        have hVariant := List.getElem?_eq_getElem hLt
        exact hNoId ⟨_, (lookup_variant_eq_found_iff hVariants hVariant).2 hText⟩
    cases hAll with
    | nil => exact .soldOut hSound (.inr hVariants)
    | cons hFirst _ =>
      refine .offer hSound ?_ ⟨lookup_id hEdges hEdge hId, ?_⟩
      · rintro (hNull | hEmpty)
        · rw [hVariants] at hNull
          cases hNull
        · rw [hVariants] at hEmpty
          cases hEmpty
      · rw [lookup_variant_eq_found_iff hVariants rfl]
        exact Value.extractString_eq_some_iff.1 hFirst
  · rw [hFail]
    refine .malformed ?_ reason
    obtain ⟨i, hLt, hVariant⟩ := List.mem_iff_getElem.1 hMem
    refine .noVariantId hVariants hLt fun ⟨text, hText⟩ ↦ ?_
    rw [lookup_variant_eq_found_iff hVariants (List.getElem?_eq_getElem hLt), hVariant] at hText
    exact Value.extractString_eq_none_iff.1 hNone text hText

omit hId in
theorem fate : Fate document place (Product.ofEdge edge >>= Product.select) := by
  cases hId : edge.extractString "node.id" with
  | none => exact fate_of_noId hEdges hEdge hId
  | some id =>
    cases hVariants : edge.lookup "node.variants" with
    | missing | typeMismatch =>
      exact fate_of_noList hEdges hEdge hId (by simp [hVariants]) (by simp [hVariants])
    | null segment => exact fate_of_null hEdges hEdge hId hVariants
    | found v =>
      cases v with
      | array variants => exact fate_of_list hEdges hEdge hId hVariants
      | null | bool | number | string | object =>
        exact fate_of_noList hEdges hEdge hId (by simp [hVariants]) (by simp [hVariants])

end Fate

/-! ## Which verdict applies -/

section Lists

variable {body : String} {answer : Answer} {source : Random.Source} {document : Value}
  {edges : List Value} {choices place : Nat}

theorem Lists.unique (h : Lists answer document edges) {other : Value} {others : List Value}
    (h' : Lists answer other others) : other = document ∧ others = edges := by
  obtain ⟨hShows, hEdges⟩ := h
  obtain ⟨hShows', hEdges'⟩ := h'
  obtain rfl := hShows.unique hShows'
  rw [hEdges] at hEdges'
  cases hEdges'
  exact ⟨rfl, rfl⟩

theorem lists_of_edges (h : Catalog.edges body = .ok edges) :
    ∃ document, Lists (.ok body) document edges := by
  unfold Catalog.edges at h
  split at h
  · cases h
  · next document hText =>
    split at h
    · next hFound =>
      cases h
      exact ⟨document, ⟨body, rfl, hText⟩, hFound⟩
    · cases h
    · cases h

theorem not_lists_of_edges {failure : StepFailure} (h : Catalog.edges body = .error failure) :
    (∃ reason, failure = .parse reason) ∧
      ∀ document edges, ¬ Lists (.ok body) document edges := by
  have hLists (document : Value) (edges : List Value) (hLists : Lists (.ok body) document edges) :
      Catalog.edges body = .ok edges := by
    obtain ⟨⟨_, hBody, hText⟩, hFound⟩ := hLists
    cases hBody
    simp only [Catalog.edges, hText, hFound]
  refine ⟨?_, fun document edges hPage ↦ by cases h.symm.trans (hLists document edges hPage)⟩
  unfold Catalog.edges at h
  split at h
  · exact ⟨_, (Except.error.inj h).symm⟩
  · split at h
    · cases h
    · exact ⟨_, (Except.error.inj h).symm⟩
    · exact ⟨_, (Except.error.inj h).symm⟩

theorem not_isDrawn (h : ∀ document edges, Lists answer document edges → edges = []) :
    ¬ IsDrawn answer source document choices place := by
  rintro ⟨⟨edges, hLists, rfl⟩, hLt, _⟩
  rw [h document edges hLists] at hLt
  exact absurd hLt (Nat.not_lt_zero _)

theorem isDrawn_iff (hLists : Lists answer document edges) (hNe : edges ≠ []) {other : Value} :
    IsDrawn answer source other choices place ↔
      other = document ∧ choices = edges.length ∧ place = (source.index edges.length).1 := by
  constructor
  · rintro ⟨⟨others, hOthers, rfl⟩, _, rfl⟩
    obtain ⟨rfl, rfl⟩ := hLists.unique hOthers
    exact ⟨rfl, rfl, rfl⟩
  · rintro ⟨rfl, rfl, rfl⟩
    exact ⟨⟨edges, hLists, rfl⟩,
      Random.searchIndex_lt (List.length_pos_iff.2 hNe) source.span source, rfl⟩

end Lists

namespace PageVerdict

variable {answer : Answer} {source : Random.Source} {document : Value} {edges : List Value}

/-- The verdict is the only one that applies, and the catalog step has ended as it says. -/
structure Settles (answer : Answer) (source : Random.Source)
    (ended : Except StepFailure Selection × Random.Source) (verdict : PageVerdict) : Prop where
  applies : ∀ other : PageVerdict, other.Applies answer source ↔ other = verdict
  allows : verdict.Allows ended.1
  left : ended.2 = verdict.left source

theorem applies_error (fault : TransportFault) (verdict : PageVerdict) :
    verdict.Applies (.error fault) source ↔ verdict = .faulty fault := by
  have hLists (document : Value) (edges : List Value) : ¬ Lists (.error fault) document edges :=
    fun h ↦ not_shows_error h.shows
  have hDrawn (document : Value) (choices place : Nat) :
      ¬ IsDrawn (.error fault) source document choices place :=
    not_isDrawn fun document edges h ↦ absurd h (hLists document edges)
  cases verdict <;> simp [Applies, hLists, hDrawn, eq_comm]

theorem applies_of_noPage {body : String}
    (hLists : ∀ document edges, ¬ Lists (.ok body) document edges) (verdict : PageVerdict) :
    verdict.Applies (.ok body) source ↔ verdict = .noPage := by
  have hDrawn (document : Value) (choices place : Nat) :
      ¬ IsDrawn (.ok body) source document choices place :=
    not_isDrawn fun document edges h ↦ absurd h (hLists document edges)
  cases verdict <;> simp [Applies, hLists, hDrawn]

theorem applies_of_empty {body : String} (h : Lists (.ok body) document [])
    (verdict : PageVerdict) : verdict.Applies (.ok body) source ↔ verdict = .emptyPage := by
  have hLists : ∃ document, Lists (.ok body) document [] := ⟨document, h⟩
  have hDrawn (document : Value) (choices place : Nat) :
      ¬ IsDrawn (.ok body) source document choices place :=
    not_isDrawn fun other others hOthers ↦ (h.unique hOthers).2
  have hSome : ∃ document edges, Lists (.ok body) document edges := ⟨document, [], h⟩
  cases verdict <;> simp [Applies, hLists, hDrawn, hSome]

/-- On a page with edges the verdict is on the product that is drawn. -/
theorem applies_of_lists (hLists : Lists answer document edges) (hNe : edges ≠ []) {place : Nat}
    (hPlace : (source.index edges.length).1 = place) (verdict : PageVerdict) :
    verdict.Applies answer source ↔
      (IsMalformed document place ∧ verdict = .malformed edges.length place) ∨
      (¬ IsMalformed document place ∧ IsSoldOut document place ∧
        verdict = .soldOut edges.length place) ∨
      ∃ selection, ¬ IsMalformed document place ∧ ¬ IsSoldOut document place ∧
        Offers document place selection ∧ verdict = .offer edges.length place selection := by
  subst hPlace
  have hDrawn : IsDrawn answer source document edges.length (source.index edges.length).1 :=
    (isDrawn_iff hLists hNe).2 ⟨rfl, rfl, rfl⟩
  constructor
  · intro h
    cases verdict with
    | faulty fault => exact absurd hLists.shows (h ▸ not_shows_error)
    | noPage => exact absurd hLists (h.2 document edges)
    | emptyPage =>
      obtain ⟨other, hEmpty⟩ := h
      exact absurd (hLists.unique hEmpty).2.symm hNe
    | malformed choices place =>
      obtain ⟨other, hOther, hMalformed⟩ := h
      obtain ⟨rfl, rfl, rfl⟩ := (isDrawn_iff hLists hNe).1 hOther
      exact .inl ⟨hMalformed, rfl⟩
    | soldOut choices place =>
      obtain ⟨other, hOther, hSound, hSoldOut⟩ := h
      obtain ⟨rfl, rfl, rfl⟩ := (isDrawn_iff hLists hNe).1 hOther
      exact .inr (.inl ⟨hSound, hSoldOut, rfl⟩)
    | offer choices place selection =>
      obtain ⟨other, hOther, hSound, hStock, hOffers⟩ := h
      obtain ⟨rfl, rfl, rfl⟩ := (isDrawn_iff hLists hNe).1 hOther
      exact .inr (.inr ⟨selection, hSound, hStock, hOffers, rfl⟩)
  · rintro (⟨hMalformed, rfl⟩ | ⟨hSound, hSoldOut, rfl⟩ |
      ⟨selection, hSound, hStock, hOffers, rfl⟩)
    · exact ⟨document, hDrawn, hMalformed⟩
    · exact ⟨document, hDrawn, hSound, hSoldOut⟩
    · exact ⟨document, hDrawn, hSound, hStock, hOffers⟩

end PageVerdict

theorem Offers.unique {document : Value} {place : Nat} {selection other : Selection}
    (h : Offers document place selection) (h' : Offers document place other) :
    other = selection := by
  obtain ⟨hProduct, hVariant⟩ := h
  obtain ⟨hProduct', hVariant'⟩ := h'
  rw [hProduct] at hProduct'
  rw [hVariant] at hVariant'
  cases selection
  cases other
  cases hProduct'
  cases hVariant'
  rfl

/-- The verdict on a page with edges is on the product that is drawn. -/
theorem exists_settles_of_lists {answer : Answer} {source : Random.Source} {document : Value}
    {edges : List Value} (hLists : Lists answer document edges) (hNe : edges ≠ []) :
    ∃ verdict, PageVerdict.Settles answer source (selectVariant edges source) verdict := by
  obtain ⟨edge, hEdge, hSelect⟩ := selectVariant_eq hNe source
  have hFate := fate hLists.edges hEdge
  have hApplies := @PageVerdict.applies_of_lists answer source document edges hLists hNe _ rfl
  rw [hSelect]
  generalize Product.ofEdge edge >>= Product.select = result at hFate
  cases hFate with
  | malformed hMalformed reason =>
    refine ⟨.malformed edges.length (source.index edges.length).1, fun other ↦ ?_,
      ⟨reason, rfl⟩, rfl⟩
    rw [hApplies]
    simp [hMalformed]
  | soldOut hSound hSoldOut =>
    refine ⟨.soldOut edges.length (source.index edges.length).1, fun other ↦ ?_, rfl, rfl⟩
    rw [hApplies]
    simp [hSound, hSoldOut]
  | @offer selection hSound hStock hOffers =>
    refine ⟨.offer edges.length (source.index edges.length).1 selection, fun other ↦ ?_, rfl, rfl⟩
    rw [hApplies]
    simp only [hSound, hStock, false_and, not_false_eq_true, true_and, and_false, false_or]
    exact ⟨fun ⟨_, hOther, h⟩ ↦ hOffers.unique hOther ▸ h, fun h ↦ ⟨selection, hOffers, h⟩⟩

theorem exists_settles (answer : Answer) (source : Random.Source) :
    ∃ verdict, PageVerdict.Settles answer source (Client.selectionOf answer source) verdict := by
  cases answer with
  | error fault => exact ⟨.faulty fault, PageVerdict.applies_error fault, rfl, rfl⟩
  | ok body =>
    cases hRead : Catalog.edges body with
    | error failure =>
      obtain ⟨⟨reason, rfl⟩, hNone⟩ := not_lists_of_edges hRead
      have hEnded : Client.selectionOf (.ok body) source = (.error (.parse reason), source) := by
        simp only [Client.selectionOf, hRead]
      exact ⟨.noPage, PageVerdict.applies_of_noPage hNone, hEnded ▸ ⟨reason, rfl⟩, hEnded ▸ rfl⟩
    | ok edges =>
      obtain ⟨document, hLists⟩ := lists_of_edges hRead
      have hEnded : Client.selectionOf (.ok body) source = selectVariant edges source := by
        simp only [Client.selectionOf, hRead]
      rw [hEnded]
      by_cases hNe : edges = []
      · subst hNe
        exact ⟨.emptyPage, PageVerdict.applies_of_empty hLists, rfl, rfl⟩
      · exact exists_settles_of_lists hLists hNe

/-- A variant without an identifier spoils a product whose first variant could be bought. -/
example :
    let body := "\x7b\"data\":\x7b\"products\":\x7b\"edges\":[\x7b\"node\":\x7b\"id\":\"p\"," ++
      "\"variants\":[\x7b\"id\":\"v\"\x7d,\x7b\"id\":7\x7d]\x7d\x7d]\x7d\x7d\x7d"
    kindOf (Client.selectionOf (.ok body) (.ofWords #[])).1 = .parseFailure := by decide +kernel

/-- Whatever the storefront answers to the catalog query, exactly one verdict applies, and the step
returns what it says, leaves the source where it says and is counted once, as what it says. -/
theorem catalog_classified {σ : Type} (network : Network σ) (client : Client) (channel : String)
    (source : Random.Source) (w : World σ) :
    let page := (network.deliver client.target (.products channel) w.network).1
    ∃ (verdict : PageVerdict) (result : Except StepFailure Selection) (after : World σ),
      (client.fetchCatalog channel source).complete network w =
        some ((result, verdict.left source), after) ∧
      (∀ other : PageVerdict, other.Applies page.answer source ↔ other = verdict) ∧
      verdict.Allows result ∧
      ∀ name, after.counters.steps.find? name =
        if Client.catalogStep = name then
          some (((w.counters.steps.find? Client.catalogStep).getD .fresh).record verdict.kind
            page.latency)
        else w.counters.steps.find? name := by
  intro page
  obtain ⟨verdict, hApplies, hAllows, hLeft⟩ := exists_settles page.answer source
  refine ⟨verdict, (Client.selectionOf page.answer source).1, tried network client.target
    (.products channel) Client.catalogStep
    (fun answer ↦ kindOf (Client.selectionOf answer source).1) w, ?_, hApplies, hAllows,
    fun name ↦ ?_⟩
  · rw [Client.fetchCatalog_eq, complete_stepProgram, ← hLeft]
  · rw [← PageVerdict.kindOf_of_allows hAllows]
    exact find?_steps_tried name

end StorefrontLoad.Storefront
