import StorefrontLoad.Proofs.Json.Path
import StorefrontLoad.Proofs.Json.Token
import Mathlib.Data.List.Forall2

/-!
# Paths as addresses

A part of a document has an address: the keys and indices that lead to it from the root. A path is
such an address in writing. Looking up a path finds what the address leads to, or names the first
segment that leads nowhere and says why. A written index is a natural number of any size, and
reading it into a machine word makes no difference as long as the lists fit into a memory.
-/

namespace StorefrontLoad.Json

/-! ## Addresses -/

/-- What leads from a value to one of its parts. -/
inductive Branch
  | key (name : String)
  | index (i : Nat)

def Branch.text : Branch → String
  | key name => name
  | index i => toString i

/-- The segments of a path are what stands between its full stops. -/
structure IsCut (path : String) (segments : List String) : Prop where
  ne_nil : segments ≠ []
  dot_notMem : ∀ segment ∈ segments, '.' ∉ segment.toList
  join : ".".intercalate segments = path

/-- Digits can stand for a key as well as for an index. -/
inductive Names (segment : String) : Branch → Prop
  | key : Names segment (.key segment)
  | index (h : IsPosition segment) : Names segment (.index (position segment))

namespace Value

variable {v w : Value} {segment : String} {branch : Branch} {address : List Branch}

/-- The second value is the part of the first one to which a branch leads. -/
inductive Holds : Value → Branch → Value → Prop
  | member {fields : List (String × Value)} {name : String} {w : Value}
      (h : Dictionary.find? name fields = some w) : Holds (.object fields) (.key name) w
  | element {items : List Value} {i : Nat} {w : Value} (h : items[i]? = some w) :
      Holds (.array items) (.index i) w

/-- An address leads to a value. Below the root it passes no null, and the value is none. -/
inductive HasAt : Value → List Branch → Value → Prop
  | root {v : Value} : HasAt v [] v
  | child {v w u : Value} {branch : Branch} {address : List Branch} (hHolds : v.Holds branch w)
      (hNull : w ≠ .null) (h : HasAt w address u) : HasAt v (branch :: address) u

def IsContainer : Value → Prop
  | .array _ | .object _ => True
  | _ => False

/-- Why nothing is reached from a value with one more segment. -/
inductive Stops : Value → String → Lookup → Prop
  | noContainer {v : Value} {segment : String} (h : ¬ v.IsContainer) :
      Stops v segment (.typeMismatch segment)
  | noPosition {items : List Value} {segment : String} (h : ¬ IsPosition segment) :
      Stops (.array items) segment (.typeMismatch segment)
  | noMember {fields : List (String × Value)} {segment : String}
      (h : Dictionary.find? segment fields = none) :
      Stops (.object fields) segment (.missing segment)
  | noElement {items : List Value} {segment : String} (h : IsPosition segment)
      (hLength : items.length ≤ position segment) :
      Stops (.array items) segment (.missing segment)
  | null {v : Value} {segment : String} {branch : Branch} (hNames : Names segment branch)
      (hHolds : v.Holds branch .null) : Stops v segment (.null segment)

/-- What comes of following segments. All before the one at which a walk stops lead somewhere. -/
inductive Ends (document : Value) (segments : List String) : Lookup → Prop
  | found {address : List Branch} {v : Value} (hNames : List.Forall₂ Names segments address)
      (hAt : document.HasAt address v) : Ends document segments (.found v)
  | stopped {before after : List String} {segment : String} {address : List Branch} {v : Value}
      {failure : Lookup} (hSegments : segments = before ++ segment :: after)
      (hNames : List.Forall₂ Names before address) (hAt : document.HasAt address v)
      (hStops : v.Stops segment failure) : Ends document segments failure

end Value

/-! ## Segments in writing -/

namespace Path

theorem toList_intercalate (parts : List String) :
    (".".intercalate parts).toList = Text.joinWith '.' (parts.map String.toList) := by
  rw [String.toList_intercalate, Text.joinWith_eq_intercalate]
  rfl

theorem exists_isCut (path : String) : ∃ segments, IsCut path segments := by
  have hSegments : ((segments path.toList).map String.ofList).map String.toList =
      segments path.toList := by
    simp
  refine ⟨(segments path.toList).map String.ofList, ?_, ?_, ?_⟩
  · exact mt List.map_eq_nil_iff.1 (segments_ne_nil path.toList)
  · intro segment hMem
    obtain ⟨part, hPart, rfl⟩ := List.mem_map.1 hMem
    rw [String.toList_ofList]
    exact Text.notMem_of_mem_splitOn hPart
  · apply String.toList_inj.1
    rw [toList_intercalate, hSegments]
    exact Text.joinWith_splitOn '.' path.toList

theorem segments_of_isCut {path : String} {parts : List String} (h : IsCut path parts) :
    segments path.toList = parts.map String.toList := by
  rw [← h.join, toList_intercalate]
  apply Text.splitOn_joinWith (mt List.map_eq_nil_iff.1 h.ne_nil)
  intro part hMem
  obtain ⟨segment, hSegment, rfl⟩ := List.mem_map.1 hMem
  exact h.dot_notMem segment hSegment

end Path

namespace Branch

theorem names_text (branch : Branch) : Names branch.text branch := by
  cases branch with
  | key name => exact .key
  | index i =>
    have hNames : Names (toString i) (.index (position (toString i))) :=
      .index (Path.isPosition_toString i)
    rwa [Path.position_toString] at hNames

/-- There is no full stop in an index. -/
theorem dot_notMem_text {branch : Branch} (h : ∀ name, branch = .key name → '.' ∉ name.toList) :
    '.' ∉ branch.text.toList := by
  cases branch with
  | key name => exact h name rfl
  | index i => exact fun hMem ↦ absurd ((Path.isPosition_toString i).2 '.' hMem) (by decide)

end Branch

/-! ## Indices in machine words -/

/-- One more digit behind a number; there is no word for what a word cannot hold. -/
def pushDigit? (n : UInt64) (c : Char) : Option UInt64 :=
  let next := 10 * n.toNat + (c.toNat - '0'.toNat)
  if next < UInt64.size then some (UInt64.ofNat next) else none

def word? (digits : List Char) : Option UInt64 := digits.foldlM pushDigit? 0

/-- Once a number is too large, no further digit makes it smaller. -/
theorem foldlM_pushDigit? (digits : List Char) (n : UInt64) :
    digits.foldlM pushDigit? n =
      if Nat.ofDigitChars 10 digits n.toNat < UInt64.size then
        some (UInt64.ofNat (Nat.ofDigitChars 10 digits n.toNat))
      else none := by
  induction digits generalizing n with
  | nil => rw [List.foldlM_nil, Nat.ofDigitChars_nil, if_pos n.toNat_lt, UInt64.ofNat_toNat]; rfl
  | cons c digits ih =>
    rw [Nat.ofDigitChars_cons, List.foldlM_cons, pushDigit?]
    by_cases hNext : 10 * n.toNat + (c.toNat - '0'.toNat) < UInt64.size
    · simp only [if_pos hNext, Option.bind_eq_bind, Option.bind_some]
      rw [ih, UInt64.toNat_ofNat_of_lt' hNext]
    · have hRest := le_ofDigitChars digits (10 * n.toNat + (c.toNat - '0'.toNat))
      simp only [if_neg hNext, Option.bind_eq_bind, Option.bind_none]
      rw [if_neg (by omega)]

namespace Value

/-- The value one segment further, where indices are read into words. -/
def childByWord (v : Value) (segment : String) : Child :=
  match v with
  | .array items =>
    if IsPosition segment then
      ((word? segment.toList).bind fun i ↦ items[i.toNat]?).elim .absent .at
    else .noContainer
  | v => v.child segment.toList

/-- The lists of a document are short enough for a memory. -/
def FitsMemory (document : Value) : Prop :=
  ∀ address items, document.HasAt address (.array items) → items.length < UInt64.size

theorem getElem?_word {items : List Value} (hLength : items.length < UInt64.size)
    (segment : String) :
    (word? segment.toList).bind (fun i ↦ items[i.toNat]?) = items[position segment]? := by
  rw [word?, foldlM_pushDigit?, position, UInt64.toNat_zero]
  split
  · next hFits => rw [Option.bind_some, UInt64.toNat_ofNat_of_lt' hFits]
  · next hLarge => exact (List.getElem?_eq_none (by omega)).symm

/-- What a word cannot hold is no index of a list that fits into a memory. -/
theorem FitsMemory.childByWord_eq {document v : Value} (h : document.FitsMemory)
    {address : List Branch} (hAt : document.HasAt address v) (segment : String) :
    v.childByWord segment = v.child segment.toList := by
  cases v with
  | null | bool | number | string | object => rfl
  | array items =>
    rw [childByWord, getElem?_word (h address items hAt)]
    by_cases hPosition : IsPosition segment
    · rw [if_pos hPosition, child_array items hPosition]
      cases items[position segment]? with
      | none | some => rfl
    · simp only [child, Path.position?_eq, if_neg hPosition]

end Value

/-! ## Walking along segments -/

namespace Value

variable {v w : Value} {segment : String} {branch : Branch} {address : List Branch}

/-- What one segment comes to, at whatever value. -/
theorem child_spec (v : Value) (segment : String) :
    match v.child segment.toList with
    | .at w => ∃ branch, Names segment branch ∧ v.Holds branch w
    | .absent => v.Stops segment (.missing segment)
    | .noContainer => v.Stops segment (.typeMismatch segment) := by
  cases v with
  | null | bool | number | string => exact .noContainer id
  | object fields =>
    cases hFind : Dictionary.find? segment fields with
    | none => simpa only [child, String.ofList_toList, hFind] using .noMember hFind
    | some w =>
      simpa only [child, String.ofList_toList, hFind] using ⟨.key segment, .key, .member hFind⟩
  | array items =>
    by_cases hPosition : IsPosition segment
    · rw [child_array items hPosition]
      cases hItem : items[position segment]? with
      | none => exact .noElement hPosition (List.getElem?_eq_none_iff.1 hItem)
      | some w => exact ⟨.index (position segment), .index hPosition, .element hItem⟩
    · simpa only [child, Path.position?_eq, if_neg hPosition] using .noPosition hPosition

theorem child_of_holds (hNames : Names segment branch) (hHolds : v.Holds branch w) :
    v.child segment.toList = .at w := by
  cases hHolds with
  | member h =>
    cases hNames
    simp only [child, String.ofList_toList, h]
  | element h =>
    cases hNames with
    | index hPosition => rw [child_array _ hPosition, h]

theorem walk_of_holds (hNames : Names segment branch) (hHolds : v.Holds branch w)
    (hNull : w ≠ .null) (rest : List (List Char)) :
    v.walk (segment.toList :: rest) = w.walk rest := by
  rw [walk, child_of_holds hNames hHolds]
  cases w with
  | null => exact absurd rfl hNull
  | bool | number | string | array | object => rfl

theorem walk_of_stops {failure : Lookup} (h : v.Stops segment failure)
    (rest : List (List Char)) : v.walk (segment.toList :: rest) = failure := by
  cases h with
  | noContainer h =>
    have hChild : v.child segment.toList = .noContainer := by
      cases v with
      | null | bool | number | string => rfl
      | array | object => exact absurd trivial h
    simp only [walk, hChild, String.ofList_toList]
  | noPosition h => simp only [walk, child, Path.position?_eq, if_neg h, String.ofList_toList]
  | noMember h => simp only [walk, child, String.ofList_toList, h]
  | noElement h hLength =>
    simp only [walk, child_array _ h, List.getElem?_eq_none hLength, String.ofList_toList]
  | null hNames hHolds => simp only [walk, child_of_holds hNames hHolds, String.ofList_toList]

theorem walk_of_hasAt {segments : List String} (hNames : List.Forall₂ Names segments address)
    (hAt : v.HasAt address w) : v.walk (segments.map String.toList) = .found w := by
  induction hAt generalizing segments with
  | root =>
    cases hNames
    rfl
  | child hHolds hNull _ ih =>
    cases hNames with
    | cons hFirst hRest =>
      rw [List.map_cons, walk_of_holds hFirst hHolds hNull]
      exact ih hRest

theorem Stops.ends {failure : Lookup} (h : v.Stops segment failure) (after : List String) :
    v.Ends (segment :: after) failure :=
  .stopped (List.nil_append _).symm .nil .root h

/-- What the remaining segments end with, the whole walk ends with. -/
theorem Ends.of_holds {segments : List String} {result : Lookup} (hNames : Names segment branch)
    (hHolds : v.Holds branch w) (hNull : w ≠ .null) (h : w.Ends segments result) :
    v.Ends (segment :: segments) result := by
  cases h with
  | found hRest hAt => exact .found (.cons hNames hRest) (.child hHolds hNull hAt)
  | stopped hSegments hRest hAt hStops =>
    exact .stopped (congrArg (segment :: ·) hSegments) (.cons hNames hRest)
      (.child hHolds hNull hAt) hStops

theorem ends_walk (v : Value) (segments : List String) :
    v.Ends segments (v.walk (segments.map String.toList)) := by
  induction segments generalizing v with
  | nil => exact .found .nil .root
  | cons segment rest ih =>
    have hSpec := child_spec v segment
    rw [List.map_cons]
    cases hChild : v.child segment.toList with
    | noContainer | absent =>
      have hStops := by simpa only [hChild] using hSpec
      rw [walk_of_stops hStops]
      exact hStops.ends rest
    | «at» w =>
      obtain ⟨branch, hNames, hHolds⟩ := by simpa only [hChild] using hSpec
      by_cases hNull : w = .null
      · have hStops : v.Stops segment (.null segment) := .null hNames (hNull ▸ hHolds)
        rw [walk_of_stops hStops]
        exact hStops.ends rest
      · rw [walk_of_holds hNames hHolds hNull]
        exact (ih w).of_holds hNames hHolds hNull

/-- A walk has one end only, so the ends that are told apart are all the ends there are. -/
theorem walk_eq_iff {segments : List String} {result : Lookup} :
    v.walk (segments.map String.toList) = result ↔ v.Ends segments result := by
  refine ⟨fun h ↦ h ▸ ends_walk v segments, fun h ↦ ?_⟩
  cases h with
  | found hNames hAt => exact walk_of_hasAt hNames hAt
  | stopped hSegments hNames hAt hStops =>
    rw [hSegments, List.map_append, List.map_cons, walk_append, walk_of_hasAt hNames hAt]
    exact walk_of_stops hStops _

theorem isCut_address (hAddress : address ≠ [])
    (hDots : ∀ name, .key name ∈ address → '.' ∉ name.toList) :
    IsCut (".".intercalate (address.map Branch.text)) (address.map Branch.text) where
  ne_nil := mt List.map_eq_nil_iff.1 hAddress
  dot_notMem text hMem := by
    obtain ⟨branch, hBranch, rfl⟩ := List.mem_map.1 hMem
    exact Branch.dot_notMem_text fun name hName ↦ hDots name (hName ▸ hBranch)
  join := rfl

/-- A path is an address in writing, and every address that can be written is found. Indices may
be read into words as long as the lists of the document fit into a memory. -/
theorem lookup_follows_addresses (document : Value) :
    (∀ path, ∃ segments, IsCut path segments) ∧
      (∀ path segments, IsCut path segments →
        ∀ result, document.lookup path = result ↔ document.Ends segments result) ∧
      (∀ address v, address ≠ [] → (∀ name, .key name ∈ address → '.' ∉ name.toList) →
        document.HasAt address v →
          document.lookup (".".intercalate (address.map Branch.text)) = .found v) ∧
      (document.FitsMemory → ∀ address v, document.HasAt address v →
        ∀ segment, v.childByWord segment = v.child segment.toList) := by
  have hEnds : ∀ path segments, IsCut path segments →
      ∀ result, document.lookup path = result ↔ document.Ends segments result := by
    intro path segments hCut result
    rw [lookup, Path.segments_of_isCut hCut]
    exact walk_eq_iff
  refine ⟨Path.exists_isCut, hEnds, fun address v hAddress hDots hAt ↦ ?_,
    fun hFits _ _ ↦ hFits.childByWord_eq⟩
  have hNames : List.Forall₂ Names (address.map Branch.text) address :=
    List.forall₂_map_left_iff.2 (List.forall₂_same.2 fun branch _ ↦ branch.names_text)
  exact (hEnds _ _ (isCut_address hAddress hDots) _).2 (.found hNames hAt)

/-- A document with a null, a key of digits and a key with a full stop. -/
def cellar : Value :=
  .object [("items", .array [.null, .object [("0", .string "wine"), ("a.b", .bool true)]])]

theorem lookup_follows_addresses_cellar :
    cellar.lookup "items.01.0" = .found (.string "wine") ∧
      cellar.lookup "items.0.x" = .null "0" ∧
      cellar.lookup "items.18446744073709551616" = .missing "18446744073709551616" := by
  have hItems : List.Forall₂ Names ["items"] [.key "items"] := .cons .key .nil
  have hList : cellar.HasAt [.key "items"] _ := .child (.member rfl) nofun .root
  obtain ⟨-, hEnds, -, -⟩ := lookup_follows_addresses cellar
  refine ⟨(hEnds _ ["items", "01", "0"] ⟨nofun, by decide, rfl⟩ _).2 ?_,
    (hEnds _ ["items", "0", "x"] ⟨nofun, by decide, rfl⟩ _).2 ?_,
    (hEnds _ ["items", "18446744073709551616"] ⟨nofun, by decide, rfl⟩ _).2 ?_⟩
  · refine .found (.cons .key (.cons (.index (by decide)) (.cons .key .nil))) ?_
    exact .child (.member rfl) nofun
      (.child (.element rfl) nofun (.child (.member rfl) nofun .root))
  · exact .stopped rfl hItems hList (.null (.index (by decide)) (.element rfl))
  · exact .stopped rfl hItems hList (.noElement (by decide) (by decide))

end Value

end StorefrontLoad.Json
