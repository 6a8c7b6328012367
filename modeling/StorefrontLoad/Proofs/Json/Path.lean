import StorefrontLoad.Json.Path
import StorefrontLoad.Proofs.Text.Split

/-!
# Paths that pass through a list

A path leads where its second half leads from the end of the first. So what is found in an element
of a list is found from the root of the document too, under the path of the list and the position of
the element.
-/

namespace StorefrontLoad.Json

/-- The path of a part of an element of the list at a path. -/
def elementPath (path : String) (i : Nat) (part : String) : String :=
  path ++ "." ++ toString i ++ "." ++ part

/-- A written index: digits, of which the first ones may be zeros. -/
def IsPosition (segment : String) : Prop := segment ≠ "" ∧ ∀ c ∈ segment.toList, c.isDigit

instance (segment : String) : Decidable (IsPosition segment) :=
  decidable_of_iff (segment ≠ "" ∧ segment.toList.all Char.isDigit)
    (and_congr_right' List.all_eq_true)

def position (segment : String) : Nat := Nat.ofDigitChars 10 segment.toList 0

namespace Lookup

/-- Goes on from what was found; a failure stays what it is. -/
def andThen (reached : Lookup) (next : Value → Lookup) : Lookup :=
  match reached with
  | .found v => next v
  | failure => failure

theorem andThen_of_ne {reached : Lookup} (h : ∀ v, reached ≠ .found v) (next : Value → Lookup) :
    reached.andThen next = reached := by
  cases reached with
  | found v => exact absurd rfl (h v)
  | missing | null | typeMismatch => rfl

end Lookup

namespace Path

/-- A full stop between two paths joins their segments. -/
theorem segments_join (first rest : String) :
    segments (first ++ "." ++ rest).toList = segments first.toList ++ segments rest.toList := by
  have hJoin : (first ++ "." ++ rest).toList = first.toList ++ '.' :: rest.toList := by simp
  rw [hJoin]
  exact Text.splitOn_append '.' first.toList rest.toList

theorem segments_ne_nil (path : List Char) : segments path ≠ [] := Text.splitOn_ne_nil '.' path

theorem natOfDigits_eq (digits : List Char) :
    natOfDigits digits = Nat.ofDigitChars 10 digits 0 := by
  simp only [natOfDigits, Nat.ofDigitChars, Nat.mul_comm]

theorem isDecimalDigit_eq (c : Char) : isDecimalDigit c = c.isDigit := by
  simp [isDecimalDigit, Char.isDigit, Char.le_def, Bool.decide_and]

theorem position?_eq (segment : String) :
    position? segment.toList =
      if IsPosition segment then some (position segment) else none := by
  have hIff : (segment.toList ≠ [] ∧ segment.toList.all isDecimalDigit) ↔ IsPosition segment := by
    simp only [IsPosition, ne_eq, String.toList_eq_nil_iff, List.all_eq_true, isDecimalDigit_eq]
  simp only [position?, hIff, natOfDigits_eq, position]

/-- A position is written with digits and read back from them. -/
theorem isPosition_toString (i : Nat) : IsPosition (toString i) := by
  have hDigits : (toString i).toList = Nat.toDigits 10 i := by simp
  refine ⟨fun hEmpty ↦ ?_, fun c hMem ↦ ?_⟩
  · exact Nat.toDigits_ne_nil (hDigits.symm.trans (congrArg String.toList hEmpty))
  · exact Nat.isDigit_of_mem_toDigits (by decide) (by decide) (hDigits ▸ hMem)

theorem position_toString (i : Nat) : position (toString i) = i := by
  have hDigits : (toString i).toList = Nat.toDigits 10 i := by simp
  rw [position, hDigits, Nat.ofDigitChars_ten_toDigits]

theorem segments_toString (i : Nat) : segments (toString i).toList = [(toString i).toList] :=
  Text.splitOn_of_notMem fun hMem ↦ absurd ((isPosition_toString i).2 '.' hMem) (by decide)

end Path

namespace Value

theorem child_array (items : List Value) {segment : String} (h : IsPosition segment) :
    (Value.array items).child segment.toList =
      match items[position segment]? with
      | some w => .at w
      | none => .absent := by
  cases hItem : items[position segment]? with
  | none | some => simp only [child, Path.position?_eq, if_pos h, hItem]

/-- A walk goes on where its first part has ended, and a walk that has failed does not go on. -/
theorem walk_append (v : Value) (first rest : List (List Char)) :
    v.walk (first ++ rest) = (v.walk first).andThen (·.walk rest) := by
  induction first generalizing v with
  | nil => rfl
  | cons segment first ih =>
    rw [List.cons_append, walk, walk]
    cases v.child segment with
    | noContainer | absent => rfl
    | «at» w =>
      cases w with
      | null => rfl
      | bool | number | string | array | object => exact ih _

section Append

variable {document v : Value} {first : String}

theorem lookup_append (h : document.lookup first = .found v) (rest : String) :
    document.lookup (first ++ "." ++ rest) = v.lookup rest := by
  rw [lookup] at h
  rw [lookup, Path.segments_join, walk_append, h]
  rfl

theorem lookup_append_of_ne (h : ∀ v, document.lookup first ≠ .found v) (rest : String) :
    document.lookup (first ++ "." ++ rest) = document.lookup first := by
  unfold lookup at h ⊢
  rw [Path.segments_join, walk_append]
  exact Lookup.andThen_of_ne h _

end Append

/-- Looking up a path is looking up its second half from where the first half has led; a first half
that fails is how the whole path fails. A path may so be followed in any number of parts. -/
theorem lookup_composes (document : Value) :
    (∀ first rest, document.lookup (first ++ "." ++ rest) =
      match document.lookup first with
      | .found v => v.lookup rest
      | failure => failure) ∧
    ∀ first parts, document.lookup (".".intercalate (first :: parts)) =
      parts.foldl (fun reached part ↦ reached.andThen (·.lookup part)) (document.lookup first) := by
  have hTwo (first rest : String) : document.lookup (first ++ "." ++ rest) =
      (document.lookup first).andThen (·.lookup rest) := by
    rw [lookup, Path.segments_join, walk_append]
    rfl
  refine ⟨hTwo, fun first parts ↦ ?_⟩
  induction parts generalizing first with
  | nil => rfl
  | cons part parts ih =>
    calc document.lookup (".".intercalate (first :: part :: parts))
        = document.lookup (".".intercalate ((first ++ "." ++ part) :: parts)) := rfl
      _ = parts.foldl (fun reached part ↦ reached.andThen (·.lookup part))
            (document.lookup (first ++ "." ++ part)) := ih _
      _ = parts.foldl (fun reached part ↦ reached.andThen (·.lookup part))
            ((document.lookup first).andThen (·.lookup part)) := by rw [hTwo]

/-- A path of one segment fails at this segment. -/
theorem eq_of_lookup_eq_null {v : Value} {path segment : String} (hDot : '.' ∉ path.toList)
    (h : v.lookup path = .null segment) : segment = path := by
  have hSegments : Path.segments path.toList = [path.toList] := Text.splitOn_of_notMem hDot
  rw [lookup, hSegments, walk] at h
  split at h
  · cases h
  · cases h
  · rw [← Lookup.null.inj h, String.ofList_toList]
  · cases h

theorem extractString_eq_some_iff {document : Value} {path text : String} :
    document.extractString path = some text ↔ document.lookup path = .found (.string text) := by
  unfold extractString extract
  cases document.lookup path with
  | found v => cases v <;> simp [Lookup.found?, asString?]
  | missing | null | typeMismatch => simp [Lookup.found?]

theorem extractString_eq_none_iff {document : Value} {path : String} :
    document.extractString path = none ↔ ∀ text, document.lookup path ≠ .found (.string text) := by
  rw [Option.eq_none_iff_forall_ne_some]
  exact forall_congr' fun _ ↦ not_congr extractString_eq_some_iff

/-! ## Elements of lists -/

section Element

variable {document item : Value} {path : String} {items : List Value} {i : Nat}

theorem lookup_position (h : document.lookup path = .found (.array items))
    (hItem : items[i]? = some item) :
    document.lookup (path ++ "." ++ toString i) =
      match item with
      | .null => .null (toString i)
      | item => .found item := by
  have hChild : (Value.array items).child (toString i).toList = .at item := by
    rw [child_array items (Path.isPosition_toString i), Path.position_toString, hItem]
  rw [lookup_append h, lookup, Path.segments_toString, walk, hChild]
  cases item with
  | null => exact congrArg Lookup.null String.ofList_toList
  | bool | number | string | array | object => rfl

theorem lookup_element (h : document.lookup path = .found (.array items))
    (hItem : items[i]? = some item) (hNull : item ≠ .null) (rest : String) :
    document.lookup (elementPath path i rest) = item.lookup rest := by
  refine lookup_append ?_ rest
  rw [lookup_position h hItem]
  cases item with
  | null => exact absurd rfl hNull
  | bool | number | string | array | object => rfl

/-- A null holds nothing, whether the walk starts at it or comes to it. -/
theorem lookup_element_eq_found_iff (h : document.lookup path = .found (.array items))
    (hItem : items[i]? = some item) (rest : String) {v : Value} :
    document.lookup (elementPath path i rest) = .found v ↔
      item.lookup rest = .found v := by
  by_cases hNull : item = .null
  · subst hNull
    have hPosition : document.lookup (path ++ "." ++ toString i) = .null (toString i) :=
      lookup_position h hItem
    have hNone : ∀ w, document.lookup (path ++ "." ++ toString i) ≠ .found w := by
      rw [hPosition]
      nofun
    rw [elementPath, lookup_append_of_ne hNone, hPosition, lookup]
    cases hSegments : Path.segments rest.toList with
    | nil => exact absurd hSegments (Path.segments_ne_nil _)
    | cons segment more => simp [walk, child]
  · rw [lookup_element h hItem hNull]

end Element

end Value

end StorefrontLoad.Json
