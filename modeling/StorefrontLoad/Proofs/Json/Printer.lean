import StorefrontLoad.Json.Printer

/-!
# What a written value looks like

A written value holds no control character, so it stays on one line whatever its strings hold. A
number is written with digits and four other characters, none of which is a blank. The members of an
object are written one after the other, each after the first behind a comma.
-/

namespace StorefrontLoad.Json

/-! ## Lines -/

/-- No control character, and so no line break, is in the text. -/
def NoControl (text : List Char) : Prop := ∀ c ∈ text, 0x20 ≤ c.toNat

@[simp] theorem noControl_nil : NoControl [] := List.forall_mem_nil _

@[simp] theorem noControl_cons {c : Char} {text : List Char} :
    NoControl (c :: text) ↔ 0x20 ≤ c.toNat ∧ NoControl text := List.forall_mem_cons

@[simp] theorem noControl_append {text more : List Char} :
    NoControl (text ++ more) ↔ NoControl text ∧ NoControl more := List.forall_mem_append

theorem le_toNat_digitChar {n : Nat} (h : n < 16) : 0x20 ≤ (Nat.digitChar n).toNat := by
  have hAll : ∀ n < 16, 0x20 ≤ (Nat.digitChar n).toNat := by decide
  exact hAll n h

theorem noControl_escape (c : Char) : NoControl (escape c) := by
  unfold escape
  split
  iterate 7 simp
  split
  · next hControl =>
    have hHigh := le_toNat_digitChar (n := c.toNat / 16) (by omega)
    have hLow := le_toNat_digitChar (n := c.toNat % 16) (by omega)
    simp [hHigh, hLow]
  · next hPlain => simpa using hPlain

theorem noControl_quote (s : String) : NoControl (quote s) := by
  have hEscaped : NoControl (s.toList.flatMap escape) := by
    intro d hMem
    obtain ⟨c, _, hMem⟩ := List.mem_flatMap.1 hMem
    exact noControl_escape c d hMem
  simp [quote, hEscaped]

theorem noControl_commaSeparated {parts : List (List Char)} (h : ∀ part ∈ parts, NoControl part) :
    NoControl (commaSeparated parts) := by
  induction parts with
  | nil => exact noControl_nil
  | cons part parts ih =>
    obtain ⟨hPart, hParts⟩ := List.forall_mem_cons.1 h
    cases parts with
    | nil => exact hPart
    | cons next parts =>
      exact noControl_append.2 ⟨hPart, noControl_cons.2 ⟨by decide, ih hParts⟩⟩

theorem noControl_objectText {members : List (String × List Char)}
    (h : ∀ member ∈ members, NoControl member.2) : NoControl (objectText members) := by
  unfold objectText
  refine noControl_append.2 ⟨noControl_cons.2 ⟨by decide, noControl_commaSeparated ?_⟩, by simp⟩
  intro part hMem
  obtain ⟨member, hMember, rfl⟩ := List.mem_map.1 hMem
  exact noControl_append.2 ⟨noControl_quote _, noControl_cons.2 ⟨by decide, h member hMember⟩⟩

theorem noControl_optionText {α : Type} {text : α → List Char} {o : Option α}
    (h : ∀ a ∈ o, NoControl (text a)) : NoControl (optionText text o) := by
  cases o with
  | none => simp [optionText]
  | some a => exact h a rfl

/-! ## Numbers -/

/-- The text is made of the characters that occur in written numbers. -/
def IsNumeral (text : List Char) : Prop := ∀ c ∈ text, c.isDigit ∨ c ∈ ['-', '+', '.', 'e']

@[simp] theorem isNumeral_nil : IsNumeral [] := List.forall_mem_nil _

@[simp] theorem isNumeral_cons {c : Char} {text : List Char} :
    IsNumeral (c :: text) ↔ (c.isDigit ∨ c ∈ ['-', '+', '.', 'e']) ∧ IsNumeral text :=
  List.forall_mem_cons

@[simp] theorem isNumeral_append {text more : List Char} :
    IsNumeral (text ++ more) ↔ IsNumeral text ∧ IsNumeral more := List.forall_mem_append

theorem IsNumeral.of_subset {text more : List Char} (h : IsNumeral text) (hSubset : more ⊆ text) :
    IsNumeral more := fun c hMem ↦ h c (hSubset hMem)

theorem isNumeral_toDigits (n : Nat) : IsNumeral (Nat.toDigits 10 n) := fun _ hMem ↦
  .inl (Nat.isDigit_of_mem_toDigits (by decide) (by decide) hMem)

theorem isNumeral_zeros (count : Nat) : IsNumeral (List.replicate count '0') := by
  intro c hMem
  rw [List.eq_of_mem_replicate hMem]
  exact .inl rfl

theorem isNumeral_wholeText (n : Int) : IsNumeral (wholeText n) := by
  cases n with
  | ofNat k => exact isNumeral_toDigits k
  | negSucc k => exact isNumeral_cons.2 ⟨.inr (by decide), isNumeral_toDigits _⟩

theorem isNumeral_plainText (d : Decimal.Scientific) : IsNumeral (plainText d) := by
  have hDigits : IsNumeral d.digitChars := isNumeral_toDigits d.digits
  unfold plainText
  dsimp only
  split
  · simp [hDigits, isNumeral_zeros]
  · split
    · simp [hDigits.of_subset (List.take_subset _ _), hDigits.of_subset (List.drop_subset _ _)]
    · simp [hDigits, isNumeral_zeros]

theorem isNumeral_exponentText (d : Decimal.Scientific) : IsNumeral (exponentText d) := by
  have hDigits : IsNumeral d.digitChars := isNumeral_toDigits d.digits
  have hExponent := isNumeral_toDigits d.magnitude.natAbs
  have hTail : IsNumeral ('e' :: (if 0 ≤ d.magnitude then '+' else '-') ::
      Nat.toDigits 10 d.magnitude.natAbs) := by
    split <;> simp [hExponent]
  unfold exponentText
  dsimp only
  refine isNumeral_append.2 ⟨?_, hTail⟩
  match d.digitChars, hDigits with
  | [], _ => exact isNumeral_nil
  | [c], hDigits => exact hDigits
  | c :: next :: rest, hDigits =>
    obtain ⟨hFirst, hRest⟩ := isNumeral_cons.1 hDigits
    exact isNumeral_cons.2 ⟨hFirst, isNumeral_cons.2 ⟨.inr (by decide), hRest⟩⟩

theorem isNumeral_realText (x : Float) : IsNumeral (realText x) := by
  unfold realText
  dsimp only
  split <;> split <;>
    simp [isNumeral_plainText, isNumeral_exponentText]

theorem IsNumeral.lt_toNat {text : List Char} (h : IsNumeral text) :
    ∀ c ∈ text, 0x20 < c.toNat := by
  intro c hMem
  rcases h c hMem with hDigit | hSign
  · have hRange : 0x30 ≤ c.toNat := by
      simp only [Char.isDigit, Bool.and_eq_true, decide_eq_true_eq] at hDigit
      exact hDigit.1
    omega
  · have hAll : ∀ c ∈ ['-', '+', '.', 'e'], 0x20 < c.toNat := by simp
    exact hAll c hSign

theorem IsNumeral.noControl {text : List Char} (h : IsNumeral text) : NoControl text :=
  fun c hMem ↦ Nat.le_of_lt (h.lt_toNat c hMem)

/-! ## Members of an object -/

/-- Members as they are written, the first of them without a comma. -/
def membersText : Bool → List (String × List Char) → List Char
  | _, [] => []
  | first, (key, value) :: more =>
    (if first then [] else [',']) ++ quote key ++ ':' :: value ++ membersText false more

theorem commaSeparated_eq (first : List Char) (parts : List (List Char)) :
    commaSeparated (first :: parts) = first ++ parts.flatMap (',' :: ·) := by
  induction parts generalizing first with
  | nil => simp [commaSeparated]
  | cons part parts ih => simp [commaSeparated, ih]

theorem membersText_false (members : List (String × List Char)) : membersText false members =
    (members.map fun (key, value) ↦ quote key ++ ':' :: value).flatMap (',' :: ·) := by
  induction members with
  | nil => rfl
  | cons member members ih => simp [membersText, ih]

theorem objectText_eq (members : List (String × List Char)) :
    objectText members = '{' :: membersText true members ++ ['}'] := by
  cases members with
  | nil => rfl
  | cons member members =>
    rw [objectText, List.map_cons, commaSeparated_eq, ← membersText_false]
    simp [membersText]

/-! ## Lengths -/

theorem length_le_flatMap_escape (chars : List Char) :
    chars.length ≤ (chars.flatMap escape).length := by
  induction chars with
  | nil => exact Nat.le_refl _
  | cons c chars ih =>
    have hSome : 1 ≤ (escape c).length := by
      unfold escape
      split <;> try split
      all_goals simp
    rw [List.flatMap_cons, List.length_append, List.length_cons]
    omega

theorem length_lt_quote (s : String) : s.toList.length + 1 < (quote s).length := by
  have hEscaped := length_le_flatMap_escape s.toList
  simp only [quote, List.cons_append, List.length_cons, List.length_append, List.length_nil]
  omega

theorem length_le_membersText (first : Bool) (texts : List (String × List Char)) :
    texts.length ≤ (membersText first texts).length := by
  induction texts generalizing first with
  | nil => exact Nat.le_refl _
  | cons member more ih =>
    have hMore := ih false
    simp only [membersText, List.length_append, List.length_cons]
    omega

/-- Every part but the first has a comma of its own. -/
theorem length_le_commaSeparated (parts : List (List Char)) :
    parts.length ≤ (commaSeparated parts).length + 1 := by
  induction parts with
  | nil => exact Nat.zero_le _
  | cons part parts ih =>
    cases parts with
    | nil => exact Nat.le_add_left _ _
    | cons next parts =>
      simp only [commaSeparated, List.length_append, List.length_cons] at ih ⊢
      omega

theorem length_part_le_commaSeparated {parts : List (List Char)} {part : List Char}
    (h : part ∈ parts) : part.length ≤ (commaSeparated parts).length := by
  cases parts with
  | nil => cases h
  | cons first parts =>
    rw [commaSeparated_eq, List.length_append]
    rcases List.mem_cons.1 h with rfl | hMem
    · exact Nat.le_add_right _ _
    · have hRest : part.length ≤ (parts.flatMap (',' :: ·)).length := by
        apply List.Sublist.length_le
        exact (List.sublist_cons_self ',' part).trans
          (List.sublist_flatten_of_mem (List.mem_map_of_mem hMem))
      omega

theorem length_le_objectText {texts : List (String × List Char)} {key : String}
    {value : List Char} (h : (key, value) ∈ texts) : value.length ≤ (objectText texts).length := by
  have hMember := length_part_le_commaSeparated
    (List.mem_map_of_mem (f := fun (key, value) ↦ quote key ++ ':' :: value) h)
  simp only [objectText, List.length_append, List.length_cons] at hMember ⊢
  omega

end StorefrontLoad.Json
