import StorefrontLoad.Json.Decoder
import StorefrontLoad.Proofs.Dictionary
import StorefrontLoad.Proofs.Json.Printer
import StorefrontLoad.Proofs.Json.Token
import Mathlib.Data.List.DropRight

/-!
# Reading back what was written

A decoder reads a written value back when it takes exactly the text of the value from the front of
any text in which that text is not continued by a number. This is enough to put decoders together:
what stands in an object or in a list is followed by a comma or a closing bracket, and a record, a
dictionary or a list is read back as soon as its parts are.
-/

namespace StorefrontLoad.Json

open Text (symbolsOfText)

/-! ## Blanks and the end of a document -/

@[simp] theorem skipBlanks_cons {s : Text.Symbol} (h : isBlank s = false) (rest : Rest) :
    skipBlanks (s :: rest) = s :: rest := by
  simp [skipBlanks, h]

theorem all_isBlank_of_endDocument {rest : Rest} (h : endDocument rest = .ok ()) :
    ∀ s ∈ rest, isBlank s = true := by
  have hNil : skipBlanks rest = [] := by
    unfold endDocument at h
    split at h
    · next hNil => exact hNil
    · cases h
  exact List.dropWhile_eq_nil_iff.1 hNil

theorem IsNumeral.isBlank {text : List Char} (h : IsNumeral text) :
    ∀ c ∈ text, isBlank (some c) = false := by
  intro c hMem
  have hAbove := h.lt_toNat c hMem
  have hBlanks : ∀ b ∈ [' ', '\t', '\n', '\r'], b.toNat ≤ 0x20 := by simp
  have hNone (b : Char) (hMem : b ∈ [' ', '\t', '\n', '\r']) : c ≠ b := by
    rintro rfl
    have hBelow := hBlanks c hMem
    omega
  simp [Json.isBlank, hNone]

theorem skipBlanks_append {text : Rest} (h : skipBlanks text ≠ []) (rest : Rest) :
    skipBlanks (text ++ rest) = skipBlanks text ++ rest := by
  induction text with
  | nil => exact absurd rfl h
  | cons s text ih =>
    cases hBlank : isBlank s with
    | false => simp [hBlank]
    | true =>
      have hSkip : ∀ more, skipBlanks (s :: more) = skipBlanks more := fun more ↦
        List.dropWhile_cons_of_pos hBlank
      rw [hSkip] at h
      rw [List.cons_append, hSkip, hSkip, ih h]

theorem startsWithDigit_append {text : Rest} (h : startsWithDigit text = true) (rest : Rest) :
    startsWithDigit (text ++ rest) = true := by
  cases text with
  | nil => cases h
  | cons s text => exact h

theorem endsNumber_nil : EndsNumber [] := by simp [EndsNumber]

theorem endsNumber_comma (rest : Rest) : EndsNumber (some ',' :: rest) := by
  rintro s ⟨⟩
  decide

theorem endsNumber_brace (rest : Rest) : EndsNumber (some '}' :: rest) := by
  rintro s ⟨⟩
  decide

theorem endsNumber_bracket (rest : Rest) : EndsNumber (some ']' :: rest) := by
  rintro s ⟨⟩
  decide

namespace Decoder

variable {α : Type}

/-- From the front of any text that does not go on as a number, `decode` takes `text` for `a`. Up to
`depth` containers may be nested in it. -/
def Reads (decode : Decoder α) (depth : Nat) (text : List Char) (a : α) : Prop :=
  ∀ fuel rest, text.length ≤ fuel → EndsNumber rest →
    decode fuel depth (symbolsOfText text ++ rest) = .ok (a, rest)

theorem Reads.document {decode : Decoder α} {text : List Char} {a : α}
    (h : decode.Reads deepest text a) : document decode (symbolsOfText text) = .ok a := by
  have hRead := h (symbolsOfText text).length [] (by simp) endsNumber_nil
  rw [List.append_nil] at hRead
  rw [Json.document, hRead]
  rfl

/-! ## Scalars -/

theorem reads_string (depth : Nat) (s : String) : string.Reads depth (quote s) s := by
  intro fuel rest hFuel _
  have hLength := length_lt_quote s
  rw [symbolsOfText_quote]
  exact string_escaped (by omega) rest

theorem exists_of_accept {accept : Number → Except ReadError α}
    {read : Except ReadError (Number × Rest)} {a : α} {left : Rest}
    (h : (do let (n, rest) ← read
             let a ← accept n
             .ok (a, rest)) = Except.ok (a, left)) :
    ∃ n, read = .ok (n, left) ∧ accept n = .ok a := by
  cases read with
  | error e => cases h
  | ok read =>
    obtain ⟨n, rest⟩ := read
    cases hAccept : accept n with
    | error e => simp [bind, Except.bind, hAccept] at h
    | ok b =>
      simp only [bind, Except.bind, hAccept, Except.ok.injEq, Prod.mk.injEq] at h
      obtain ⟨rfl, rfl⟩ := h
      exact ⟨n, rfl, hAccept⟩

theorem numeric_of_digit {rest : Rest} (h : startsWithDigit (skipBlanks rest) = true)
    (expected : String) (accept : Number → Except ReadError α) (fuel depth : Nat) :
    numeric expected accept fuel depth rest = (do
      let (n, rest) ← number true (skipBlanks rest)
      let a ← accept n
      .ok (a, rest)) := by
  unfold numeric
  split
  · next hSkip =>
    rw [hSkip] at h
    cases h
  · next hSkip =>
    rw [hSkip] at h
    cases h
  · rw [if_pos h]

/-- What is read as a number is read as the same one, with any bounds, in front of whatever ends a
number. -/
theorem numeric_append {expected : String} {accept : Number → Except ReadError α}
    {fuel depth : Nat} {text left : Rest} {a : α}
    (h : numeric expected accept fuel depth text = .ok (a, left)) :
    left <:+ text ∧ ∀ fuel depth rest, EndsNumber rest →
      numeric expected accept fuel depth (text ++ rest) = .ok (a, left ++ rest) := by
  have hSuffix : skipBlanks text <:+ text := List.dropWhile_suffix _
  unfold numeric at h
  split at h
  · cases h
  · next more hSkip =>
    obtain ⟨n, hNumber, hAccept⟩ := exists_of_accept h
    rw [hSkip] at hSuffix
    have hMore : more <:+ text := (List.suffix_cons _ more).trans hSuffix
    have hLocal := (number_isLocal false).of_suffix hMore hNumber
    refine ⟨hLocal.1, fun fuel depth rest hEnds ↦ ?_⟩
    rw [numeric, skipBlanks_append (by simp [hSkip]), hSkip, List.cons_append]
    simp [hLocal.2 rest hEnds, hAccept, bind, Except.bind]
  · next hSome _ =>
    split at h
    · next hDigit =>
      obtain ⟨n, hNumber, hAccept⟩ := exists_of_accept h
      have hLocal := (number_isLocal true).of_suffix hSuffix hNumber
      refine ⟨hLocal.1, fun fuel depth rest hEnds ↦ ?_⟩
      have hSkip := skipBlanks_append hSome rest
      rw [numeric_of_digit (by rw [hSkip]; exact startsWithDigit_append hDigit rest), hSkip,
        hLocal.2 rest hEnds]
      simp [hAccept, bind, Except.bind]
    · cases h

/-- A text that is read to its end as a number is read back. -/
theorem reads_of_numeric {expected : String} {accept : Number → Except ReadError α}
    {fuel depth : Nat} {text : List Char} {a : α}
    (h : numeric expected accept fuel depth (symbolsOfText text) = .ok (a, [])) (inside : Nat) :
    (numeric expected accept).Reads inside text a :=
  fun fuel rest _ hEnds ↦ (numeric_append h).2 fuel inside rest hEnds

theorem numeric_toDigits {accept : Number → Except ReadError α} {n : Nat} {a : α}
    (hFits : n ≤ largestSignificand) (h : accept (.whole n) = .ok a) (expected : String)
    (fuel depth : Nat) :
    numeric expected accept fuel depth (symbolsOfText (Nat.toDigits 10 n)) = .ok (a, []) := by
  cases hText : Nat.toDigits 10 n with
  | nil => exact absurd hText Nat.toDigits_ne_nil
  | cons c chars =>
    have hDigit : c.isDigit :=
      Nat.isDigit_of_mem_toDigits (n := n) (by decide) (Nat.le_refl 10) (hText ▸ List.mem_cons_self)
    have hBlank := (isNumeral_toDigits n).isBlank c (hText ▸ List.mem_cons_self)
    have hNumber := number_toDigits true hFits
    rw [hText, Text.symbolsOfText_cons] at hNumber
    rw [Text.symbolsOfText_cons, numeric_of_digit, skipBlanks_cons hBlank, hNumber]
    · simp [wholeNumber, h, bind, Except.bind]
    · rw [skipBlanks_cons hBlank]
      simp [startsWithDigit, isDigit, digit?_of_isDigit hDigit]

theorem numeric_minus_toDigits {accept : Number → Except ReadError α} {n : Nat} {a : α}
    (hFits : n + 1 ≤ UInt64.size / 2) (h : accept (.whole (-(n + 1 : Nat))) = .ok a)
    (expected : String) (fuel depth : Nat) :
    numeric expected accept fuel depth (symbolsOfText ('-' :: Nat.toDigits 10 (n + 1))) =
      .ok (a, []) := by
  have hHalf : UInt64.size / 2 = 9223372036854775808 := rfl
  have hNumber := number_toDigits false (n := n + 1) (by simp [largestSignificand]; omega)
  have hWhole : wholeNumber false (n + 1) = .whole (-(n + 1 : Nat)) := by
    rw [wholeNumber, if_neg (by decide), if_neg (by omega)]
  rw [hWhole] at hNumber
  rw [Text.symbolsOfText_cons, numeric, skipBlanks_cons (by decide)]
  simp only [hNumber, bind, Except.bind, h]

theorem reads_unsigned (expected : String) (depth : Nat) (n : UInt64) :
    (unsigned expected).Reads depth (Nat.toDigits 10 n.toNat) n :=
  reads_of_numeric
    (numeric_toDigits (Nat.le_of_lt_succ n.toNat_lt) (by simp) expected 0 0) depth

theorem reads_signed (depth : Nat) (n : Int64) : signed.Reads depth (wholeText n.toInt) n := by
  have hHalf : UInt64.size / 2 = 9223372036854775808 := rfl
  have hLow := n.le_toInt
  have hHigh := n.toInt_lt
  have hBack := Int64.ofInt_toInt n
  cases hInt : n.toInt with
  | ofNat k =>
    rw [hInt, Int.ofNat_eq_natCast] at hBack hHigh
    have hFits : k < UInt64.size / 2 := by omega
    have hAccept : (if (k : Int).toNat < UInt64.size / 2 then .ok (Int64.ofInt k)
        else .error (.invalidValue k "i64")) = (Except.ok n : Except ReadError Int64) := by
      rw [if_pos (by simpa using hFits)]
      exact congrArg Except.ok hBack
    have hSmall : k ≤ largestSignificand := by
      rw [largestSignificand]
      omega
    exact reads_of_numeric (numeric_toDigits hSmall hAccept "i64" 0 0) depth
  | negSucc k =>
    rw [hInt] at hBack hLow
    have hAccept : (if (-(k + 1 : Nat) : Int).toNat < UInt64.size / 2
        then .ok (Int64.ofInt (-(k + 1 : Nat)))
        else .error (.invalidValue (-(k + 1 : Nat)) "i64")) =
          (Except.ok n : Except ReadError Int64) := by
      rw [if_pos (by rw [hHalf]; omega)]
      exact congrArg Except.ok hBack
    exact reads_of_numeric (numeric_minus_toDigits (by omega) hAccept "i64" 0 0) depth

/-- A double that is read from its text by itself is read back from it. -/
theorem reads_real {text : List Char} {x : Float} (hBlanks : ∀ c ∈ text, isBlank (some c) = false)
    (h : Json.document real (symbolsOfText text) = .ok x) (depth : Nat) :
    real.Reads depth text x := by
  unfold Json.document at h
  cases hRead : real (symbolsOfText text).length deepest (symbolsOfText text) with
  | error e =>
    rw [hRead] at h
    cases h
  | ok read =>
    obtain ⟨y, left⟩ := read
    rw [hRead] at h
    cases hEnd : endDocument left with
    | error e => simp [bind, Except.bind, hEnd] at h
    | ok done =>
      obtain rfl : y = x := by simpa [bind, Except.bind, hEnd] using h
      -- Only blanks may be left of the document, and the text holds none.
      have hNil : left = [] := by
        apply List.eq_nil_iff_forall_not_mem.2
        intro s hMem
        have hSuffix := (numeric_append hRead).1
        obtain ⟨c, hText, rfl⟩ := List.mem_map.1 (hSuffix.mem hMem)
        simpa [hBlanks c hText] using all_isBlank_of_endDocument hEnd _ hMem
      subst hNil
      exact reads_of_numeric hRead depth

/-- The text cannot be taken for `null`. -/
def NotNull (text : List Char) : Prop :=
  ∃ c chars, text = c :: chars ∧ isBlank (some c) = false ∧ c ≠ 'n'

theorem notNull_of_isNumeral {text : List Char} (h : IsNumeral text) (hSome : text ≠ []) :
    NotNull text := by
  cases text with
  | nil => exact absurd rfl hSome
  | cons c chars =>
    refine ⟨c, chars, rfl, h.isBlank c List.mem_cons_self, ?_⟩
    rintro rfl
    have hNone : ¬ ('n'.isDigit ∨ 'n' ∈ ['-', '+', '.', 'e']) := by decide
    exact hNone (h 'n' List.mem_cons_self)

theorem reads_optional {decode : Decoder α} {text : α → List Char} {depth : Nat} {o : Option α}
    (h : ∀ a ∈ o, decode.Reads depth (text a) a ∧ NotNull (text a)) :
    (optional decode).Reads depth (optionText text o) o := by
  intro fuel rest hFuel hEnds
  cases o with
  | none => rfl
  | some a =>
    obtain ⟨hReads, c, chars, hText, hBlank, hNull⟩ := h a rfl
    have hRead := hReads fuel rest hFuel hEnds
    rw [hText, Text.symbolsOfText_cons, List.cons_append] at hRead
    rw [optionText, hText, Text.symbolsOfText_cons, List.cons_append, optional,
      skipBlanks_cons hBlank]
    split
    · next hList => exact absurd (Option.some.inj (List.cons.inj hList).1) hNull
    · rw [hRead]
      rfl

end Decoder

/-! ## Members of an object -/

theorem endsNumber_membersText (members : List (String × List Char)) (rest : Rest) :
    EndsNumber (symbolsOfText (membersText false members) ++ some '}' :: rest) := by
  cases members with
  | nil => exact endsNumber_brace rest
  | cons member members => exact endsNumber_comma _

theorem nextKey_quote (fuel : Nat) (first : Bool) {key : String} (hFuel : (quote key).length ≤ fuel)
    (rest : Rest) :
    nextKey fuel first (symbolsOfText ((if first then [] else [',']) ++ quote key) ++ rest) =
      .ok (some (key, rest)) := by
  have hLength := length_lt_quote key
  have hString : string fuel (symbolsOfText (key.toList.flatMap escape) ++ some '"' :: rest) =
      .ok (key, rest) := string_escaped (by omega) rest
  cases first with
  | true =>
    rw [if_pos rfl, List.nil_append, symbolsOfText_quote]
    simp [nextKey, isBlank, hString, Except.map]
  | false =>
    rw [if_neg (by decide), Text.symbolsOfText_append, List.append_assoc,
      symbolsOfText_quote]
    simp [nextKey, isBlank, hString, Except.map]

section Members

variable {σ : Type} {entry : σ → String → Rest → Except ReadError (σ × Rest)}

/-- One after the other the members take the first state to the last one. -/
inductive Takes (entry : σ → String → Rest → Except ReadError (σ × Rest)) :
    σ → List (String × List Char) → σ → Prop
  | nil (state : σ) : Takes entry state [] state
  | cons {state next last : σ} {key : String} {value : List Char}
      {more : List (String × List Char)} :
      (∀ rest, EndsNumber rest →
        entry state key (some ':' :: (symbolsOfText value ++ rest)) = .ok (next, rest)) →
      Takes entry next more last → Takes entry state ((key, value) :: more) last

theorem members_membersText {state last : σ} {texts : List (String × List Char)}
    (h : Takes entry state texts last) {fuel turns : Nat} (hTurns : texts.length < turns)
    (first : Bool) (hFuel : (membersText first texts).length ≤ fuel) (rest : Rest) :
    members fuel entry turns first state
      (symbolsOfText (membersText first texts) ++ some '}' :: rest) = .ok (last, rest) := by
  -- Each member takes one turn, and what stands behind its value is a comma or the closing bracket.
  induction h generalizing turns first with
  | nil state =>
    obtain ⟨turns, rfl⟩ := Nat.exists_eq_add_of_lt hTurns
    rfl
  | @cons state next last key value more hEntry _ ih =>
    cases turns with
    | zero => cases hTurns
    | succ turns =>
      have hText : symbolsOfText (membersText first ((key, value) :: more)) ++ some '}' :: rest =
          symbolsOfText ((if first then [] else [',']) ++ quote key) ++ (some ':' ::
            (symbolsOfText value ++
              (symbolsOfText (membersText false more) ++ some '}' :: rest))) := by
        simp [membersText]
      have hLength : (quote key).length ≤ fuel ∧ (membersText false more).length ≤ fuel := by
        simp only [membersText, List.length_append, List.length_cons] at hFuel
        omega
      rw [hText, members, nextKey_quote fuel first hLength.1]
      simp only [bind, Except.bind]
      rw [hEntry _ (endsNumber_membersText more rest)]
      exact ih (Nat.lt_of_succ_lt_succ hTurns) false hLength.2

theorem members_objectText {state last : σ} {texts : List (String × List Char)}
    (h : Takes entry state texts last) {fuel : Nat} (hFuel : (objectText texts).length ≤ fuel)
    (rest : Rest) :
    ∃ more, symbolsOfText (objectText texts) ++ rest = some '{' :: more ∧
      members fuel entry fuel true state more = .ok (last, rest) := by
  have hLength := length_le_membersText true texts
  rw [objectText_eq] at hFuel ⊢
  simp only [List.cons_append, List.length_cons, List.length_append, List.length_nil] at hFuel
  refine ⟨symbolsOfText (membersText true texts) ++ some '}' :: rest, by simp, ?_⟩
  exact members_membersText h (by omega) true (by omega) rest

end Members

/-! ## Dictionaries -/

namespace Decoder

variable {α : Type}

theorem takes_insertMember {decode : Decoder α} {text : α → List Char} {depth fuel : Nat}
    {taken entries : Dictionary α} (hSorted : Dictionary.Sorted (taken ++ entries))
    (h : ∀ entry ∈ entries, decode.Reads depth (text entry.2) entry.2 ∧
      (text entry.2).length ≤ fuel) :
    Takes (insertMember (decode fuel depth)) taken (entries.map fun (key, a) ↦ (key, text a))
      (taken ++ entries) := by
  -- The keys come in order, so each entry goes to the end of those that have been taken.
  induction entries generalizing taken with
  | nil =>
    rw [List.append_nil]
    exact .nil taken
  | cons entry entries ih =>
    obtain ⟨key, a⟩ := entry
    obtain ⟨hReads, hFuel⟩ := h _ List.mem_cons_self
    have hLess : ∀ entry ∈ taken, entry.1 < key := fun entry hMem ↦
      (List.pairwise_append.1 hSorted).2.2 entry hMem _ List.mem_cons_self
    rw [List.append_cons] at hSorted ⊢
    refine .cons (fun rest hEnds ↦ ?_) (ih hSorted fun entry hMem ↦
      h entry (List.mem_cons_of_mem _ hMem))
    rw [insertMember, colon, skipBlanks_cons (by decide)]
    simp only [if_pos, bind, Except.bind]
    rw [hReads fuel rest hFuel hEnds]
    exact congrArg (fun grown ↦ Except.ok (grown, rest)) (Dictionary.insert_eq_append hLess a)

/-- A dictionary is read back when its values are. -/
theorem reads_dictionary {decode : Decoder α} {text : α → List Char} {depth : Nat}
    {entries : Dictionary α} (hSorted : Dictionary.Sorted entries)
    (h : ∀ entry ∈ entries, decode.Reads depth (text entry.2) entry.2) :
    (dictionary decode).Reads (depth + 1)
      (objectText (entries.map fun (key, a) ↦ (key, text a))) entries := by
  intro fuel rest hFuel hEnds
  have hTakes : Takes (insertMember (decode fuel depth)) []
      (entries.map fun (key, a) ↦ (key, text a)) entries := by
    have hAll : Dictionary.Sorted ([] ++ entries) := hSorted
    refine takes_insertMember hAll fun entry hMem ↦ ⟨h entry hMem, ?_⟩
    exact (length_le_objectText (List.mem_map.2 ⟨entry, hMem, rfl⟩)).trans hFuel
  obtain ⟨more, hText, hMembers⟩ := members_objectText hTakes hFuel rest
  rw [hText, dictionary, skipBlanks_cons (by decide)]
  exact hMembers

end Decoder

/-! ## Lists -/

/-- An element that starts like this is neither passed over nor taken for the end of its list. -/
def StartsElement (text : List Char) : Prop :=
  ∃ c chars, text = c :: chars ∧ isBlank (some c) = false ∧ c ≠ ']'

theorem startsElement_objectText (members : List (String × List Char)) :
    StartsElement (objectText members) := by
  rw [objectText_eq]
  exact ⟨'{', _, rfl, by decide, by decide⟩

theorem nextElement_text (first : Bool) {text : List Char} (h : StartsElement text) (rest : Rest) :
    nextElement first (symbolsOfText ((if first then [] else [',']) ++ text) ++ rest) =
      .ok (some (symbolsOfText text ++ rest)) := by
  obtain ⟨c, chars, rfl, hBlank, hOpen⟩ := h
  have hComma : isBlank (some ',') = false := by decide
  cases first with
  | true => simp [nextElement, hBlank, hOpen]
  | false => simp [nextElement, hComma, hBlank, hOpen]

namespace Decoder

variable {α : Type} {text : α → List Char}

theorem elements_cons {item : Rest → Except ReadError (α × Rest)} {a : α} {rest left : Rest}
    {more : List α} {turns : Nat} (first : Bool) (hStarts : StartsElement (text a))
    (hItem : item (symbolsOfText (text a) ++ rest) = .ok (a, rest))
    (hMore : elements item turns false rest = .ok (more, left)) :
    elements item (turns + 1) first
      (symbolsOfText ((if first then [] else [',']) ++ text a) ++ rest) =
        .ok (a :: more, left) := by
  rw [elements, nextElement_text first hStarts]
  simp only [bind, Except.bind, hItem, hMore]

theorem endsNumber_elements (text : α → List Char) (items : List α) (rest : Rest) :
    EndsNumber (symbolsOfText ((items.map text).flatMap (',' :: ·)) ++ some ']' :: rest) := by
  cases items with
  | nil => exact endsNumber_bracket rest
  | cons a items => exact endsNumber_comma _

/-- What follows the first element of a list is read element by element, each behind a comma. -/
theorem elements_flatMap {decode : Decoder α} {fuel depth turns : Nat} {items : List α}
    (h : ∀ a ∈ items, decode.Reads depth (text a) a ∧ StartsElement (text a) ∧
      (text a).length ≤ fuel) (hTurns : items.length < turns) (rest : Rest) :
    elements (decode fuel depth) turns false
      (symbolsOfText ((items.map text).flatMap (',' :: ·)) ++ some ']' :: rest) =
        .ok (items, rest) := by
  -- Each element takes one turn, and one more is needed to see the closing bracket.
  induction items generalizing turns with
  | nil =>
    obtain ⟨turns, rfl⟩ := Nat.exists_eq_add_of_lt hTurns
    rfl
  | cons a items ih =>
    obtain ⟨⟨hReads, hStarts, hLength⟩, hItems⟩ := List.forall_mem_cons.1 h
    cases turns with
    | zero => cases hTurns
    | succ turns =>
      have hMore := ih hItems (Nat.lt_of_succ_lt_succ hTurns)
      have hItem := hReads fuel _ hLength (endsNumber_elements text items rest)
      simpa using elements_cons false hStarts hItem hMore

/-- A list is read back when its elements are. -/
theorem reads_list {decode : Decoder α} {depth : Nat} {items : List α}
    (h : ∀ a ∈ items, decode.Reads depth (text a) a ∧ StartsElement (text a)) :
    (list decode).Reads (depth + 1) ('[' :: commaSeparated (items.map text) ++ [']']) items := by
  intro fuel rest hFuel _
  simp only [List.cons_append, List.length_cons, List.length_append, List.length_nil] at hFuel
  have hTurns := length_le_commaSeparated (items.map text)
  rw [List.length_map] at hTurns
  have hEach : ∀ a ∈ items, decode.Reads depth (text a) a ∧ StartsElement (text a) ∧
      (text a).length ≤ fuel := by
    intro a hMem
    have hLength := length_part_le_commaSeparated (List.mem_map_of_mem (f := text) hMem)
    exact ⟨(h a hMem).1, (h a hMem).2, by omega⟩
  suffices hElements : elements (decode fuel depth) fuel true
      (symbolsOfText (commaSeparated (items.map text)) ++ some ']' :: rest) = .ok (items, rest) by
    simpa [list, isBlank] using hElements
  -- Only the first element stands without a comma.
  cases items with
  | nil =>
    obtain ⟨fuel, rfl⟩ := Nat.exists_eq_add_of_lt (show 0 < fuel by omega)
    rfl
  | cons a items =>
    obtain ⟨⟨hReads, hStarts, hLength⟩, hItems⟩ := List.forall_mem_cons.1 hEach
    rw [List.length_cons] at hTurns
    obtain ⟨turns, rfl⟩ := Nat.exists_eq_succ_of_ne_zero (show fuel ≠ 0 by omega)
    have hMore := elements_flatMap hItems (show items.length < turns by omega) rest
    have hItem := hReads _ _ hLength (endsNumber_elements text items rest)
    rw [List.map_cons, commaSeparated_eq]
    simpa using elements_cons true hStarts hItem hMore

end Decoder

/-! ## Records -/

namespace Record

variable {Draft α : Type}

/-- In the order of the fields each text fills a field that is not set yet. -/
inductive Fills (depth : Nat) :
    List (Field Draft) → Draft → List (String × List Char) → Draft → Prop
  | nil (draft : Draft) : Fills depth [] draft [] draft
  | cons {field : Field Draft} {fields : List (Field Draft)} {draft next last : Draft}
      {text : List Char} {more : List (String × List Char)} :
      field.isSet draft = false → Decoder.Reads (field.read draft) depth text next →
      Fills depth fields next more last →
      Fills depth (field :: fields) draft ((field.name, text) :: more) last

/-- A field that keeps what its decoder reads is filled by what this decoder reads back. -/
theorem Fills.of {β : Type} {name : String} {decode : Decoder β} {get : Draft → Option β}
    {set : Draft → β → Draft} {depth : Nat} {fields : List (Field Draft)} {draft last : Draft}
    {text : List Char} {b : β} {more : List (String × List Char)} (hNone : get draft = none)
    (hReads : decode.Reads depth text b) (h : Fills depth fields (set draft b) more last) :
    Fills depth (.of name decode get set :: fields) draft ((name, text) :: more) last := by
  have hUnset : (Field.of name decode get set).isSet draft = false := by simp [Field.of, hNone]
  refine .cons hUnset (fun fuel rest hFuel hEnds ↦ ?_) h
  have hRead := hReads fuel rest hFuel hEnds
  simp only [Field.of, hRead, Except.map]

/-- Whether an array may stop before a field makes no difference to an object. -/
theorem Fills.mayEnd {field : Field Draft} {depth : Nat} {fields : List (Field Draft)}
    {draft last : Draft} {texts : List (String × List Char)} (mayEnd : Bool)
    (h : Fills depth (field :: fields) draft texts last) :
    Fills depth ({ field with mayEnd := mayEnd } :: fields) draft texts last := by
  cases h with
  | cons hUnset hReads h => exact .cons hUnset hReads h

theorem find?_name {fields : List (Field Draft)} (hNames : (fields.map Field.name).Nodup)
    {field : Field Draft} (h : field ∈ fields) :
    fields.find? (·.name = field.name) = some field := by
  induction fields with
  | nil => cases h
  | cons first fields ih =>
    obtain ⟨hFirst, hNames⟩ := List.nodup_cons.1 hNames
    rcases List.mem_cons.1 h with rfl | hMem
    · simp
    · have hOther : first.name ≠ field.name := fun hEq ↦
        hFirst (hEq ▸ List.mem_map_of_mem hMem)
      rw [List.find?_cons_of_neg (by simpa using hOther), ih hNames hMem]

theorem Fills.takes {record : Record Draft α} (hNames : (record.fields.map Field.name).Nodup)
    {depth fuel : Nat} {fields : List (Field Draft)} {draft last : Draft}
    {texts : List (String × List Char)} (h : Fills depth fields draft texts last)
    (hFields : fields ⊆ record.fields) (hFuel : ∀ member ∈ texts, member.2.length ≤ fuel) :
    Takes (record.entry fuel depth) draft texts last := by
  induction h with
  | nil draft => exact .nil draft
  | @cons field fields draft next last text more hUnset hReads _ ih =>
    obtain ⟨hField, hFields⟩ := List.cons_subset.1 hFields
    refine .cons (fun rest hEnds ↦ ?_) (ih hFields fun member hMem ↦
      hFuel member (List.mem_cons_of_mem _ hMem))
    rw [entry, find?_name hNames hField]
    simp only [hUnset, Bool.false_eq_true, if_false, colon]
    rw [skipBlanks_cons (by decide)]
    exact hReads fuel rest (hFuel _ List.mem_cons_self) hEnds

/-- A record is read back when its fields are. -/
theorem reads_decoder {record : Record Draft α} (hNames : (record.fields.map Field.name).Nodup)
    {depth : Nat} {texts : List (String × List Char)} {last : Draft} {a : α}
    (h : Fills depth record.fields record.empty texts last) (hFinish : record.finish last = .ok a) :
    record.decoder.Reads (depth + 1) (objectText texts) a := by
  intro fuel rest hFuel hEnds
  have hTakes : Takes (record.entry fuel depth) record.empty texts last := by
    refine h.takes hNames (List.Subset.refl _) fun member hMem ↦ ?_
    exact (length_le_objectText hMem).trans hFuel
  obtain ⟨more, hText, hMembers⟩ := members_objectText hTakes hFuel rest
  rw [hText, decoder, skipBlanks_cons (by decide)]
  simp only [hMembers, bind, Except.bind, hFinish]

/-- Blanks before a record are passed over. -/
theorem decoder_skipBlanks (record : Record Draft α) (fuel depth : Nat) (rest : Rest) :
    record.decoder fuel depth (skipBlanks rest) = record.decoder fuel depth rest := by
  have hSkip : skipBlanks (skipBlanks rest) = skipBlanks rest := List.dropWhile_idempotent _ _
  unfold decoder
  rw [hSkip]

theorem decoder_eq_error (record : Record Draft α) (fuel depth : Nat) {rest more : Rest}
    {s : Text.Symbol} (hSkip : skipBlanks rest = s :: more) (hList : s ≠ some '[')
    (hObject : s ≠ some '{') : ∃ e, record.decoder fuel depth rest = .error e := by
  unfold decoder
  rw [hSkip]
  split
  · next heq => cases heq
  · next heq => exact absurd (List.cons.inj heq).1 hList
  · next heq => exact absurd (List.cons.inj heq).1 hObject
  · exact ⟨_, rfl⟩

end Record

end StorefrontLoad.Json
