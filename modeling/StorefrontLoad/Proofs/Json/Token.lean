import StorefrontLoad.Json.Token
import StorefrontLoad.Proofs.Text.Utf8

/-!
# Reading back strings and numbers

A string is written so that no character of it can end it, and each escape is undone by itself; what
stands behind the closing quotation mark does not matter. A number has no closing mark: it is read
back from the front of a text as soon as what stands behind it cannot continue it.
-/

namespace StorefrontLoad.Json

open Text (Symbol)

/-! ## Strings -/

theorem hexDigit?_digitChar {n : Nat} (h : n < 16) :
    hexDigit? (some (Nat.digitChar n)) = some n := by
  have hAll : ∀ n < 16, hexDigit? (some (Nat.digitChar n)) = some n := by decide
  exact hAll n h

theorem escapeSequence_control {c : Char} (h : c.toNat < 0x20) (rest : Rest) :
    escapeSequence (some 'u' :: some '0' :: some '0' :: some (Nat.digitChar (c.toNat / 16)) ::
      some (Nat.digitChar (c.toNat % 16)) :: rest) = .ok (c, rest) := by
  have hHigh := hexDigit?_digitChar (n := c.toNat / 16) (by omega)
  have hLow := hexDigit?_digitChar (n := c.toNat % 16) (by omega)
  have hHex : hexEscape (some '0' :: some '0' :: some (Nat.digitChar (c.toNat / 16)) ::
      some (Nat.digitChar (c.toNat % 16)) :: rest) = .ok (c.toNat, rest) := by
    have hValue : ((0 * 16 + 0) * 16 + c.toNat / 16) * 16 + c.toNat % 16 = c.toNat := by omega
    have hZero : hexDigit? (some '0') = some 0 := rfl
    simp only [hexEscape, List.take_succ_cons, List.take_zero, List.mapM_cons, List.mapM_nil, hZero,
      hHigh, hLow, Option.pure_def, Option.bind_eq_bind, Option.bind_some, hValue,
      List.drop_succ_cons, List.drop_zero]
  have hPlain : isLowSurrogate c.toNat = false ∧ isHighSurrogate c.toNat = false := by
    simp [isLowSurrogate, isHighSurrogate]
    omega
  rw [escapeSequence, unicodeEscape, hHex]
  simp [bind, Except.bind, hPlain]

theorem stringBody_of_escape {c : Char} {fuel : Nat} {rest after : Rest}
    (h : escapeSequence rest = .ok (c, after)) :
    stringBody (fuel + 1) (some '\\' :: rest) =
      (stringBody fuel after).map fun (body, left) ↦ (some c :: body, left) := by
  rw [stringBody, if_neg (by decide), if_pos rfl, h]
  simp only [bind, Except.bind]
  cases stringBody fuel after <;> rfl

theorem stringBody_of_plain {c : Char} (hQuote : c ≠ '"') (hBackslash : c ≠ '\\')
    (hControl : ¬ c.toNat < 0x20) (fuel : Nat) (rest : Rest) :
    stringBody (fuel + 1) (some c :: rest) =
      (stringBody fuel rest).map fun (body, left) ↦ (some c :: body, left) := by
  rw [stringBody, if_neg (by simpa using hQuote), if_neg (by simpa using hBackslash),
    if_neg (by simpa [isControl] using hControl)]
  simp only [bind, Except.bind]
  cases stringBody fuel rest <;> rfl

theorem stringBody_escape (c : Char) (fuel : Nat) (rest : Rest) :
    stringBody (fuel + 1) (Text.symbolsOfText (escape c) ++ rest) =
      (stringBody fuel rest).map fun (body, left) ↦ (some c :: body, left) := by
  unfold escape
  split
  · exact stringBody_of_escape rfl
  · exact stringBody_of_escape rfl
  · exact stringBody_of_escape rfl
  · exact stringBody_of_escape rfl
  · exact stringBody_of_escape rfl
  · exact stringBody_of_escape rfl
  · exact stringBody_of_escape rfl
  · next hQuote hBackslash _ _ _ _ _ =>
    split
    · next hControl => exact stringBody_of_escape (escapeSequence_control hControl rest)
    · next hControl => exact stringBody_of_plain hQuote hBackslash hControl fuel rest

theorem stringBody_escaped {chars : List Char} {fuel : Nat} (hFuel : chars.length < fuel)
    (rest : Rest) :
    stringBody fuel (Text.symbolsOfText (chars.flatMap escape) ++ some '"' :: rest) =
      .ok (chars.map some, rest) := by
  induction chars generalizing fuel with
  | nil =>
    obtain ⟨fuel, rfl⟩ := Nat.exists_eq_add_of_lt hFuel
    rfl
  | cons c chars ih =>
    cases fuel with
    | zero => cases hFuel
    | succ fuel =>
      rw [List.flatMap_cons, Text.symbolsOfText_append, List.append_assoc, stringBody_escape,
        ih (Nat.lt_of_succ_lt_succ hFuel)]
      rfl

theorem string_escaped {s : String} {fuel : Nat} (hFuel : s.toList.length < fuel) (rest : Rest) :
    string fuel (Text.symbolsOfText (s.toList.flatMap escape) ++ some '"' :: rest) =
      .ok (s, rest) := by
  have hAll : (s.toList.map some).mapM id = some s.toList := by
    induction s.toList with
    | nil => rfl
    | cons c chars ih => simp [ih]
  rw [string, stringBody_escaped hFuel]
  simp [bind, Except.bind, hAll]



theorem symbolsOfText_quote (s : String) (rest : Rest) : Text.symbolsOfText (quote s) ++ rest =
    some '"' :: (Text.symbolsOfText (s.toList.flatMap escape) ++ some '"' :: rest) := by
  simp [quote]

/-! ## Numbers -/

/-- Nothing at the start of `rest` continues a number. -/
def EndsNumber (rest : Rest) : Prop :=
  ∀ s ∈ rest.head?, isDigit s = false ∧ s ≠ some '.' ∧ s ≠ some 'e' ∧ s ≠ some 'E'

theorem takeWhile_isDigit_append {rest : Rest} (h : EndsNumber rest) (text : Rest) :
    (text ++ rest).takeWhile isDigit = text.takeWhile isDigit ∧
      (text ++ rest).dropWhile isDigit = text.dropWhile isDigit ++ rest := by
  induction text with
  | nil =>
    cases rest with
    | nil => exact ⟨rfl, rfl⟩
    | cons s rest => simp [(h s rfl).1]
  | cons s text ih =>
    cases hDigit : isDigit s <;> simp [hDigit, ih]

theorem gather_append {rest : Rest} (h : EndsNumber rest) (significand : Nat) (text : Rest) :
    gather significand (text ++ rest) =
      ((gather significand text).1, (gather significand text).2.1,
        (gather significand text).2.2 ++ rest) := by
  induction text generalizing significand with
  | nil =>
    cases rest with
    | nil => rfl
    | cons s rest =>
      have hDigit : digit? s = none := by simpa [isDigit] using (h s rfl).1
      simp [gather, hDigit]
  | cons s text ih =>
    rw [List.cons_append, gather, gather]
    cases digit? s with
    | none => rfl
    | some d =>
      dsimp only
      split
      · rfl
      · rw [ih]

theorem gather_suffix (significand : Nat) (text : Rest) :
    (gather significand text).2.2 <:+ text := by
  induction text generalizing significand with
  | nil => exact List.suffix_refl _
  | cons s text ih =>
    rw [gather]
    cases digit? s with
    | none => exact List.suffix_refl _
    | some d =>
      dsimp only
      split
      · exact List.suffix_refl _
      · exact (ih _).trans (List.suffix_cons s text)

/-- What is read at the start of a text is read there whatever stands behind the text, and the rest
of the text is left. -/
def IsLocal {α : Type} (read : Rest → Except ReadError (α × Rest)) : Prop :=
  ∀ (text left : Rest) (a : α), read text = .ok (a, left) →
    left <:+ text ∧ ∀ rest, EndsNumber rest → read (text ++ rest) = .ok (a, left ++ rest)

theorem real_isLocal (positive : Bool) (significand : Nat) (exponent : Int) :
    IsLocal (real positive significand exponent) := by
  intro text left n h
  unfold real at h ⊢
  cases hScaled : Decimal.scaled? significand.toUInt64 exponent with
  | none => simp [hScaled] at h
  | some x =>
    rw [hScaled] at h
    cases h
    exact ⟨List.suffix_refl _, fun _ _ ↦ rfl⟩

theorem isExponentMark_append {text rest : Rest} (h : EndsNumber rest) :
    isExponentMark (text ++ rest) = isExponentMark text := by
  cases text with
  | cons s text => rfl
  | nil =>
    cases rest with
    | nil => rfl
    | cons s rest =>
      obtain ⟨_, _, hLower, hUpper⟩ := h s rfl
      simp [isExponentMark, hLower, hUpper]


/-- Reading may first pass over some symbols of the text. -/
theorem IsLocal.of_suffix {α : Type} {read : Rest → Except ReadError (α × Rest)}
    (hRead : IsLocal read) {shorter text left : Rest} {a : α} (hSuffix : shorter <:+ text)
    (h : read shorter = .ok (a, left)) :
    left <:+ text ∧ ∀ rest, EndsNumber rest → read (shorter ++ rest) = .ok (a, left ++ rest) :=
  ⟨(hRead _ _ _ h).1.trans hSuffix, (hRead _ _ _ h).2⟩

/-- The digits of an exponent whose sign has been taken. -/
def exponentDigits (positive negative : Bool) (significand : Nat) (shift : Int) (rest : Rest) :
    Except ReadError (Number × Rest) :=
  match rest with
  | [] => .error .endInValue
  | s :: _ =>
    if isDigit s then
      let exponent : Int := digitsValue (rest.takeWhile isDigit)
      real positive significand (if negative then shift - exponent else shift + exponent)
        (rest.dropWhile isDigit)
    else .error .invalidNumber

theorem exponentDigits_isLocal (positive negative : Bool) (significand : Nat) (shift : Int) :
    IsLocal (exponentDigits positive negative significand shift) := by
  intro text left n h
  cases text with
  | nil => cases h
  | cons s text =>
    rw [exponentDigits] at h
    split at h
    · next hDigit =>
      have hLocal := (real_isLocal _ _ _).of_suffix (List.dropWhile_suffix _) h
      refine ⟨hLocal.1, fun rest hEnds ↦ ?_⟩
      obtain ⟨hTaken, hLeft⟩ := takeWhile_isDigit_append hEnds (s :: text)
      rw [List.cons_append] at hTaken hLeft
      rw [List.cons_append, exponentDigits, if_pos hDigit, hTaken, hLeft]
      exact hLocal.2 rest hEnds
    · cases h

theorem exponentPart_of_unsigned {s : Symbol} (hPlus : s ≠ some '+') (hMinus : s ≠ some '-')
    (positive : Bool) (significand : Nat) (shift : Int) (rest : Rest) :
    exponentPart positive significand shift (s :: rest) =
      exponentDigits positive false significand shift (s :: rest) := by
  unfold exponentPart
  split
  next heq =>
    split at heq
    · next hList => exact absurd (List.cons.inj hList).1 hPlus
    · next hList => exact absurd (List.cons.inj hList).1 hMinus
    · cases heq
      rfl

theorem exponentPart_isLocal (positive : Bool) (significand : Nat) (shift : Int) :
    IsLocal (exponentPart positive significand shift) := by
  intro text left n h
  cases text with
  | nil => cases h
  | cons s text =>
    by_cases hPlus : s = some '+'
    · subst hPlus
      exact (exponentDigits_isLocal _ false _ _).of_suffix (List.suffix_cons _ text) h
    · by_cases hMinus : s = some '-'
      · subst hMinus
        exact (exponentDigits_isLocal _ true _ _).of_suffix (List.suffix_cons _ text) h
      · rw [exponentPart_of_unsigned hPlus hMinus] at h
        have hLocal := exponentDigits_isLocal _ _ _ _ _ _ _ h
        refine ⟨hLocal.1, fun rest hEnds ↦ ?_⟩
        rw [List.cons_append, exponentPart_of_unsigned hPlus hMinus]
        exact hLocal.2 rest hEnds

theorem scale_isLocal (positive : Bool) (significand : Nat) (shift : Int) :
    IsLocal (scale positive significand shift) := by
  intro text left n h
  rw [scale] at h
  split at h
  · next hMark =>
    have hLocal := (exponentPart_isLocal _ _ _).of_suffix (List.drop_suffix 1 text) h
    refine ⟨hLocal.1, fun rest hEnds ↦ ?_⟩
    have hSome : 1 ≤ text.length := by
      cases text with
      | nil => cases hMark
      | cons s text => simp
    rw [scale, isExponentMark_append hEnds, if_pos hMark, List.drop_append_of_le_length hSome]
    exact hLocal.2 rest hEnds
  · next hMark =>
    have hLocal := real_isLocal _ _ _ _ _ _ h
    refine ⟨hLocal.1, fun rest hEnds ↦ ?_⟩
    rw [scale, isExponentMark_append hEnds, if_neg hMark]
    exact hLocal.2 rest hEnds

theorem fractionPart_isLocal (positive : Bool) (significand : Nat) (shift : Int) :
    IsLocal (fractionPart positive significand shift) := by
  intro text left n h
  cases text with
  | nil => cases h
  | cons s text =>
    rw [fractionPart] at h
    split at h
    · next hDigit =>
      have hSuffix : (skipDigits (gather significand (s :: text)).2.2).2 <:+ s :: text :=
        (List.dropWhile_suffix _).trans (gather_suffix _ _)
      have hLocal := (scale_isLocal _ _ _).of_suffix hSuffix h
      refine ⟨hLocal.1, fun rest hEnds ↦ ?_⟩
      rw [List.cons_append, fractionPart, if_pos hDigit, ← List.cons_append,
        gather_append hEnds]
      dsimp only [skipDigits]
      rw [(takeWhile_isDigit_append hEnds _).2]
      exact hLocal.2 rest hEnds
    · cases h


/-- What follows an integer part behind which no point stands. -/
def integerEnd (positive : Bool) (significand skipped : Nat) (rest : Rest) :
    Except ReadError (Number × Rest) :=
  if skipped = 0 ∧ ¬ isExponentMark rest then .ok (wholeNumber positive significand, rest)
  else scale positive significand skipped rest

theorem integerEnd_isLocal (positive : Bool) (significand skipped : Nat) :
    IsLocal (integerEnd positive significand skipped) := by
  intro text left n h
  rw [integerEnd] at h
  split at h
  · next hWhole =>
    cases h
    refine ⟨List.suffix_refl _, fun rest hEnds ↦ ?_⟩
    rw [integerEnd, isExponentMark_append hEnds, if_pos hWhole]
  · next hScaled =>
    have hLocal := scale_isLocal _ _ _ _ _ _ h
    refine ⟨hLocal.1, fun rest hEnds ↦ ?_⟩
    rw [integerEnd, isExponentMark_append hEnds, if_neg hScaled]
    exact hLocal.2 rest hEnds

theorem afterInteger_eq {rest : Rest} (hPoint : rest.head? ≠ some (some '.')) (positive : Bool)
    (significand skipped : Nat) :
    afterInteger positive significand skipped rest =
      integerEnd positive significand skipped rest := by
  unfold afterInteger
  split
  · exact absurd rfl hPoint
  · rfl

theorem afterInteger_isLocal (positive : Bool) (significand skipped : Nat) :
    IsLocal (afterInteger positive significand skipped) := by
  intro text left n h
  by_cases hPoint : text.head? = some (some '.')
  · obtain ⟨text, rfl⟩ := List.head?_eq_some_iff.1 hPoint
    exact (fractionPart_isLocal _ _ _).of_suffix (List.suffix_cons _ text) h
  · rw [afterInteger_eq hPoint] at h
    have hLocal := integerEnd_isLocal _ _ _ _ _ _ h
    refine ⟨hLocal.1, fun rest hEnds ↦ ?_⟩
    have hNone : (text ++ rest).head? ≠ some (some '.') := by
      cases text with
      | nil => exact fun hHead ↦ (hEnds _ hHead).2.1 rfl
      | cons s text => exact hPoint
    rw [afterInteger_eq hNone]
    exact hLocal.2 rest hEnds

theorem number_isLocal (positive : Bool) : IsLocal (number positive) := by
  intro text left n h
  cases text with
  | nil => cases h
  | cons s text =>
    rw [number] at h
    split at h
    · next hZero =>
      split at h
      · cases h
      · next hDigit =>
        have hLocal := (afterInteger_isLocal _ _ _).of_suffix (List.suffix_cons s text) h
        refine ⟨hLocal.1, fun rest hEnds ↦ ?_⟩
        have hNone : startsWithDigit (text ++ rest) ≠ true := by
          cases text with
          | cons s text => exact hDigit
          | nil =>
            cases rest with
            | nil => exact hDigit
            | cons s rest => simp [startsWithDigit, (hEnds s rfl).1]
        rw [List.cons_append, number, if_pos hZero, if_neg hNone]
        exact hLocal.2 rest hEnds
    · next hZero =>
      split at h
      · next hDigit =>
        have hSuffix : (skipDigits (gather 0 (s :: text)).2.2).2 <:+ s :: text :=
          (List.dropWhile_suffix _).trans (gather_suffix _ _)
        have hLocal := (afterInteger_isLocal _ _ _).of_suffix hSuffix h
        refine ⟨hLocal.1, fun rest hEnds ↦ ?_⟩
        obtain ⟨hTaken, hLeft⟩ := takeWhile_isDigit_append hEnds (gather 0 (s :: text)).2.2
        rw [List.cons_append, number, if_neg hZero, if_pos hDigit, ← List.cons_append,
          gather_append hEnds]
        dsimp only [skipDigits]
        rw [hTaken, hLeft]
        exact hLocal.2 rest hEnds
      · cases h

/-! ### Whole numbers -/

theorem digit?_of_isDigit {c : Char} (h : c.isDigit) :
    digit? (some c) = some (c.toNat - '0'.toNat) := by
  have hRange : '0' ≤ c ∧ c ≤ '9' := by simpa [Char.isDigit, Char.le_def] using h
  rw [digit?, if_pos hRange]

theorem le_ofDigitChars (chars : List Char) (significand : Nat) :
    significand ≤ Nat.ofDigitChars 10 chars significand := by
  rw [Nat.ofDigitChars_eq_ofDigitChars_zero]
  have hPow : 0 < 10 ^ chars.length := Nat.pow_pos (by decide)
  exact Nat.le_trans (Nat.le_mul_of_pos_left _ hPow) (Nat.le_add_right _ _)

/-- Digits whose value fits are gathered to the last one. -/
theorem gather_digits {chars : List Char} (hDigits : ∀ c ∈ chars, c.isDigit) {significand : Nat}
    (hFits : Nat.ofDigitChars 10 chars significand ≤ largestSignificand) :
    gather significand (Text.symbolsOfText chars) =
      (Nat.ofDigitChars 10 chars significand, chars.length, []) := by
  induction chars generalizing significand with
  | nil => simp [gather, Text.symbolsOfText]
  | cons c chars ih =>
    have hDigit := digit?_of_isDigit (hDigits c List.mem_cons_self)
    rw [Nat.ofDigitChars_cons, Nat.mul_comm] at hFits ⊢
    have hFirst := Nat.le_trans (le_ofDigitChars _ _) hFits
    have hRest := ih (fun d hMem ↦ hDigits d (List.mem_cons_of_mem _ hMem)) hFits
    rw [Text.symbolsOfText_cons, gather, hDigit]
    dsimp only
    rw [if_neg (Nat.not_lt.2 hFirst), hRest]
    rfl

/-- Only zero is written with a zero in front. -/
theorem toDigits_zero_cons {n : Nat} {chars : List Char} (h : Nat.toDigits 10 n = '0' :: chars) :
    n = 0 ∧ chars = [] := by
  induction n using Nat.strongRecOn generalizing chars with
  | ind n ih =>
    rw [Nat.toDigits_eq_if (by decide)] at h
    split at h
    · next hSmall =>
      have hZero : ∀ k < 10, Nat.digitChar k = '0' → k = 0 := by decide
      obtain ⟨hDigit, hNil⟩ := List.cons.inj h
      exact ⟨hZero n hSmall hDigit, hNil.symm⟩
    · next hLarge =>
      cases hText : Nat.toDigits 10 (n / 10) with
      | nil => exact absurd hText Nat.toDigits_ne_nil
      | cons c more =>
        rw [hText, List.cons_append] at h
        obtain ⟨rfl, _⟩ := List.cons.inj h
        have hZero := (ih (n / 10) (by omega) hText).1
        omega

theorem number_toDigits (positive : Bool) {n : Nat} (hFits : n ≤ largestSignificand) :
    number positive (Text.symbolsOfText (Nat.toDigits 10 n)) =
      .ok (wholeNumber positive n, []) := by
  have hDigits : ∀ c ∈ Nat.toDigits 10 n, c.isDigit := fun c hMem ↦
    Nat.isDigit_of_mem_toDigits (by decide) (by decide) hMem
  have hGather : gather 0 (Text.symbolsOfText (Nat.toDigits 10 n)) =
      (n, (Nat.toDigits 10 n).length, []) := by
    have hAll : Nat.ofDigitChars 10 (Nat.toDigits 10 n) 0 = n := Nat.ofDigitChars_ten_toDigits
    rw [gather_digits hDigits (by rwa [hAll]), hAll]
  cases hText : Nat.toDigits 10 n with
  | nil => exact absurd hText Nat.toDigits_ne_nil
  | cons c chars =>
    by_cases hZero : c = '0'
    · subst hZero
      obtain ⟨rfl, rfl⟩ := toDigits_zero_cons hText
      rfl
    · have hFirst : isDigit (some c) = true := by
        simp [isDigit, digit?_of_isDigit (hDigits c (hText ▸ List.mem_cons_self))]
      rw [hText] at hGather
      rw [Text.symbolsOfText_cons] at hGather ⊢
      rw [number, if_neg (by simpa using hZero), if_pos hFirst, hGather]
      rfl

end StorefrontLoad.Json
