import StorefrontLoad.Proofs.Json.Decoder

/-!
# A carriage return behind a document

A document may be followed by blanks. Reading a text with a carriage return behind it goes the same
way as reading it without: wherever one reading fails the other one fails, if not with the same
error, and where both go on they have read the same and the carriage return is left over.
-/

namespace StorefrontLoad.Json

open Text (Symbol)

/-! ## Readings that agree -/

/-- Both readings fail, or both give results that are related. -/
inductive Agree {β : Type} (R : β → β → Prop) : Except ReadError β → Except ReadError β → Prop
  | ok {x y : β} (related : R x y) : Agree R (.ok x) (.ok y)
  | error (e e' : ReadError) : Agree R (.error e) (.error e')

namespace Agree

variable {β γ : Type} {R : β → β → Prop} {S : γ → γ → Prop} {x y : Except ReadError β}

theorem mono (h : Agree R x y) {R' : β → β → Prop} (hR : ∀ a b, R a b → R' a b) : Agree R' x y := by
  cases h with
  | ok related => exact .ok (hR _ _ related)
  | error => exact .error _ _

theorem bind (h : Agree R x y) {f g : β → Except ReadError γ}
    (hNext : ∀ a b, R a b → Agree S (f a) (g b)) : Agree S (x >>= f) (y >>= g) := by
  cases h with
  | ok related => exact hNext _ _ related
  | error => exact .error _ _

theorem map (h : Agree R x y) {f g : β → γ} (hNext : ∀ a b, R a b → S (f a) (g b)) :
    Agree S (x.map f) (y.map g) := by
  cases h with
  | ok related => exact .ok (hNext _ _ related)
  | error => exact .error _ _

theorem toOption (h : Agree Eq x y) : y.toOption = x.toOption := by
  cases h with
  | ok hEq => rw [hEq]
  | error => rfl

end Agree

/-- The carriage return behind a text. -/
def withReturn (rest : Rest) : Rest := rest ++ [some '\r']

@[simp] theorem withReturn_cons (s : Symbol) (rest : Rest) :
    withReturn (s :: rest) = s :: withReturn rest := rfl

@[simp] theorem withReturn_nil : withReturn [] = [some '\r'] := rfl

/-- The same is left, except for the carriage return, and fewer symbols than the bound. -/
inductive Leaves (bound : Nat) : Rest → Rest → Prop
  | intro {left : Rest} (h : left.length < bound) : Leaves bound left (withReturn left)

/-- The same has been read. -/
inductive Reaches {α : Type} (bound : Nat) : α × Rest → α × Rest → Prop
  | intro (a : α) {left : Rest} (h : left.length < bound) :
      Reaches bound (a, left) (a, withReturn left)

theorem Leaves.mono {bound more : Nat} {left left' : Rest} (h : Leaves bound left left')
    (hBound : bound ≤ more) : Leaves more left left' := by
  obtain ⟨hLess⟩ := h
  exact ⟨Nat.lt_of_lt_of_le hLess hBound⟩

theorem Leaves.reaches {α : Type} {bound : Nat} {left left' : Rest} (h : Leaves bound left left')
    (a : α) : Reaches bound (a, left) (a, left') := by
  obtain ⟨hLess⟩ := h
  exact ⟨a, hLess⟩

theorem Reaches.mono {α : Type} {bound more : Nat} {read read' : α × Rest}
    (h : Reaches bound read read') (hBound : bound ≤ more) : Reaches more read read' := by
  obtain ⟨a, hLess⟩ := h
  exact ⟨a, Nat.lt_of_lt_of_le hLess hBound⟩

/-- A pattern that does not fit a text does not fit another text that begins the same way. -/
theorem not_fits {s t : Symbol} {rest other more : Rest} (hEq : s :: other = t :: more)
    (h : ∀ more, s :: rest = t :: more → False) : False :=
  h rest (congrArg (· :: rest) (List.cons.inj hEq).1)

/-! ## Blanks and literals -/

theorem skipBlanks_cases (rest : Rest) :
    (skipBlanks rest = [] ∧ skipBlanks (withReturn rest) = []) ∨
      ∃ s more, skipBlanks rest = s :: more ∧ skipBlanks (withReturn rest) = s :: withReturn more ∧
        more.length < rest.length := by
  cases hSkip : skipBlanks rest with
  | nil =>
    refine .inl ⟨rfl, List.dropWhile_eq_nil_iff.2 fun s hMem ↦ ?_⟩
    rcases List.mem_append.1 hMem with hOld | hReturn
    · exact List.dropWhile_eq_nil_iff.1 hSkip s hOld
    · rw [List.mem_singleton.1 hReturn]
      rfl
  | cons s more =>
    refine .inr ⟨s, more, rfl, ?_, ?_⟩
    · rw [withReturn, skipBlanks_append (by simp [hSkip]), hSkip]
      rfl
    · have hLength := (List.dropWhile_suffix isBlank (l := rest)).length_le
      rw [← skipBlanks, hSkip] at hLength
      exact hLength

theorem literal_agree {chars : List Char} (h : '\r' ∉ chars) (rest : Rest) :
    Agree (Leaves (rest.length + 1)) (literal chars rest) (literal chars (withReturn rest)) := by
  induction chars generalizing rest with
  | nil => exact .ok ⟨Nat.lt_succ_self _⟩
  | cons c chars ih =>
    obtain ⟨hFirst, hChars⟩ := List.ne_and_not_mem_of_not_mem_cons h
    cases rest with
    | nil =>
      rw [literal, withReturn_nil, literal, if_neg (by simpa using hFirst)]
      exact .error _ _
    | cons s rest =>
      rw [literal, withReturn_cons, literal]
      split
      · exact (ih hChars rest).mono fun _ _ hLeft ↦ hLeft.mono (by simp)
      · exact .error _ _

/-! ## Numbers -/

theorem endsNumber_return : EndsNumber [some '\r'] := by
  rintro s ⟨⟩
  decide

theorem real_agree (positive : Bool) (significand : Nat) (exponent : Int) (rest : Rest) :
    Agree (Reaches (rest.length + 1)) (real positive significand exponent rest)
      (real positive significand exponent (withReturn rest)) := by
  unfold real
  cases Decimal.scaled? significand.toUInt64 exponent with
  | none => exact .error _ _
  | some x => exact .ok ⟨_, Nat.lt_succ_self _⟩

theorem exponentDigits_agree (positive negative : Bool) (significand : Nat) (shift : Int)
    (rest : Rest) :
    Agree (Reaches (rest.length + 1)) (exponentDigits positive negative significand shift rest)
      (exponentDigits positive negative significand shift (withReturn rest)) := by
  cases rest with
  | nil => exact .error _ _
  | cons s rest =>
    rw [exponentDigits, withReturn_cons, exponentDigits]
    split
    · obtain ⟨hTaken, hLeft⟩ := takeWhile_isDigit_append endsNumber_return (s :: rest)
      rw [← withReturn_cons]
      unfold withReturn
      rw [hTaken, hLeft]
      refine (real_agree _ _ _ _).mono fun _ _ hReached ↦ hReached.mono ?_
      exact Nat.succ_le_succ (List.dropWhile_suffix _).length_le
    · exact .error _ _

theorem exponentPart_agree (positive : Bool) (significand : Nat) (shift : Int) (rest : Rest) :
    Agree (Reaches (rest.length + 1)) (exponentPart positive significand shift rest)
      (exponentPart positive significand shift (withReturn rest)) := by
  cases rest with
  | nil => exact .error _ _
  | cons s rest =>
    have hLess : rest.length + 1 ≤ (s :: rest).length + 1 := by simp
    by_cases hPlus : s = some '+'
    · subst hPlus
      exact (exponentDigits_agree positive false significand shift rest).mono fun _ _ hReached ↦
        hReached.mono hLess
    · by_cases hMinus : s = some '-'
      · subst hMinus
        exact (exponentDigits_agree positive true significand shift rest).mono fun _ _ hReached ↦
          hReached.mono hLess
      · rw [withReturn_cons, exponentPart_of_unsigned hPlus hMinus,
          exponentPart_of_unsigned hPlus hMinus]
        exact exponentDigits_agree positive false significand shift (s :: rest)

theorem scale_agree (positive : Bool) (significand : Nat) (shift : Int) (rest : Rest) :
    Agree (Reaches (rest.length + 1)) (scale positive significand shift rest)
      (scale positive significand shift (withReturn rest)) := by
  rw [scale, scale, withReturn, isExponentMark_append endsNumber_return]
  split
  · next hMark =>
    cases rest with
    | nil => cases hMark
    | cons s rest =>
      exact (exponentPart_agree positive significand shift rest).mono fun _ _ hReached ↦
        hReached.mono (by simp)
  · exact real_agree positive significand shift rest

theorem fractionPart_agree (positive : Bool) (significand : Nat) (shift : Int) (rest : Rest) :
    Agree (Reaches (rest.length + 1)) (fractionPart positive significand shift rest)
      (fractionPart positive significand shift (withReturn rest)) := by
  cases rest with
  | nil => exact .error _ _
  | cons s rest =>
    rw [fractionPart, withReturn_cons, fractionPart]
    split
    · rw [← withReturn_cons, withReturn, gather_append endsNumber_return]
      dsimp only [skipDigits]
      rw [(takeWhile_isDigit_append endsNumber_return _).2]
      refine (scale_agree _ _ _ _).mono fun _ _ hReached ↦ hReached.mono ?_
      exact Nat.succ_le_succ ((List.dropWhile_suffix _).trans (gather_suffix _ _)).length_le
    · exact .error _ _

theorem integerEnd_agree (positive : Bool) (significand skipped : Nat) (rest : Rest) :
    Agree (Reaches (rest.length + 1)) (integerEnd positive significand skipped rest)
      (integerEnd positive significand skipped (withReturn rest)) := by
  rw [integerEnd, integerEnd, withReturn, isExponentMark_append endsNumber_return]
  split
  · exact .ok ⟨_, Nat.lt_succ_self _⟩
  · exact scale_agree positive significand skipped rest

theorem afterInteger_agree (positive : Bool) (significand skipped : Nat) (rest : Rest) :
    Agree (Reaches (rest.length + 1)) (afterInteger positive significand skipped rest)
      (afterInteger positive significand skipped (withReturn rest)) := by
  by_cases hPoint : rest.head? = some (some '.')
  · obtain ⟨more, rfl⟩ := List.head?_eq_some_iff.1 hPoint
    exact (fractionPart_agree positive significand skipped more).mono fun _ _ hReached ↦
      hReached.mono (by simp)
  · have hReturn : (withReturn rest).head? ≠ some (some '.') := by
      cases rest with
      | nil => simp
      | cons s rest => exact hPoint
    rw [afterInteger_eq hPoint, afterInteger_eq hReturn]
    exact integerEnd_agree positive significand skipped rest

theorem startsWithDigit_withReturn (rest : Rest) :
    startsWithDigit (withReturn rest) = startsWithDigit rest := by
  cases rest <;> rfl

theorem dropWhile_gather (significand : Nat) (text : Rest) :
    (gather significand text).2.2.dropWhile isDigit = text.dropWhile isDigit := by
  induction text generalizing significand with
  | nil => rfl
  | cons s text ih =>
    rw [gather]
    cases hDigit : digit? s with
    | none => rfl
    | some d =>
      dsimp only
      split
      · rfl
      · rw [ih, List.dropWhile_cons_of_pos (by simp [isDigit, hDigit])]

theorem number_agree (positive : Bool) (rest : Rest) :
    Agree (Reaches rest.length) (number positive rest) (number positive (withReturn rest)) := by
  cases rest with
  | nil => exact .error _ _
  | cons s rest =>
    rw [number, withReturn_cons, number, startsWithDigit_withReturn]
    split
    · split
      · exact .error _ _
      · exact afterInteger_agree positive 0 0 rest
    · split
      · next hDigit =>
        rw [← withReturn_cons, withReturn, gather_append endsNumber_return]
        dsimp only [skipDigits]
        obtain ⟨hTaken, hLeft⟩ := takeWhile_isDigit_append endsNumber_return
          (gather 0 (s :: rest)).2.2
        rw [hTaken, hLeft]
        refine (afterInteger_agree _ _ _ _).mono fun _ _ hReached ↦ hReached.mono ?_
        rw [dropWhile_gather, List.dropWhile_cons_of_pos hDigit]
        exact Nat.succ_le_succ (List.dropWhile_suffix _).length_le
      · exact .error _ _

/-! ## Strings -/

theorem length_of_mapM_hexDigit? {symbols : List Symbol} {digits : List Nat}
    (h : symbols.mapM hexDigit? = some digits) : digits.length = symbols.length := by
  induction symbols generalizing digits with
  | nil =>
    cases h
    rfl
  | cons s symbols ih =>
    simp only [List.mapM_cons, Option.bind_eq_bind, Option.bind_eq_some_iff] at h
    obtain ⟨digit, _, more, hMore, hDigits⟩ := h
    cases hDigits
    exact congrArg Nat.succ (ih hMore)

theorem hexEscape_eq_error {rest : Rest}
    (h : ∀ digits, (rest.take 4).mapM hexDigit? = some digits → digits.length ≠ 4) :
    ∃ e, hexEscape rest = .error e := by
  unfold hexEscape
  split
  · next hDigits => exact absurd rfl (h _ hDigits)
  · dsimp only
    split <;> exact ⟨_, rfl⟩

theorem hexEscape_agree (rest : Rest) :
    Agree (Reaches (rest.length + 1)) (hexEscape rest) (hexEscape (withReturn rest)) := by
  by_cases hFour : 4 ≤ rest.length
  · have hTake : (withReturn rest).take 4 = rest.take 4 := List.take_append_of_le_length hFour
    have hDrop : (withReturn rest).drop 4 = withReturn (rest.drop 4) :=
      List.drop_append_of_le_length hFour
    unfold hexEscape
    rw [hTake, hDrop]
    split
    · exact .ok ⟨_, Nat.lt_succ_of_le (List.drop_suffix 4 rest).length_le⟩
    · dsimp only
      split <;> exact .error _ _
  · -- One text is too short, and the carriage return is among the four digits of the other one.
    obtain ⟨e, hShort⟩ : ∃ e, hexEscape rest = .error e := by
      refine hexEscape_eq_error fun digits hDigits ↦ ?_
      rw [length_of_mapM_hexDigit? hDigits, List.length_take]
      omega
    obtain ⟨e', hReturn⟩ : ∃ e, hexEscape (withReturn rest) = .error e := by
      refine hexEscape_eq_error fun digits hDigits ↦ ?_
      have hWhole : (withReturn rest).take 4 = rest ++ [some '\r'] :=
        List.take_of_length_le (by simp [withReturn]; omega)
      simp [hWhole, hexDigit?] at hDigits
    rw [hShort, hReturn]
    exact .error _ _

theorem unicodeEscape_agree (rest : Rest) :
    Agree (Reaches (rest.length + 1)) (unicodeEscape rest) (unicodeEscape (withReturn rest)) := by
  unfold unicodeEscape
  refine (hexEscape_agree rest).bind ?_
  rintro _ _ ⟨unit, hLeft⟩
  dsimp only
  split
  · exact .error _ _
  · split
    · next left _ _ =>
      by_cases hPair : ∃ more, left = some '\\' :: some 'u' :: more
      · obtain ⟨more, rfl⟩ := hPair
        simp only [List.length_cons] at hLeft
        refine (hexEscape_agree more).bind ?_
        rintro _ _ ⟨low, hLast⟩
        dsimp only
        split
        · exact .ok ⟨_, by omega⟩
        · exact .error _ _
      · have hReturn : ¬ ∃ more, withReturn left = some '\\' :: some 'u' :: more := by
          rintro ⟨more, hMore⟩
          rcases left with _ | ⟨s, _ | ⟨t, left⟩⟩ <;> simp_all
        split
        · exact .error _ _
        · exact .error _ _
        · exact absurd ⟨_, rfl⟩ hPair
        · split
          · exact .error _ _
          · exact .error _ _
          · next heq => exact absurd ⟨_, heq⟩ hReturn
          · exact .error _ _
    · exact .ok ⟨_, hLeft⟩

theorem escapeSequence_agree (rest : Rest) :
    Agree (Reaches rest.length) (escapeSequence rest) (escapeSequence (withReturn rest)) := by
  cases rest with
  | nil => exact .error _ _
  | cons s rest =>
    rw [withReturn_cons]
    unfold escapeSequence
    split
    · next heq => cases heq
    iterate 8
      · next heq =>
        cases heq
        exact .ok ⟨_, Nat.lt_succ_self _⟩
    · next heq =>
      cases heq
      exact unicodeEscape_agree rest
    · split <;> first | exact .error _ _ | exact (not_fits (by assumption) (by assumption)).elim

theorem stringBody_agree {fuel : Nat} {rest : Rest} (hFuel : rest.length ≤ fuel) :
    Agree (Reaches rest.length) (stringBody fuel rest)
      (stringBody (fuel + 1) (withReturn rest)) := by
  induction fuel generalizing rest with
  | zero =>
    rw [List.eq_nil_of_length_eq_zero (Nat.le_zero.1 hFuel)]
    exact .error _ _
  | succ fuel ih =>
    cases rest with
    | nil => exact .error _ _
    | cons s rest =>
      have hRest : rest.length ≤ fuel := Nat.le_of_succ_le_succ hFuel
      rw [withReturn_cons, stringBody, stringBody]
      split
      · exact .ok ⟨_, Nat.lt_succ_self _⟩
      · split
        · refine (escapeSequence_agree rest).bind ?_
          rintro _ _ ⟨c, hLeft⟩
          refine (ih (by omega)).bind ?_
          rintro _ _ ⟨body, hLast⟩
          exact .ok ⟨_, by simp; omega⟩
        · split
          · exact .error _ _
          · refine (ih hRest).bind ?_
            rintro _ _ ⟨body, hLast⟩
            exact .ok ⟨_, by simp; omega⟩

theorem string_agree {fuel : Nat} {rest : Rest} (hFuel : rest.length ≤ fuel) :
    Agree (Reaches rest.length) (string fuel rest) (string (fuel + 1) (withReturn rest)) := by
  refine (stringBody_agree hFuel).bind ?_
  rintro _ _ ⟨body, hLeft⟩
  dsimp only
  cases body.mapM id with
  | none => exact .error _ _
  | some chars => exact .ok ⟨_, hLeft⟩

/-! ## Values nobody asked for -/

theorem skipEscape_agree (rest : Rest) :
    Agree (Leaves rest.length) (skipEscape rest) (skipEscape (withReturn rest)) := by
  cases rest with
  | nil => exact .error _ _
  | cons s rest =>
    by_cases hUnicode : s = some 'u'
    · subst hUnicode
      refine (hexEscape_agree rest).map ?_
      rintro _ _ ⟨unit, hLeft⟩
      exact ⟨hLeft⟩
    · rw [withReturn_cons]
      unfold skipEscape
      split
      · next heq => cases heq
      · next heq => exact absurd (List.cons.inj heq).1 hUnicode
      · next heq =>
        cases heq
        split
        · exact .ok ⟨Nat.lt_succ_self _⟩
        · exact .error _ _

theorem skipString_agree {fuel : Nat} {rest : Rest} (hFuel : rest.length ≤ fuel) :
    Agree (Leaves rest.length) (skipString fuel rest)
      (skipString (fuel + 1) (withReturn rest)) := by
  induction fuel generalizing rest with
  | zero =>
    rw [List.eq_nil_of_length_eq_zero (Nat.le_zero.1 hFuel)]
    exact .error _ _
  | succ fuel ih =>
    cases rest with
    | nil => exact .error _ _
    | cons s rest =>
      have hRest : rest.length ≤ fuel := Nat.le_of_succ_le_succ hFuel
      rw [withReturn_cons, skipString, skipString]
      split
      · exact .ok ⟨Nat.lt_succ_self _⟩
      · split
        · refine (skipEscape_agree rest).bind ?_
          rintro _ _ ⟨hLeft⟩
          exact (ih (by omega)).mono fun _ _ hLast ↦ hLast.mono (by simp; omega)
        · split
          · exact .error _ _
          · exact (ih hRest).mono fun _ _ hLast ↦ hLast.mono (by simp)

theorem dropWhile_isDigit_withReturn (rest : Rest) :
    (withReturn rest).dropWhile isDigit = withReturn (rest.dropWhile isDigit) :=
  (takeWhile_isDigit_append endsNumber_return rest).2

theorem skipExponent_agree (rest : Rest) :
    Agree (Leaves (rest.length + 1)) (skipExponent rest) (skipExponent (withReturn rest)) := by
  obtain ⟨digits, hSuffix, hDigits, hReturn⟩ : ∃ digits, digits <:+ rest ∧
      skipExponent rest =
        (if startsWithDigit digits then .ok (digits.dropWhile isDigit) else .error .invalidNumber) ∧
      skipExponent (withReturn rest) = (if startsWithDigit (withReturn digits)
        then .ok ((withReturn digits).dropWhile isDigit) else .error .invalidNumber) := by
    rcases rest with _ | ⟨s, rest⟩
    · exact ⟨[], List.suffix_refl _, rfl, rfl⟩
    · by_cases hPlus : s = some '+'
      · subst hPlus
        exact ⟨rest, List.suffix_cons _ _, rfl, rfl⟩
      · by_cases hMinus : s = some '-'
        · subst hMinus
          exact ⟨rest, List.suffix_cons _ _, rfl, rfl⟩
        · refine ⟨s :: rest, List.suffix_refl _, ?_, ?_⟩
          · simp [skipExponent, hPlus, hMinus]
          · simp [skipExponent, hPlus, hMinus]
            rfl
  rw [hDigits, hReturn, startsWithDigit_withReturn, dropWhile_isDigit_withReturn]
  split
  · exact .ok ⟨Nat.lt_succ_of_le ((List.dropWhile_suffix _).trans hSuffix).length_le⟩
  · exact .error _ _

theorem skipScale_agree (rest : Rest) :
    Agree (Leaves (rest.length + 1)) (skipScale rest) (skipScale (withReturn rest)) := by
  rw [skipScale, skipScale, withReturn, isExponentMark_append endsNumber_return]
  split
  · next hMark =>
    cases rest with
    | nil => cases hMark
    | cons s rest =>
      exact (skipExponent_agree rest).mono fun _ _ hLeft ↦ hLeft.mono (by simp)
  · exact .ok ⟨Nat.lt_succ_self _⟩

/-- Passes over what follows the integer part of a number. -/
def skipFraction (rest : Rest) : Except ReadError Rest :=
  match rest with
  | some '.' :: rest =>
    if startsWithDigit rest then skipScale (rest.dropWhile isDigit) else .error .invalidNumber
  | rest => skipScale rest

theorem skipFraction_agree (rest : Rest) :
    Agree (Leaves (rest.length + 1)) (skipFraction rest) (skipFraction (withReturn rest)) := by
  by_cases hPoint : rest.head? = some (some '.')
  · obtain ⟨more, rfl⟩ := List.head?_eq_some_iff.1 hPoint
    rw [withReturn_cons, skipFraction, skipFraction, startsWithDigit_withReturn,
      dropWhile_isDigit_withReturn]
    split
    · refine (skipScale_agree _).mono fun _ _ hLeft ↦ hLeft.mono ?_
      have hLength := (List.dropWhile_suffix isDigit (l := more)).length_le
      rw [List.length_cons]
      omega
    · exact .error _ _
  · have hEq (more : Rest) (hMore : more.head? ≠ some (some '.')) :
        skipFraction more = skipScale more := by
      unfold skipFraction
      split
      · exact absurd rfl hMore
      · rfl
    have hReturn : (withReturn rest).head? ≠ some (some '.') := by
      cases rest with
      | nil => simp
      | cons s rest => exact hPoint
    rw [hEq rest hPoint, hEq _ hReturn]
    exact skipScale_agree rest

theorem skipNumber_agree (rest : Rest) :
    Agree (Leaves rest.length) (skipNumber rest) (skipNumber (withReturn rest)) := by
  cases rest with
  | nil => exact .error _ _
  | cons s rest =>
    unfold skipNumber
    dsimp only
    rw [startsWithDigit_withReturn, dropWhile_isDigit_withReturn, withReturn_cons]
    simp only [List.head?_cons, List.drop_one, List.tail_cons, startsWithDigit_withReturn]
    split
    · next hDigit =>
      split
      · exact .error _ _
      · rw [List.dropWhile_cons_of_pos (by simpa [startsWithDigit] using hDigit)]
        refine (skipFraction_agree _).mono fun _ _ hLeft ↦ hLeft.mono ?_
        exact Nat.succ_le_succ (List.dropWhile_suffix _).length_le
    · exact .error _ _

theorem closeFrames_agree (afterValue : Bool) (frames : List Frame) (rest : Rest) :
    Agree (Reaches (rest.length + 1)) (closeFrames afterValue frames rest)
      (closeFrames afterValue frames (withReturn rest)) := by
  induction frames generalizing afterValue rest with
  | nil => exact .ok ⟨_, Nat.lt_succ_self _⟩
  | cons frame outer ih =>
    rw [closeFrames, closeFrames]
    obtain ⟨hNone, hReturn⟩ | ⟨s, more, hSome, hReturn, hLess⟩ := skipBlanks_cases rest
    · rw [hNone, hReturn]
      exact .error _ _
    · rw [hSome, hReturn]
      dsimp only
      split
      · exact .ok ⟨_, by omega⟩
      · split
        · exact (ih true more).mono fun _ _ hLeft ↦ hLeft.mono (by omega)
        · split
          · exact .error _ _
          · exact .ok ⟨_, by simp; omega⟩

theorem colon_agree (rest : Rest) :
    Agree (Leaves rest.length) (colon rest) (colon (withReturn rest)) := by
  rw [colon, colon]
  obtain ⟨hNone, hReturn⟩ | ⟨s, more, hSome, hReturn, hLess⟩ := skipBlanks_cases rest
  · rw [hNone, hReturn]
    exact .error _ _
  · rw [hSome, hReturn]
    dsimp only
    split
    · exact .ok ⟨hLess⟩
    · exact .error _ _

theorem skipKey_agree {fuel : Nat} {rest : Rest} (hFuel : rest.length ≤ fuel) :
    Agree (Leaves rest.length) (skipKey fuel rest) (skipKey (fuel + 1) (withReturn rest)) := by
  rw [skipKey, skipKey]
  obtain ⟨hNone, hReturn⟩ | ⟨s, more, hSome, hReturn, hLess⟩ := skipBlanks_cases rest
  · rw [hNone, hReturn]
    exact .error _ _
  · rw [hSome, hReturn]
    dsimp only
    split
    · refine (skipString_agree (by omega)).bind ?_
      rintro _ _ ⟨hLeft⟩
      exact (colon_agree _).mono fun _ _ hLast ↦ hLast.mono (by omega)
    · exact .error _ _

theorem skipStart_agree {fuel : Nat} {rest : Rest} (hFuel : rest.length ≤ fuel) :
    Agree (Reaches rest.length) (skipStart fuel rest) (skipStart (fuel + 1) (withReturn rest)) := by
  rw [skipStart, skipStart]
  obtain ⟨hNone, hReturn⟩ | ⟨s, more, hSome, hReturn, hLess⟩ := skipBlanks_cases rest
  · rw [hNone, hReturn]
    exact .error _ _
  · have hScalar {x y : Except ReadError Rest} (h : Agree (Leaves (more.length + 1)) x y) :
        Agree (Reaches rest.length) (x.map ((none : Option Frame), ·)) (y.map (none, ·)) := by
      refine h.map ?_
      rintro _ _ ⟨hLeft⟩
      exact ⟨_, by omega⟩
    rw [hSome, hReturn]
    split
    · next heq => cases heq
    · next heq =>
      cases heq
      exact hScalar (literal_agree (by decide) more)
    · next heq =>
      cases heq
      exact hScalar (literal_agree (by decide) more)
    · next heq =>
      cases heq
      exact hScalar (literal_agree (by decide) more)
    · next heq =>
      cases heq
      exact hScalar ((skipNumber_agree more).mono fun _ _ hLeft ↦ hLeft.mono (by omega))
    · next heq =>
      cases heq
      exact hScalar ((skipString_agree (by omega)).mono fun _ _ hLeft ↦ hLeft.mono (by omega))
    · next heq =>
      cases heq
      exact .ok ⟨_, hLess⟩
    · next heq =>
      cases heq
      exact .ok ⟨_, hLess⟩
    · next hNull hTrue hFalse hMinus hQuote hList hObject heq =>
      cases heq
      simp only [imp_false] at hNull hTrue hFalse hMinus hQuote hList hObject ⊢
      split
      · exact hScalar (skipNumber_agree (s :: more))
      · exact .error _ _

theorem skipValues_agree {fuel : Nat} {turns : Nat} {rest : Rest} (frames : List Frame)
    (hFuel : rest.length ≤ fuel) (hTurns : rest.length < turns) :
    Agree (Leaves rest.length) (skipValues fuel turns frames rest)
      (skipValues (fuel + 1) (turns + 1) frames (withReturn rest)) := by
  induction turns generalizing rest frames with
  | zero => cases hTurns
  | succ turns ih =>
    rw [skipValues, skipValues]
    refine (skipStart_agree hFuel).bind ?_
    rintro _ _ ⟨opened, hStarted⟩
    refine (closeFrames_agree _ _ _).bind ?_
    rintro _ _ ⟨open', hClosed⟩
    dsimp only
    split
    · exact .ok ⟨by omega⟩
    · exact (ih _ (by omega) (by omega)).mono fun _ _ hLeft ↦ hLeft.mono (by omega)
    · refine (skipKey_agree (by omega)).bind ?_
      rintro _ _ ⟨hKey⟩
      exact (ih _ (by omega) (by omega)).mono fun _ _ hLeft ↦ hLeft.mono (by omega)

theorem skipValue_agree {fuel : Nat} {rest : Rest} (hFuel : rest.length ≤ fuel) :
    Agree (Leaves rest.length) (skipValue fuel rest) (skipValue (fuel + 1) (withReturn rest)) :=
  skipValues_agree [] hFuel (Nat.lt_succ_of_le hFuel)

/-! ## Containers -/

/-- Both readings stop at the closing bracket, or both go on to what is related. -/
inductive Goes {β : Type} (R : β → β → Prop) (rest : Rest) : Option β → Option β → Prop
  | stop (h : Leaves rest.length (close rest) (close (withReturn rest))) : Goes R rest none none
  | on {x y : β} (related : R x y) : Goes R rest (some x) (some y)

theorem close_leaves {s : Symbol} {rest more : Rest} (hSome : skipBlanks rest = s :: more)
    (hReturn : skipBlanks (withReturn rest) = s :: withReturn more)
    (hLess : more.length < rest.length) :
    Leaves rest.length (close rest) (close (withReturn rest)) := by
  rw [close, close, hSome, hReturn]
  exact ⟨hLess⟩

theorem nextElement_agree (first : Bool) (rest : Rest) :
    Agree (Goes (Leaves (rest.length + 1)) rest) (nextElement first rest)
      (nextElement first (withReturn rest)) := by
  rw [nextElement, nextElement]
  obtain ⟨hNone, hReturn⟩ | ⟨s, more, hSome, hReturn, hLess⟩ := skipBlanks_cases rest
  · rw [hNone, hReturn]
    exact .error _ _
  · rw [hSome, hReturn]
    dsimp only
    split
    · exact .ok (.stop (close_leaves hSome hReturn hLess))
    · split
      · exact .ok (.on ⟨by simp; omega⟩)
      · split
        · obtain ⟨hNone, hReturn⟩ | ⟨s', more', hSome, hReturn, hLess'⟩ := skipBlanks_cases more
          · rw [hNone, hReturn]
            exact .error _ _
          · rw [hSome, hReturn]
            dsimp only
            split
            · exact .error _ _
            · exact .ok (.on ⟨by simp; omega⟩)
        · exact .error _ _

theorem nextKey_agree {fuel : Nat} (first : Bool) {rest : Rest} (hFuel : rest.length ≤ fuel) :
    Agree (Goes (Reaches rest.length) rest) (nextKey fuel first rest)
      (nextKey (fuel + 1) first (withReturn rest)) := by
  have hString (more : Rest) (hLess : more.length < rest.length) :
      Agree (Goes (Reaches rest.length) rest) ((string fuel more).map some)
        ((string (fuel + 1) (withReturn more)).map some) :=
    (string_agree (by omega)).map fun _ _ hKey ↦ .on (hKey.mono (by omega))
  rw [nextKey, nextKey]
  obtain ⟨hNone, hReturn⟩ | ⟨s, more, hSome, hReturn, hLess⟩ := skipBlanks_cases rest
  · rw [hNone, hReturn]
    exact .error _ _
  · rw [hSome, hReturn]
    dsimp only
    split
    · exact .ok (.stop (close_leaves hSome hReturn hLess))
    · split
      · split
        · exact hString more hLess
        · exact .error _ _
      · split
        · obtain ⟨hNone, hReturn⟩ | ⟨s', more', hSome, hReturn, hLess'⟩ := skipBlanks_cases more
          · rw [hNone, hReturn]
            exact .error _ _
          · rw [hSome, hReturn]
            dsimp only
            split
            · exact hString more' (by omega)
            · split <;> exact .error _ _
        · exact .error _ _

theorem members_agree {σ : Type} {entry entry' : σ → String → Rest → Except ReadError (σ × Rest)}
    {fuel : Nat} (hEntry : ∀ (state : σ) (key : String) (rest : Rest), rest.length ≤ fuel →
      Agree (Reaches rest.length) (entry state key rest) (entry' state key (withReturn rest)))
    {turns : Nat} (first : Bool) (state : σ) {rest : Rest} (hFuel : rest.length ≤ fuel)
    (hTurns : rest.length < turns) :
    Agree (Reaches rest.length) (members fuel entry turns first state rest)
      (members (fuel + 1) entry' (turns + 1) first state (withReturn rest)) := by
  induction turns generalizing first state rest with
  | zero => cases hTurns
  | succ turns ih =>
    rw [members, members]
    refine (nextKey_agree first hFuel).bind ?_
    rintro _ _ (hClose | ⟨⟨key, hKey⟩⟩)
    · exact .ok (hClose.reaches state)
    · refine (hEntry state key _ (by omega)).bind ?_
      rintro _ _ ⟨next, hNext⟩
      exact (ih false next (by omega) (by omega)).mono fun _ _ hRead ↦ hRead.mono (by omega)

/-! ## Decoders -/

namespace Decoder

variable {α : Type}

/-- A carriage return behind the text makes no difference to `decode`. -/
def Trails (decode : Decoder α) : Prop :=
  ∀ (depth fuel : Nat) (rest : Rest), rest.length ≤ fuel →
    Agree (Reaches rest.length) (decode fuel depth rest) (decode (fuel + 1) depth (withReturn rest))

theorem string_trails : string.Trails := by
  intro depth fuel rest hFuel
  rw [string, string]
  obtain ⟨hNone, hReturn⟩ | ⟨s, more, hSome, hReturn, hLess⟩ := skipBlanks_cases rest
  · rw [hNone, hReturn]
    exact .error _ _
  · rw [hSome, hReturn]
    split
    · next heq => cases heq
    · next heq =>
      cases heq
      exact (string_agree (by omega)).mono fun _ _ hRead ↦ hRead.mono (by omega)
    · next _ hQuote =>
      split
      · next heq => cases heq
      · next heq => exact (not_fits heq hQuote).elim
      · exact .error _ _

/-- What a number is accepted as is the same with a carriage return behind the text. -/
theorem accepted_agree (accept : Number → Except ReadError α) {limit : Nat} (positive : Bool)
    {more : Rest} (hLess : more.length ≤ limit) :
    Agree (Reaches limit)
      (do let (n, left) ← number positive more
          let a ← accept n
          .ok (a, left))
      (do let (n, left) ← number positive (withReturn more)
          let a ← accept n
          .ok (a, left)) := by
  refine (number_agree positive more).bind ?_
  rintro _ _ ⟨n, hLeft⟩
  dsimp only
  cases accept n with
  | error e => exact .error _ _
  | ok a => exact .ok ⟨a, by omega⟩

theorem numeric_trails (expected : String) (accept : Number → Except ReadError α) :
    (numeric expected accept).Trails := by
  intro depth fuel rest hFuel
  rw [numeric, numeric]
  obtain ⟨hNone, hReturn⟩ | ⟨s, more, hSome, hReturn, hLess⟩ := skipBlanks_cases rest
  · rw [hNone, hReturn]
    exact .error _ _
  · rw [hSome, hReturn]
    split
    · next heq => cases heq
    · next heq =>
      cases heq
      exact accepted_agree accept false (by omega)
    · next _ hMinus =>
      have hReturn := startsWithDigit_withReturn (s :: more)
      rw [withReturn_cons] at hReturn
      rw [← hReturn]
      split
      · next hDigit =>
        split
        · next heq => cases heq
        · next heq => exact (not_fits heq hMinus).elim
        · rw [if_pos hDigit]
          exact accepted_agree accept true hLess
      · next hOther =>
        split
        · next heq => cases heq
        · next heq => exact (not_fits heq hMinus).elim
        · rw [if_neg hOther]
          exact .error _ _

/-- Nothing is read from nothing. -/
theorem Trails.of_nil {decode : Decoder α} (h : decode.Trails) (fuel depth : Nat) :
    ∃ e, decode fuel depth [] = .error e := by
  generalize hRead : decode fuel depth [] = read
  generalize hReturn : decode (fuel + 1) depth (withReturn []) = read'
  have hAgree := h depth fuel [] (Nat.zero_le _)
  rw [hRead, hReturn] at hAgree
  cases hAgree with
  | ok hReaches =>
    obtain ⟨a, hLess⟩ := hReaches
    cases hLess
  | error e e' => exact ⟨e, rfl⟩

theorem Trails.optional {decode : Decoder α} (h : decode.Trails) : (optional decode).Trails := by
  intro depth fuel rest hFuel
  unfold Decoder.optional
  obtain ⟨hNone, hReturn⟩ | ⟨s, more, hSome, hReturn, hLess⟩ := skipBlanks_cases rest
  · rw [hNone, hReturn]
    obtain ⟨e, hError⟩ := h.of_nil fuel depth
    obtain ⟨e', hError'⟩ := h.of_nil (fuel + 1) depth
    dsimp only
    rw [hError, hError']
    exact .error _ _
  · rw [hSome, hReturn]
    split
    · next heq =>
      cases heq
      refine (literal_agree (by decide) more).map ?_
      rintro _ _ ⟨hLeft⟩
      exact ⟨none, by omega⟩
    · next hNull =>
      split
      · next heq => exact (not_fits heq hNull).elim
      · refine (h depth fuel (s :: more) (by simp; omega)).map ?_
        rintro _ _ ⟨a, hLeft⟩
        exact ⟨some a, by simp at hLeft; omega⟩

theorem Trails.insertMember {decode : Decoder α} (h : decode.Trails) (depth : Nat) {fuel : Nat}
    (entries : Dictionary α) (key : String) {rest : Rest} (hFuel : rest.length ≤ fuel) :
    Agree (Reaches rest.length) (insertMember (decode fuel depth) entries key rest)
      (insertMember (decode (fuel + 1) depth) entries key (withReturn rest)) := by
  refine (colon_agree rest).bind ?_
  rintro _ _ ⟨hColon⟩
  refine (h depth fuel _ (by omega)).bind ?_
  rintro _ _ ⟨a, hLeft⟩
  exact .ok ⟨_, by omega⟩

theorem Trails.dictionary {decode : Decoder α} (h : decode.Trails) :
    (dictionary decode).Trails := by
  intro depth fuel rest hFuel
  unfold Decoder.dictionary
  obtain ⟨hNone, hReturn⟩ | ⟨s, more, hSome, hReturn, hLess⟩ := skipBlanks_cases rest
  · rw [hNone, hReturn]
    exact .error _ _
  · rw [hSome, hReturn]
    split
    · next heq => cases heq
    · next heq =>
      cases heq
      cases depth with
      | zero => exact .error _ _
      | succ depth =>
        exact (members_agree (fun entries key _ hLeft ↦ h.insertMember depth entries key hLeft) true
          [] (by omega) (by omega)).mono fun _ _ hRead ↦ hRead.mono (by omega)
    · next _ hObject =>
      split
      · next heq => cases heq
      · next heq => exact (not_fits heq hObject).elim
      · exact .error _ _

end Decoder

/-! ## Records -/

/-- A carriage return behind the text makes no difference to any field. -/
def Field.Trails {Draft : Type} (field : Field Draft) : Prop :=
  ∀ draft, Decoder.Trails (field.read draft)

theorem Decoder.Trails.field {Draft α : Type} {decode : Decoder α} (h : decode.Trails)
    (name : String) (get : Draft → Option α) (set : Draft → α → Draft) :
    (Field.of name decode get set).Trails := by
  intro draft depth fuel rest hFuel
  refine (h depth fuel rest hFuel).map ?_
  rintro _ _ ⟨a, hLeft⟩
  exact ⟨set draft a, hLeft⟩

namespace Record

variable {Draft α : Type} {record : Record Draft α}

theorem entry_agree (h : ∀ field ∈ record.fields, field.Trails) (depth : Nat) {fuel : Nat}
    (draft : Draft) (key : String) {rest : Rest} (hFuel : rest.length ≤ fuel) :
    Agree (Reaches rest.length) (record.entry fuel depth draft key rest)
      (record.entry (fuel + 1) depth draft key (withReturn rest)) := by
  unfold entry
  cases hField : record.fields.find? (·.name = key) with
  | none =>
    refine (colon_agree rest).bind ?_
    rintro _ _ ⟨hColon⟩
    refine (skipValue_agree (by omega)).bind ?_
    rintro _ _ ⟨hLeft⟩
    exact .ok ⟨draft, by omega⟩
  | some field =>
    dsimp only
    split
    · exact .error _ _
    · refine (colon_agree rest).bind ?_
      rintro _ _ ⟨hColon⟩
      exact (h field (List.mem_of_find?_eq_some hField) draft depth fuel _ (by omega)).mono
        fun _ _ hRead ↦ hRead.mono (by omega)

theorem sequence_agree (depth : Nat) {fuel : Nat} {fields : List (Field Draft)}
    (h : ∀ field ∈ fields, field.Trails) (position : Nat) (draft : Draft) {rest : Rest}
    (hFuel : rest.length ≤ fuel) :
    Agree (Reaches (rest.length + 1)) (record.sequence fuel depth fields position draft rest)
      (record.sequence (fuel + 1) depth fields position draft (withReturn rest)) := by
  induction fields generalizing position draft rest with
  | nil => exact .ok ⟨draft, Nat.lt_succ_self _⟩
  | cons field fields ih =>
    obtain ⟨hField, hFields⟩ := List.forall_mem_cons.1 h
    rw [sequence, sequence]
    refine (nextElement_agree _ rest).bind ?_
    rintro _ _ (_ | ⟨⟨hElement⟩⟩)
    · dsimp only
      split
      · exact ih hFields position draft hFuel
      · exact .error _ _
    · refine (hField draft depth fuel _ (by omega)).bind ?_
      rintro _ _ ⟨next, hNext⟩
      exact (ih hFields (position + 1) next (by omega)).mono fun _ _ hRead ↦ hRead.mono (by omega)

theorem endSequence_agree (rest : Rest) :
    Agree (Leaves rest.length) (endSequence rest) (endSequence (withReturn rest)) := by
  rw [endSequence, endSequence]
  obtain ⟨hNone, hReturn⟩ | ⟨s, more, hSome, hReturn, hLess⟩ := skipBlanks_cases rest
  · rw [hNone, hReturn]
    exact .error _ _
  · rw [hSome, hReturn]
    dsimp only
    split
    · exact .ok ⟨hLess⟩
    · split <;> split <;> exact .error _ _

/-- A carriage return behind the text makes no difference to a record if it makes none to the
fields. -/
theorem decoder_trails (h : ∀ field ∈ record.fields, field.Trails) : record.decoder.Trails := by
  intro depth fuel rest hFuel
  unfold decoder
  obtain ⟨hNone, hReturn⟩ | ⟨s, more, hSome, hReturn, hLess⟩ := skipBlanks_cases rest
  · rw [hNone, hReturn]
    exact .error _ _
  · rw [hSome, hReturn]
    split
    · next heq => cases heq
    · next heq =>
      cases heq
      cases depth with
      | zero => exact .error _ _
      | succ depth =>
        refine (sequence_agree depth h 0 record.empty (by omega)).bind ?_
        rintro _ _ ⟨draft, hFields⟩
        dsimp only
        cases record.finish draft with
        | error e => exact .error _ _
        | ok a =>
          refine (endSequence_agree _).bind ?_
          rintro _ _ ⟨hLeft⟩
          exact .ok ⟨a, by omega⟩
    · next heq =>
      cases heq
      cases depth with
      | zero => exact .error _ _
      | succ depth =>
        refine (members_agree (fun draft key _ hLeft ↦ entry_agree h depth draft key hLeft) true
          record.empty (by omega) (by omega)).bind ?_
        rintro _ _ ⟨draft, hLeft⟩
        dsimp only
        cases record.finish draft with
        | error e => exact .error _ _
        | ok a => exact .ok ⟨a, by omega⟩
    · next _ hList hObject =>
      split
      · next heq => cases heq
      · next heq => exact (not_fits heq hList).elim
      · next heq => exact (not_fits heq hObject).elim
      · exact .error _ _

end Record

/-! ## Documents -/

theorem endDocument_agree (rest : Rest) :
    Agree Eq (endDocument rest) (endDocument (withReturn rest)) := by
  rw [endDocument, endDocument]
  obtain ⟨hNone, hReturn⟩ | ⟨s, more, hSome, hReturn, _⟩ := skipBlanks_cases rest
  · rw [hNone, hReturn]
    exact .ok rfl
  · rw [hSome, hReturn]
    exact .error _ _

theorem document_agree {α : Type} {decode : Decoder α} (h : decode.Trails) (symbols : Rest) :
    Agree Eq (document decode symbols) (document decode (withReturn symbols)) := by
  have hLength : (withReturn symbols).length = symbols.length + 1 := by simp [withReturn]
  rw [document, document, hLength]
  refine (h deepest symbols.length symbols (Nat.le_refl _)).bind ?_
  rintro _ _ ⟨a, _⟩
  exact (endDocument_agree _).bind fun _ _ _ ↦ .ok rfl

end StorefrontLoad.Json
