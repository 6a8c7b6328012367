import StorefrontLoad.Text.Utf8
import Mathlib.Data.List.TakeWhile

/-!
# Reading back encoded text

A character has one written form. The bytes that complete a leading byte are those with which it
forms a character, and they are the same ones that the character is written with; from there text
and its bytes determine each other, whatever bytes come after the text.
-/

namespace StorefrontLoad.Text

namespace Piece

@[simp] theorem codePoint_one (lead : UInt8) : codePoint lead [] = lead.toNat := rfl

@[simp] theorem codePoint_two (lead second : UInt8) :
    codePoint lead [second] = lead.toNat % 0x20 * 0x40 + second.toNat % 0x40 := rfl

@[simp] theorem codePoint_three (lead second third : UInt8) :
    codePoint lead [second, third] =
      (lead.toNat % 0x10 * 0x40 + second.toNat % 0x40) * 0x40 + third.toNat % 0x40 := rfl

@[simp] theorem codePoint_four (lead second third fourth : UInt8) :
    codePoint lead [second, third, fourth] =
      ((lead.toNat % 0x08 * 0x40 + second.toNat % 0x40) * 0x40 + third.toNat % 0x40) * 0x40 +
        fourth.toNat % 0x40 := rfl

theorem announced_eq (lead : UInt8) : announced lead =
    if lead.toNat < 0x80 then 1 else if lead.toNat < 0xC2 then 0 else if lead.toNat < 0xE0 then 2
    else if lead.toNat < 0xF0 then 3 else if lead.toNat < 0xF5 then 4 else 0 := by
  unfold announced
  simp only [UInt8.lt_iff_toNat_lt, UInt8.le_iff_toNat_le, UInt8.reduceToNat]
  split_ifs <;> omega

theorem isContinuation_iff (b : UInt8) :
    isContinuation b = true ↔ 0x80 ≤ b.toNat ∧ b.toNat ≤ 0xBF := by
  simp [isContinuation, UInt8.le_iff_toNat_le]

/-- What a second byte has to be after a leading byte. -/
structure Suits (lead second : UInt8) : Prop where
  continues : 0x80 ≤ second.toNat ∧ second.toNat ≤ 0xBF
  notOverlong : lead.toNat = 0xE0 → 0xA0 ≤ second.toNat
  noSurrogate : lead.toNat = 0xED → second.toNat < 0xA0
  notOverlongFour : lead.toNat = 0xF0 → 0x90 ≤ second.toNat
  inRange : lead.toNat = 0xF4 → second.toNat < 0x90

theorem suits_iff (lead second : UInt8) :
    Suits lead second ↔ (secondByte lead).1 ≤ second ∧ second ≤ (secondByte lead).2 := by
  have hUnfold : Suits lead second ↔ (0x80 ≤ second.toNat ∧ second.toNat ≤ 0xBF) ∧
      (lead.toNat = 0xE0 → 0xA0 ≤ second.toNat) ∧ (lead.toNat = 0xED → second.toNat < 0xA0) ∧
      (lead.toNat = 0xF0 → 0x90 ≤ second.toNat) ∧ (lead.toNat = 0xF4 → second.toNat < 0x90) :=
    ⟨fun ⟨h1, h2, h3, h4, h5⟩ ↦ ⟨h1, h2, h3, h4, h5⟩,
      fun ⟨h1, h2, h3, h4, h5⟩ ↦ ⟨h1, h2, h3, h4, h5⟩⟩
  rw [hUnfold]
  unfold secondByte
  simp only [← UInt8.toNat_inj, UInt8.le_iff_toNat_le, UInt8.reduceToNat]
  split_ifs <;> simp only [UInt8.reduceToNat] <;> omega

theorem followers_cons (lead second : UInt8) (more : List UInt8) :
    followers lead (second :: more) =
      if 2 ≤ announced lead ∧ (secondByte lead).1 ≤ second ∧ second ≤ (secondByte lead).2 then
        1 + ((more.take (announced lead - 2)).takeWhile isContinuation).length else 0 := by
  have hNot : (announced lead < 2 ∨ second < (secondByte lead).1 ∨ (secondByte lead).2 < second) ↔
      ¬ (2 ≤ announced lead ∧ (secondByte lead).1 ≤ second ∧ second ≤ (secondByte lead).2) := by
    rw [← Nat.not_le, ← UInt8.not_le, ← UInt8.not_le, ← not_and_or, ← not_and_or]
  unfold followers
  dsimp only
  by_cases hSuits :
      2 ≤ announced lead ∧ (secondByte lead).1 ≤ second ∧ second ≤ (secondByte lead).2
  · rw [if_neg fun hBreaks ↦ hNot.1 hBreaks hSuits, if_pos hSuits]
  · rw [if_pos (hNot.2 hSuits), if_neg hSuits]

/-- The bytes after a leading byte with which it forms a character. -/
structure Completes (lead : UInt8) (more : List UInt8) : Prop where
  announced : announced lead = more.length + 1
  second : ∀ second ∈ more.head?, Suits lead second
  later : ∀ b ∈ more.tail, isContinuation b = true

namespace Completes

theorem one {lead : UInt8} (hLead : lead.toNat < 0x80) : Completes lead [] :=
  ⟨by rw [announced_eq, if_pos hLead]; rfl, by simp, by simp⟩

theorem two {lead second : UInt8} (hLead : 0xC2 ≤ lead.toNat ∧ lead.toNat < 0xE0)
    (hSecond : Suits lead second) : Completes lead [second] := by
  refine ⟨?_, by simpa using hSecond, by simp⟩
  rw [announced_eq, if_neg (by omega), if_neg (by omega), if_pos (by omega)]
  rfl

theorem three {lead second third : UInt8} (hLead : 0xE0 ≤ lead.toNat ∧ lead.toNat < 0xF0)
    (hSecond : Suits lead second) (hThird : isContinuation third = true) :
    Completes lead [second, third] := by
  refine ⟨?_, by simpa using hSecond, by simpa using hThird⟩
  rw [announced_eq, if_neg (by omega), if_neg (by omega), if_neg (by omega), if_pos (by omega)]
  rfl

theorem four {lead second third fourth : UInt8} (hLead : 0xF0 ≤ lead.toNat ∧ lead.toNat < 0xF5)
    (hSecond : Suits lead second) (hThird : isContinuation third = true)
    (hFourth : isContinuation fourth = true) : Completes lead [second, third, fourth] := by
  refine ⟨?_, by simpa using hSecond, by simp [hThird, hFourth]⟩
  rw [announced_eq, if_neg (by omega), if_neg (by omega), if_neg (by omega), if_neg (by omega),
    if_pos (by omega)]
  rfl

theorem followers {lead : UInt8} {more : List UInt8} (h : Completes lead more)
    (rest : List UInt8) : followers lead (more ++ rest) = more.length := by
  have hAnnounced := h.announced
  cases more with
  | nil =>
    cases rest with
    | nil => rfl
    | cons b rest =>
      rw [List.nil_append, followers_cons, if_neg]
      · rfl
      · simp [hAnnounced]
  | cons second tail =>
    have hSuits := (suits_iff lead second).1 (h.second second rfl)
    have hLater : tail.takeWhile isContinuation = tail := List.takeWhile_eq_self_iff.2 h.later
    have hTake : (tail ++ rest).take (Piece.announced lead - 2) = tail := by simp [hAnnounced]
    rw [List.cons_append, followers_cons, if_pos ⟨by simp [hAnnounced], hSuits⟩, hTake, hLater,
      List.length_cons, Nat.add_comm]

theorem first {lead : UInt8} {more : List UInt8} (h : Completes lead more) (rest : List UInt8) :
    first lead (more ++ rest) = .char (Char.ofNat (codePoint lead more)) := by
  rw [Piece.first, h.followers, if_pos h.announced.symm, List.take_left]

/-- Whenever a piece is a character, the bytes that were taken complete it. -/
theorem of_followers {lead : UInt8} {rest : List UInt8}
    (h : Piece.followers lead rest + 1 = Piece.announced lead) :
    Completes lead (rest.take (Piece.followers lead rest)) := by
  cases rest with
  | nil => exact ⟨h.symm, by simp, by simp⟩
  | cons second more =>
    rw [followers_cons] at h ⊢
    split_ifs at h ⊢ with hSuits
    · obtain ⟨hTwo, hSecond⟩ := hSuits
      generalize hRun : (more.take (Piece.announced lead - 2)).takeWhile isContinuation = run at h ⊢
      have hPrefix : run <+: more := by
        rw [← hRun]
        exact (List.takeWhile_prefix _).trans (List.take_prefix _ _)
      have hTake : (second :: more).take (1 + run.length) = second :: run := by
        rw [Nat.add_comm, List.take_succ_cons, ← List.prefix_iff_eq_take.1 hPrefix]
      rw [hTake]
      refine ⟨by rw [← h, List.length_cons, Nat.add_comm 1], ?_, ?_⟩
      · simpa using (suits_iff lead second).2 hSecond
      · intro b hMem
        rw [← hRun] at hMem
        exact List.mem_takeWhile_imp hMem
    · exact ⟨by simpa using h.symm, by simp, by simp⟩

end Completes

/-- A character is written as a leading byte and the bytes that complete it. -/
theorem completes_encode (c : Char) : ∃ lead more, String.utf8EncodeChar c = lead :: more ∧
    Completes lead more ∧ codePoint lead more = c.toNat := by
  have hValid : c.toNat < 0xD800 ∨ 0xDFFF < c.toNat ∧ c.toNat < 0x110000 := c.valid
  have hNat : c.val.toNat = c.toNat := rfl
  unfold String.utf8EncodeChar
  simp only [hNat]
  split_ifs with hOne hTwo hThree
  · refine ⟨_, _, rfl, .one ?_, ?_⟩ <;> simp <;> omega
  · refine ⟨_, _, rfl, .two ?_ ⟨?_, ?_, ?_, ?_, ?_⟩, ?_⟩ <;> simp <;> omega
  · refine ⟨_, _, rfl, .three ?_ ⟨?_, ?_, ?_, ?_, ?_⟩ ?_, ?_⟩ <;>
      simp [isContinuation_iff] <;> omega
  · refine ⟨_, _, rfl, .four ?_ ⟨?_, ?_, ?_, ?_, ?_⟩ ?_ ?_, ?_⟩ <;>
      simp [isContinuation_iff] <;> omega

theorem toNat_ofNat {n : Nat} (h : n < 0xD800 ∨ 0xDFFF < n ∧ n < 0x110000) :
    (Char.ofNat n).toNat = n := by
  unfold Char.ofNat
  rw [dif_pos h]
  rfl

theorem utf8EncodeChar_ofNat {n : Nat} (h : n < 0xD800 ∨ 0xDFFF < n ∧ n < 0x110000) :
    String.utf8EncodeChar (Char.ofNat n) =
      if n ≤ 0x7F then [UInt8.ofNat n]
      else if n ≤ 0x7FF then [UInt8.ofNat (n / 64 % 32 + 192), UInt8.ofNat (n % 64 + 128)]
      else if n ≤ 0xFFFF then
        [UInt8.ofNat (n / 4096 % 16 + 224), UInt8.ofNat (n / 64 % 64 + 128),
          UInt8.ofNat (n % 64 + 128)]
      else
        [UInt8.ofNat (n / 262144 % 8 + 240), UInt8.ofNat (n / 4096 % 64 + 128),
          UInt8.ofNat (n / 64 % 64 + 128), UInt8.ofNat (n % 64 + 128)] := by
  have hNat : (Char.ofNat n).val.toNat = n := toNat_ofNat h
  unfold String.utf8EncodeChar
  simp only [hNat]

/-- No other bytes form the character. The cases are the four lengths a character can have. -/
theorem Completes.encode {lead : UInt8} {more : List UInt8} (h : Completes lead more) :
    String.utf8EncodeChar (Char.ofNat (codePoint lead more)) = lead :: more := by
  have hAnnounced := h.announced
  rw [announced_eq] at hAnnounced
  match more with
  | [] =>
    have hLead : lead.toNat < 0x80 := by split_ifs at hAnnounced <;> simp_all
    rw [codePoint_one, utf8EncodeChar_ofNat (by omega), if_pos (by omega), UInt8.ofNat_toNat]
  | [second] =>
    have hLead : 0xC2 ≤ lead.toNat ∧ lead.toNat < 0xE0 := by
      split_ifs at hAnnounced <;> simp_all
    obtain ⟨hSecond, _, _, _, _⟩ := h.second second rfl
    rw [codePoint_two, utf8EncodeChar_ofNat (by omega), if_neg (by omega), if_pos (by omega)]
    simp only [List.cons.injEq, ← UInt8.toNat_inj, UInt8.toNat_ofNat', and_true]
    omega
  | [second, third] =>
    have hLead : 0xE0 ≤ lead.toNat ∧ lead.toNat < 0xF0 := by
      split_ifs at hAnnounced <;> simp_all
    obtain ⟨hSecond, hOverlong, hSurrogate, _, _⟩ := h.second second rfl
    have hThird := (isContinuation_iff third).1 (h.later third (by simp))
    rw [codePoint_three, utf8EncodeChar_ofNat (by omega), if_neg (by omega), if_neg (by omega),
      if_pos (by omega)]
    simp only [List.cons.injEq, ← UInt8.toNat_inj, UInt8.toNat_ofNat', and_true]
    omega
  | [second, third, fourth] =>
    have hLead : 0xF0 ≤ lead.toNat ∧ lead.toNat < 0xF5 := by
      split_ifs at hAnnounced <;> simp_all
    obtain ⟨hSecond, _, _, hOverlong, hRange⟩ := h.second second rfl
    have hThird := (isContinuation_iff third).1 (h.later third (by simp))
    have hFourth := (isContinuation_iff fourth).1 (h.later fourth (by simp))
    rw [codePoint_four, utf8EncodeChar_ofNat (by omega), if_neg (by omega), if_neg (by omega),
      if_neg (by omega)]
    simp only [List.cons.injEq, ← UInt8.toNat_inj, UInt8.toNat_ofNat', and_true]
    omega
  | second :: third :: fourth :: fifth :: tail =>
    simp only [List.length_cons] at hAnnounced
    split_ifs at hAnnounced <;> omega

theorem cut_eq_cut_drop (bytes : List UInt8) (taken : Nat) :
    cut bytes taken = cut (bytes.drop taken) 0 := by
  induction bytes generalizing taken with
  | nil => simp [cut]
  | cons b bytes ih =>
    cases taken with
    | zero => rfl
    | succ taken => rw [cut, ih, List.drop_succ_cons]

theorem cut_encode_append (c : Char) (rest : List UInt8) :
    cut (String.utf8EncodeChar c ++ rest) 0 = .char c :: cut rest 0 := by
  obtain ⟨lead, more, hEncode, hCompletes, hPoint⟩ := completes_encode c
  rw [hEncode, List.cons_append, cut, hCompletes.first, hPoint, Char.ofNat_toNat,
    hCompletes.followers, cut_eq_cut_drop, List.drop_left]

end Piece

/-! ## Encoded text -/

@[simp] theorem encode_nil : encode [] = [] := rfl

@[simp] theorem encode_cons (c : Char) (text : List Char) :
    encode (c :: text) = String.utf8EncodeChar c ++ encode text := rfl

@[simp] theorem encode_append (text more : List Char) :
    encode (text ++ more) = encode text ++ encode more := List.flatMap_append

@[simp] theorem symbolsOfText_nil : symbolsOfText [] = [] := rfl

@[simp] theorem symbolsOfText_cons (c : Char) (text : List Char) :
    symbolsOfText (c :: text) = some c :: symbolsOfText text := rfl

@[simp] theorem symbolsOfText_append (text more : List Char) :
    symbolsOfText (text ++ more) = symbolsOfText text ++ symbolsOfText more := List.map_append

@[simp] theorem length_symbolsOfText (text : List Char) :
    (symbolsOfText text).length = text.length := List.length_map _

theorem pieces_encode_append (text : List Char) (rest : List UInt8) :
    pieces (encode text ++ rest) = text.map .char ++ pieces rest := by
  induction text with
  | nil => rfl
  | cons c text ih =>
    rw [encode_cons, List.append_assoc, pieces, Piece.cut_encode_append, ← pieces, ih]
    rfl

@[simp] theorem symbolsOfBytes_encode (text : List Char) :
    symbolsOfBytes (encode text) = symbolsOfText text := by
  have hPieces := pieces_encode_append text []
  rw [List.append_nil] at hPieces
  rw [symbolsOfBytes, hPieces, show pieces [] = [] from rfl, List.append_nil, List.flatMap_map]
  exact List.map_eq_flatMap.symm

theorem decode?_encode_append (text : List Char) (rest : List UInt8) :
    decode? (encode text ++ rest) = (decode? rest).map (text ++ ·) := by
  induction text with
  | nil => simp
  | cons c text ih =>
    rw [decode?, pieces_encode_append] at ih ⊢
    rw [List.map_cons, List.cons_append, List.mapM_cons, ih]
    cases decode? rest <;> rfl

@[simp] theorem decode?_encode (text : List Char) : decode? (encode text) = some text := by
  simpa [decode?, pieces, Piece.cut] using decode?_encode_append text []

/-- Whatever is read as text is written as the same bytes. -/
theorem encode_of_decode? {bytes : List UInt8} {text : List Char}
    (h : decode? bytes = some text) : encode text = bytes := by
  induction hLength : bytes.length using Nat.strong_induction_on generalizing bytes text with
  | _ length ih =>
    cases bytes with
    | nil =>
      obtain rfl : [] = text := Option.some.inj h
      rfl
    | cons lead rest =>
      rw [decode?, pieces, Piece.cut, Piece.first, Piece.cut_eq_cut_drop, List.mapM_cons] at h
      obtain ⟨c, hFirst, h⟩ := Option.bind_eq_some_iff.1 h
      obtain ⟨more, hMore, hText⟩ := Option.bind_eq_some_iff.1 h
      obtain rfl : c :: more = text := Option.some.inj hText
      split_ifs at hFirst with hAll
      · have hCompletes := Piece.Completes.of_followers hAll
        obtain rfl := Option.some.inj hFirst
        have hShorter : (rest.drop (Piece.followers lead rest)).length < length := by
          rw [← hLength, List.length_cons, List.length_drop]
          omega
        rw [encode_cons, hCompletes.encode, ih _ hShorter hMore rfl, List.cons_append,
          List.take_append_drop]
      · cases hFirst

theorem decode?_eq_some_iff {bytes : List UInt8} {text : List Char} :
    decode? bytes = some text ↔ bytes = encode text :=
  ⟨fun h ↦ (encode_of_decode? h).symm, fun h ↦ by rw [h, decode?_encode]⟩

/-- An ASCII byte of an encoded text is a character of the text. -/
theorem exists_of_mem_encode {text : List Char} {b : UInt8} (hAscii : b.toNat < 0x80)
    (h : b ∈ encode text) : ∃ c ∈ text, c.toNat = b.toNat := by
  obtain ⟨c, hText, hMem⟩ := List.mem_flatMap.1 h
  refine ⟨c, hText, ?_⟩
  have hNat : c.val.toNat = c.toNat := rfl
  unfold String.utf8EncodeChar at hMem
  simp only [hNat] at hMem
  split_ifs at hMem with hOne hTwo hThree
  · obtain rfl := List.mem_singleton.1 hMem
    simp
    omega
  all_goals
    simp only [List.mem_cons, List.not_mem_nil, or_false, ← UInt8.toNat_inj,
      UInt8.toNat_ofNat'] at hMem
    omega

/-! ## Bytes of a string -/

theorem toList_byteArray (bytes : ByteArray) : bytes.toList = bytes.data.toList := by
  have hLoop (i : Nat) (taken : List UInt8) :
      ByteArray.toList.loop bytes i taken = taken.reverse ++ bytes.data.toList.drop i := by
    fun_induction ByteArray.toList.loop bytes i taken with
    | case1 i taken hLess ih =>
      have hIndex : i < bytes.data.toList.length := hLess
      have hGet : bytes.get! i = bytes.data.toList[i] := getElem!_pos bytes.data i hLess
      rw [ih, List.drop_eq_getElem_cons hIndex, List.reverse_cons, hGet, List.append_assoc]
      rfl
    | case2 i taken hLess =>
      have hLength : bytes.data.toList.length ≤ i := Nat.not_lt.1 hLess
      rw [List.drop_eq_nil_of_le hLength, List.append_nil]
  exact hLoop 0 []

theorem toList_toUTF8 (s : String) : s.toUTF8.toList = encode s.toList := by
  rw [toList_byteArray, String.toUTF8_eq_toByteArray, ← String.utf8Encode_toList, List.utf8Encode,
    List.toList_data_toByteArray]
  rfl

end StorefrontLoad.Text
