import StorefrontLoad.Random.Source
import Mathlib.Algebra.Order.Floor.Div
import Mathlib.Data.FinEnum
import Mathlib.Order.Interval.Finset.Nat

/-!
# Fair draws

The words that stand for an index are those whose product with the number of choices falls into an
interval, and the intervals of all indices are of one length. So every index has the same number of
words. A draw looks at the words of its source one after the other and takes the index of the first
that stands for one, and no search is given up too early.
-/

namespace StorefrontLoad.Random

/-! ## The words of an index -/

/-- The zero bits in front of a number of 32 bits. -/
def leadingZeros (n : Nat) : Nat := (BitVec.ofNat 32 n).clz.toNat

/-- The least word whose product with the number of choices reaches the interval of an index. -/
def firstWord (n i : Nat) : Nat := i * 2 ^ 32 ⌈/⌉ n

section Share

variable {n : Nat} (hPos : 0 < n) (hFew : n < 2 ^ 32)

include hPos hFew

theorem leadingZeros_add_log2 : leadingZeros n + n.log2 = 31 := by
  have hToNat : (BitVec.ofNat 32 n).toNat = n := by
    rw [BitVec.toNat_ofNat, Nat.mod_eq_of_lt hFew]
  have hNe : BitVec.ofNat 32 n ≠ 0#32 := by
    intro h
    rw [h, BitVec.toNat_zero] at hToNat
    omega
  have hLt : leadingZeros n < 32 := BitVec.lt_def.1 (BitVec.clz_lt_iff_ne_zero.2 hNe)
  have hLower := BitVec.two_pow_sub_clz_le_toNat_of_ne_zero (by decide) hNe
  have hUpper := BitVec.toNat_lt_two_pow_sub_clz (x := BitVec.ofNat 32 n)
  rw [hToNat] at hLower hUpper
  change 2 ^ (31 - leadingZeros n) ≤ n at hLower
  change n < 2 ^ (32 - leadingZeros n) at hUpper
  have hSucc : 31 - leadingZeros n + 1 = 32 - leadingZeros n := by omega
  have hLog := (Nat.log2_eq_iff hPos.ne').2 ⟨hLower, hSucc ▸ hUpper⟩
  omega

theorem acceptanceZone_eq : acceptanceZone n = (n <<< leadingZeros n) - 1 := by
  have hZeros := leadingZeros_add_log2 hPos hFew
  have hShift : 31 - n.log2 = leadingZeros n := by omega
  rw [acceptanceZone, hShift, Nat.shiftLeft_eq]
  rfl

/-- Moved to the front, a number still has no more than 32 bits. -/
theorem shift_le : n * 2 ^ leadingZeros n ≤ 2 ^ 32 := by
  have hZeros := leadingZeros_add_log2 hPos hFew
  calc
    n * 2 ^ leadingZeros n ≤ 2 ^ (n.log2 + 1) * 2 ^ leadingZeros n :=
      Nat.mul_le_mul_right _ Nat.lt_log2_self.le
    _ = 2 ^ (n.log2 + 1 + leadingZeros n) := (Nat.pow_add ..).symm
    _ = 2 ^ 32 := by congr 1; omega

/-- The words of an index are those with a product in its interval. -/
theorem indexOfWord?_eq_some_iff {w : UInt32} {i : Nat} :
    indexOfWord? n w = some i ↔
      i * 2 ^ 32 ≤ w.toNat * n ∧ w.toNat * n < i * 2 ^ 32 + n * 2 ^ leadingZeros n := by
  have hBound := shift_le hPos hFew
  have hSpan : 0 < n * 2 ^ leadingZeros n := Nat.mul_pos hPos (Nat.two_pow_pos _)
  have hSize : UInt32.size = 2 ^ 32 := rfl
  simp only [indexOfWord?, acceptanceZone_eq hPos hFew, Nat.shiftLeft_eq, hSize]
  generalize w.toNat * n = product at *
  generalize n * 2 ^ leadingZeros n = span at *
  split
  · rw [Option.some_inj]
    omega
  · simp only [reduceCtorEq, false_iff]
    omega

omit hFew in
theorem firstWord_le_iff {i x : Nat} : firstWord n i ≤ x ↔ i * 2 ^ 32 ≤ x * n := by
  rw [firstWord, ceilDiv_le_iff_le_mul hPos, Nat.mul_comm n x]

/-- The words of an index follow one another. -/
theorem indexOfWord?_eq_some_iff_mem {w : UInt32} {i : Nat} :
    indexOfWord? n w = some i ↔
      w.toNat ∈ Finset.Ico (firstWord n i) (firstWord n i + 2 ^ leadingZeros n) := by
  rw [indexOfWord?_eq_some_iff hPos hFew, Finset.mem_Ico, firstWord_le_iff hPos]
  refine and_congr_right fun _ ↦ ?_
  generalize w.toNat = x
  -- Behind the first words the upper bound is the lower one, moved by one length.
  by_cases hSmall : x < 2 ^ leadingZeros n
  · have hProduct : x * n < n * 2 ^ leadingZeros n := by
      rw [Nat.mul_comm]
      exact Nat.mul_lt_mul_of_pos_left hSmall hPos
    exact iff_of_true (Nat.lt_add_left _ hProduct) (Nat.lt_add_left _ hSmall)
  · obtain ⟨y, rfl⟩ := Nat.exists_eq_add_of_le' (Nat.le_of_not_lt hSmall)
    rw [Nat.add_lt_add_iff_right, ← Nat.not_le, ← Nat.not_le, firstWord_le_iff hPos, Nat.add_mul,
      Nat.mul_comm n, Nat.add_le_add_iff_right]

/-- All words of an index have 32 bits. -/
theorem firstWord_add_le {i : Nat} (h : i < n) :
    firstWord n i + 2 ^ leadingZeros n ≤ 2 ^ 32 := by
  have hShift := shift_le hPos hFew
  have hPower : 2 ^ leadingZeros n ≤ 2 ^ 32 :=
    (Nat.le_mul_of_pos_left _ hPos).trans hShift
  have hEnd : i * 2 ^ 32 + n * 2 ^ leadingZeros n ≤ n * 2 ^ 32 := calc
    _ ≤ i * 2 ^ 32 + 2 ^ 32 := Nat.add_le_add_left hShift _
    _ = (i + 1) * 2 ^ 32 := (Nat.succ_mul i _).symm
    _ ≤ n * 2 ^ 32 := Nat.mul_le_mul_right _ h
  refine Nat.add_le_of_le_sub hPower ?_
  rw [firstWord_le_iff hPos, Nat.sub_mul, Nat.mul_comm (2 ^ leadingZeros n) n,
    Nat.mul_comm (2 ^ 32) n]
  exact Nat.le_sub_of_add_le hEnd

/-- Every index has the same number of words. -/
theorem card_words {i : Nat} (h : i < n) :
    (Finset.univ.filter fun w : UInt32 ↦ indexOfWord? n w = some i).card =
      2 ^ leadingZeros n := by
  have hFits := firstWord_add_le hPos hFew h
  have hImage : (Finset.univ.filter fun w : UInt32 ↦ indexOfWord? n w = some i).image
      UInt32.toNat = Finset.Ico (firstWord n i) (firstWord n i + 2 ^ leadingZeros n) := by
    ext x
    simp only [Finset.mem_image, Finset.mem_filter, Finset.mem_univ, true_and,
      indexOfWord?_eq_some_iff_mem hPos hFew]
    constructor
    · rintro ⟨w, hMem, rfl⟩
      exact hMem
    · intro hMem
      have hWord : (UInt32.ofNat x).toNat = x :=
        UInt32.toNat_ofNat_of_lt' ((Finset.mem_Ico.1 hMem).2.trans_le hFits)
      exact ⟨UInt32.ofNat x, by rwa [hWord], hWord⟩
  have hInjective : Function.Injective UInt32.toNat := fun _ _ ↦ UInt32.toNat_inj.1
  rw [← Finset.card_image_of_injective _ hInjective, hImage, Nat.card_Ico,
    Nat.add_sub_cancel_left]

end Share

/-! ## The search -/

namespace Source

/-- The source without so many words. -/
def skip (source : Source) (count : Nat) : Source := { source with used := source.used + count }

/-- The word so far ahead. -/
def ahead (source : Source) (k : Nat) : UInt32 := source.word (source.used + k)

theorem skip_skip (source : Source) (first second : Nat) :
    (source.skip first).skip second = source.skip (first + second) := by
  simp [skip, Nat.add_assoc]

theorem ahead_skip (source : Source) (count k : Nat) :
    (source.skip count).ahead k = source.ahead (count + k) := by
  simp [skip, ahead, Nat.add_assoc]

/-- The first word that stands for an index is so far ahead. -/
structure IsFirst (source : Source) (choices k i : Nat) : Prop where
  passed : ∀ j < k, indexOfWord? choices (source.ahead j) = none
  accepted : indexOfWord? choices (source.ahead k) = some i

/-- A draw takes the index of the first word that stands for one, and no word behind it; this word
is at most so far ahead. -/
def FindsWithin (source : Source) (bound choices : Nat) : Prop :=
  ∃ k ≤ bound, ∃ i, source.IsFirst choices k i ∧ source.index choices = (i, source.skip (k + 1))

/-- Every word still to come is among the next ones that a search looks at. -/
def IsSpanned (source : Source) : Prop :=
  ∀ used k, ∃ j < source.span, source.word (used + j) = source.word (used + k)

theorem IsSpanned.skip {source : Source} (h : source.IsSpanned) (count : Nat) :
    (source.skip count).IsSpanned := h

/-- All given words are used up after `words.size` turns, and then there are zeroes only. -/
theorem isSpanned_ofWords (words : Array UInt32) : (ofWords words).IsSpanned := by
  intro used k
  by_cases hGiven : used + k < words.size
  · exact ⟨k, by simp only [ofWords]; omega, rfl⟩
  · refine ⟨words.size - used, by simp only [ofWords]; omega, ?_⟩
    have hZero (i : Nat) (h : words.size ≤ i) : words.getD i 0 = 0 := by
      rw [Array.getD, dif_neg (Nat.not_lt.2 h)]
    change words.getD _ 0 = words.getD _ 0
    rw [hZero _ (by omega), hZero _ (by omega)]

/-- The stream of a seed comes round. -/
theorem isSpanned_ofSeed (seed : UInt64) : (ofSeed seed).IsSpanned := by
  intro used k
  have hPos : 0 < 16 * UInt64.size := by decide
  refine ⟨k % (16 * UInt64.size), Nat.mod_lt k hPos, ?_⟩
  have hWord (i : Nat) : (used + i) % 16 = (used + i % (16 * UInt64.size)) % 16 ∧
      ((used + i) / 16) % UInt64.size =
        ((used + i % (16 * UInt64.size)) / 16) % UInt64.size := by
    have hSize : UInt64.size = 18446744073709551616 := rfl
    rw [hSize]
    omega
  have hBlock : ((used + k) / 16).toUInt64 =
      ((used + k % (16 * UInt64.size)) / 16).toUInt64 := by
    rw [← UInt64.toNat_inj]
    exact (hWord k).2
  change ChaCha.word _ _ = ChaCha.word _ _
  simp only [ChaCha.word, hBlock, (hWord k).1]

end Source

section Search

variable {choices turns k i : Nat} {source : Source}

theorem searchIndex_eq (h : source.IsFirst choices k i) (hTurns : k < turns) :
    searchIndex choices turns source = (i, source.skip (k + 1)) := by
  induction turns generalizing k source with
  | zero => omega
  | succ turns ih =>
    have hWord : source.next = (source.ahead 0, source.skip 1) := rfl
    rw [searchIndex, hWord]
    cases k with
    | zero => simp only [h.accepted]
    | succ k =>
      have hRest : (source.skip 1).IsFirst choices k i := by
        refine ⟨fun j hj ↦ ?_, ?_⟩
        · rw [Source.ahead_skip]
          exact h.passed (1 + j) (by omega)
        · rw [Source.ahead_skip, Nat.add_comm]
          exact h.accepted
      simp only [h.passed 0 (Nat.succ_pos k)]
      rw [ih hRest (by omega), Source.skip_skip, Nat.add_comm 1]

theorem indexOfWord?_lt (hPos : 0 < choices) {w : UInt32} (h : indexOfWord? choices w = some i) :
    i < choices := by
  simp only [indexOfWord?] at h
  split at h
  · obtain rfl := Option.some.inj h
    exact Nat.div_lt_of_lt_mul (Nat.mul_lt_mul_of_pos_right w.toNat_lt_size hPos)
  · cases h

theorem searchIndex_lt (hPos : 0 < choices) (turns : Nat) (source : Source) :
    (searchIndex choices turns source).1 < choices := by
  induction turns generalizing source with
  | zero => exact hPos
  | succ turns ih =>
    rw [searchIndex]
    dsimp only
    split
    · next hAccepted => exact indexOfWord?_lt hPos hAccepted
    · exact ih _

theorem exists_skip_searchIndex (choices turns : Nat) (source : Source) :
    ∃ count, (searchIndex choices turns source).2 = source.skip count := by
  induction turns generalizing source with
  | zero => exact ⟨0, rfl⟩
  | succ turns ih =>
    rw [searchIndex]
    dsimp only
    split
    · exact ⟨1, rfl⟩
    · obtain ⟨count, hCount⟩ := ih (source.skip 1)
      exact ⟨1 + count, hCount.trans (Source.skip_skip ..)⟩

/-- No word that stands for an index is missed. -/
theorem findsWithin (hSpanned : source.IsSpanned)
    (h : (indexOfWord? choices (source.ahead k)).isSome) : source.FindsWithin k choices := by
  classical
  have hSome : ∃ m, (indexOfWord? choices (source.ahead m)).isSome := ⟨k, h⟩
  obtain ⟨j, hSpan, hWord⟩ := hSpanned source.used k
  -- The word `k` ahead may lie beyond the span, but it has stood within the span before.
  have hSpanFirst : Nat.find hSome < source.span := by
    refine (Nat.find_min' hSome ?_).trans_lt hSpan
    rw [Source.ahead, hWord]
    exact h
  obtain ⟨i, hAccepted⟩ := Option.isSome_iff_exists.1 (Nat.find_spec hSome)
  have hFirst : source.IsFirst choices (Nat.find hSome) i :=
    ⟨fun m hm ↦ Option.not_isSome_iff_eq_none.1 (Nat.find_min hSome hm), hAccepted⟩
  exact ⟨Nat.find hSome, Nat.find_min' hSome h, i, hFirst, searchIndex_eq hFirst hSpanFirst⟩

end Search

/-! ## Fairness -/

/-- A draw among so many choices prefers none of them. -/
structure IsFairDraw (n : Nat) : Prop where
  /-- A word is judged by the two halves of its product with the number of choices. -/
  judged : ∀ w : UInt32, indexOfWord? n w =
    if w.toNat * n % 2 ^ 32 ≤ (n <<< leadingZeros n) - 1 then some (w.toNat * n / 2 ^ 32) else none
  share : ∀ i < n, (Finset.univ.filter fun w : UInt32 ↦ indexOfWord? n w = some i).card =
    2 ^ leadingZeros n
  lt : ∀ source : Source, (source.index n).1 < n
  /-- The zeroes behind given words end every draw, the first of them at the latest. -/
  given : ∀ words : Array UInt32, (Source.ofWords words).FindsWithin words.size n
  /-- A draw from a seed ends too, unless no word of its stream stands for an index. -/
  seeded : ∀ (seed : UInt64) (used k : Nat),
    (indexOfWord? n (((Source.ofSeed seed).skip used).ahead k)).isSome →
      ((Source.ofSeed seed).skip used).FindsWithin k n

theorem indexOfWord?_zero (n : Nat) : indexOfWord? n 0 = some 0 := by
  simp [indexOfWord?]

theorem isFairDraw {n : Nat} (hPos : 0 < n) (hFew : n < 2 ^ 32) : IsFairDraw n where
  judged w := by
    rw [← acceptanceZone_eq hPos hFew]
    rfl
  share _ h := card_words hPos hFew h
  lt source := searchIndex_lt hPos source.span source
  given words := by
    refine findsWithin (Source.isSpanned_ofWords words) ?_
    have hZero : (Source.ofWords words).ahead words.size = 0 := by
      simp [Source.ahead, Source.ofWords]
    rw [hZero, indexOfWord?_zero]
    rfl
  seeded seed used _ h := findsWithin ((Source.isSpanned_ofSeed seed).skip used) h

end StorefrontLoad.Random
