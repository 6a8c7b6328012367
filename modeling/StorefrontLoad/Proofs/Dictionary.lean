import StorefrontLoad.Dictionary

/-!
# Dictionaries that are told apart by looking up

A dictionary that was built by insertions lists its keys in increasing order. Two such dictionaries
are the same as soon as every key is found in both with the same value.
-/

namespace StorefrontLoad.Dictionary

variable {α β : Type}

/-- The keys increase. -/
def Sorted (entries : Dictionary α) : Prop := entries.Pairwise fun a b ↦ a.1 < b.1

theorem mem_insert {key : String} {value : α} {entries : Dictionary α} {entry : String × α}
    (h : entry ∈ entries.insert key value) : entry.1 = key ∨ entry ∈ entries := by
  induction entries with
  | nil =>
    have hEq : entry = (key, value) := by simpa [insert] using h
    exact .inl (congrArg Prod.fst hEq)
  | cons head rest ih =>
    simp only [insert] at h
    split at h
    · rcases List.mem_cons.1 h with hNew | hOld
      · exact .inl (congrArg Prod.fst hNew)
      · exact .inr hOld
    · split at h
      · rcases List.mem_cons.1 h with hNew | hOld
        · exact .inl (congrArg Prod.fst hNew)
        · exact .inr (List.mem_cons_of_mem _ hOld)
      · rcases List.mem_cons.1 h with hHead | hRest
        · exact .inr (hHead ▸ List.mem_cons_self)
        · exact (ih hRest).imp_right (List.mem_cons_of_mem _)

theorem sorted_insert {entries : Dictionary α} (h : Sorted entries) (key : String) (value : α) :
    Sorted (entries.insert key value) := by
  induction entries with
  | nil => exact List.pairwise_singleton _ _
  | cons head rest ih =>
    obtain ⟨hHead, hRest⟩ := List.pairwise_cons.1 h
    simp only [insert]
    split
    · next hLess =>
      refine List.pairwise_cons.2 ⟨fun entry hMem ↦ ?_, h⟩
      rcases List.mem_cons.1 hMem with rfl | hMem
      · exact hLess
      · exact String.lt_trans hLess (hHead entry hMem)
    · next hNotLess =>
      split
      · next hKey =>
        subst hKey
        exact List.pairwise_cons.2 ⟨hHead, hRest⟩
      · next hKey =>
        refine List.pairwise_cons.2 ⟨fun entry hMem ↦ ?_, ih hRest⟩
        rcases mem_insert hMem with rfl | hMem
        · have hLe : head.1 ≤ entry.1 := String.not_lt.1 hNotLess
          exact Classical.byContradiction fun hNot ↦
            hKey (String.le_antisymm (String.not_lt.1 hNot) hLe)
        · exact hHead entry hMem

theorem sorted_update {entries : Dictionary α} (h : Sorted entries) (key : String) (fresh : α)
    (change : α → α) : Sorted (entries.update key fresh change) :=
  sorted_insert h key _

theorem sorted_map {entries : Dictionary α} (h : Sorted entries) (change : α → β) :
    Sorted (entries.map fun (key, value) ↦ (key, change value)) :=
  List.pairwise_map.2 h

theorem find?_map (entries : Dictionary α) (change : α → β) (key : String) :
    find? key (entries.map fun (key, value) ↦ (key, change value)) =
      (entries.find? key).map change := by
  induction entries with
  | nil => rfl
  | cons head rest ih =>
    simp only [List.map_cons, find?]
    split
    · rfl
    · exact ih

/-- What is smaller than all keys is not found. -/
theorem find?_eq_none {entries : Dictionary α} {key : String}
    (h : ∀ entry ∈ entries, key < entry.1) : entries.find? key = none := by
  induction entries with
  | nil => rfl
  | cons head rest ih =>
    have hHead : head.1 ≠ key := fun hEq ↦
      String.lt_irrefl key (hEq ▸ h head List.mem_cons_self)
    rw [find?, if_neg hHead]
    exact ih fun entry hMem ↦ h entry (List.mem_cons_of_mem _ hMem)

/-- The first key of a dictionary is not below the first key of another one with the same values. -/
theorem not_lt_of_find? {first second : Dictionary α} {a b : String × α}
    (hSorted : Sorted (b :: second))
    (h : find? a.1 (a :: first) = find? a.1 (b :: second)) : ¬ a.1 < b.1 := by
  intro hLess
  have hNone : find? a.1 (b :: second) = none := by
    apply find?_eq_none
    intro entry hMem
    rcases List.mem_cons.1 hMem with rfl | hMem
    · exact hLess
    · exact String.lt_trans hLess ((List.pairwise_cons.1 hSorted).1 entry hMem)
  rw [hNone, find?, if_pos rfl] at h
  cases h

theorem eq_of_find? {first second : Dictionary α} (hFirst : Sorted first) (hSecond : Sorted second)
    (h : ∀ key, first.find? key = second.find? key) : first = second := by
  induction first generalizing second with
  | nil =>
    cases second with
    | nil => rfl
    | cons b second =>
      have hFound := h b.1
      rw [find?, find?, if_pos rfl] at hFound
      cases hFound
  | cons a first ih =>
    cases second with
    | nil =>
      have hFound := h a.1
      rw [find?, find?, if_pos rfl] at hFound
      cases hFound
    | cons b second =>
      have hKey : a.1 = b.1 := by
        have hab := not_lt_of_find? hSecond (h a.1)
        have hba := not_lt_of_find? hFirst (h b.1).symm
        exact String.le_antisymm (String.not_lt.1 hba) (String.not_lt.1 hab)
      have hValue : a.2 = b.2 := by
        have hFound := h a.1
        rw [find?, if_pos rfl, find?, if_pos hKey.symm] at hFound
        exact Option.some.inj hFound
      have hHead : a = b := Prod.ext hKey hValue
      obtain ⟨hLeast, hFirst⟩ := List.pairwise_cons.1 hFirst
      obtain ⟨hLeast', hSecond⟩ := List.pairwise_cons.1 hSecond
      have hRest : first = second := by
        apply ih hFirst hSecond
        intro key
        by_cases hEq : a.1 = key
        · subst hEq
          rw [find?_eq_none hLeast, find?_eq_none (hKey ▸ hLeast')]
        · have hFound := h key
          rwa [find?, if_neg hEq, find?, if_neg (hKey ▸ hEq)] at hFound
      rw [hHead, hRest]

/-- A key above all others goes to the end. -/
theorem insert_eq_append {entries : Dictionary α} {key : String}
    (h : ∀ entry ∈ entries, entry.1 < key) (a : α) :
    entries.insert key a = entries ++ [(key, a)] := by
  induction entries with
  | nil => rfl
  | cons entry entries ih =>
    have hLess := h entry List.mem_cons_self
    have hNotLess : ¬ key < entry.1 := fun hLess' ↦
      String.lt_irrefl key (String.lt_trans hLess' hLess)
    have hNe : key ≠ entry.1 := fun hEq ↦ hNotLess (hEq ▸ hLess)
    rw [insert, if_neg hNotLess, if_neg hNe,
      ih fun entry hMem ↦ h entry (List.mem_cons_of_mem _ hMem)]
    rfl

theorem length_insert {entries : Dictionary α} {key : String} (h : entries.find? key = none)
    (a : α) : (entries.insert key a).length = entries.length + 1 := by
  induction entries with
  | nil => rfl
  | cons entry entries ih =>
    rw [find?] at h
    split at h
    · cases h
    · next hNe =>
      rw [insert]
      split
      · rfl
      · rw [if_neg (Ne.symm hNe), List.length_cons, ih h, List.length_cons]

theorem mem_keys_of_find? {entries : Dictionary α} {key : String} {a : α}
    (h : entries.find? key = some a) : key ∈ entries.keys := by
  induction entries with
  | nil => cases h
  | cons entry entries ih =>
    rw [find?] at h
    split at h
    · next hKey => exact List.mem_cons.2 (.inl hKey.symm)
    · exact List.mem_cons_of_mem _ (ih h)

/-- What is found is what is there. -/
theorem isSome_find?_iff {entries : Dictionary α} {key : String} :
    (entries.find? key).isSome ↔ key ∈ entries.keys := by
  induction entries with
  | nil => simp [find?, keys]
  | cons entry entries ih =>
    rw [find?]
    split
    · next hKey => simp [keys, hKey]
    · next hNe => simpa [keys, Ne.symm hNe] using ih

theorem nodup_keys {entries : Dictionary α} (h : Sorted entries) : entries.keys.Nodup := by
  refine List.pairwise_map.2 (h.imp fun hLess hEq ↦ ?_)
  exact String.lt_irrefl _ (hEq ▸ hLess)

/-- Every entry is found under its key. -/
theorem find?_of_mem {entries : Dictionary α} (h : Sorted entries) {entry : String × α}
    (hMem : entry ∈ entries) : entries.find? entry.1 = some entry.2 := by
  induction entries with
  | nil => cases hMem
  | cons head entries ih =>
    obtain ⟨hHead, hRest⟩ := List.pairwise_cons.1 h
    rcases List.mem_cons.1 hMem with rfl | hMem
    · rw [find?, if_pos rfl]
    · have hNe : head.1 ≠ entry.1 := fun hEq ↦
        String.lt_irrefl head.1 (by simpa [← hEq] using hHead entry hMem)
      rw [find?, if_neg hNe, ih hRest hMem]

end StorefrontLoad.Dictionary
