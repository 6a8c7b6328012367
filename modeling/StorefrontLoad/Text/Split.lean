/-!
# Cutting a text at a separator

A text with `n` separators has `n + 1` parts, any of which may be empty.
-/

namespace StorefrontLoad.Text

def splitOn (separator : Char) : List Char → List (List Char)
  | [] => [[]]
  | c :: rest =>
    if c = separator then [] :: splitOn separator rest
    else match splitOn separator rest with
      | [] => [[c]]
      | part :: more => (c :: part) :: more

def joinWith (separator : Char) : List (List Char) → List Char
  | [] => []
  | [part] => part
  | part :: rest => part ++ separator :: joinWith separator rest

theorem splitOn_ne_nil (separator : Char) (text : List Char) : splitOn separator text ≠ [] := by
  cases text with
  | nil => simp [splitOn]
  | cons c rest =>
    simp only [splitOn]
    split
    · simp
    · split <;> simp

/-- No part holds the separator. -/
theorem notMem_of_mem_splitOn {separator : Char} {text part : List Char}
    (h : part ∈ splitOn separator text) : separator ∉ part := by
  induction text generalizing part with
  | nil => simp_all [splitOn]
  | cons c rest ih =>
    simp only [splitOn] at h
    split at h
    · rcases List.mem_cons.1 h with rfl | h
      · simp
      · exact ih h
    · next hc =>
      have hne : separator ≠ c := fun e ↦ hc e.symm
      split at h
      · simpa [List.mem_singleton.1 h] using hne
      · next first more hRest =>
        rw [hRest] at ih
        rcases List.mem_cons.1 h with rfl | h
        · simpa [hne] using ih List.mem_cons_self
        · exact ih (List.mem_cons_of_mem first h)

/-- Nothing is lost in cutting. -/
@[simp] theorem joinWith_splitOn (separator : Char) (text : List Char) :
    joinWith separator (splitOn separator text) = text := by
  induction text with
  | nil => rfl
  | cons c rest ih =>
    have hne := splitOn_ne_nil separator rest
    simp only [splitOn]
    revert ih hne
    cases splitOn separator rest with
    | nil => simp
    | cons part more =>
      intro ih _
      split
      · next h => simpa [joinWith, h] using ih
      · cases more <;> simpa [joinWith] using ih

end StorefrontLoad.Text
