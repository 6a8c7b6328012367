import StorefrontLoad.Text.Split

/-!
# Cutting a text part by part

What stands before a separator and what stands behind it are cut independently of one another.
-/

namespace StorefrontLoad.Text

theorem splitOn_of_notMem {separator : Char} {text : List Char} (h : separator ∉ text) :
    splitOn separator text = [text] := by
  induction text with
  | nil => rfl
  | cons c text ih =>
    obtain ⟨hNe, hRest⟩ := not_or.1 (mt List.mem_cons.2 h)
    rw [splitOn, if_neg (Ne.symm hNe), ih hRest]

theorem splitOn_append (separator : Char) (first rest : List Char) :
    splitOn separator (first ++ separator :: rest) =
      splitOn separator first ++ splitOn separator rest := by
  induction first with
  | nil => exact if_pos rfl
  | cons c first ih =>
    rw [List.cons_append, splitOn, splitOn, ih]
    split
    · rfl
    · -- The part that `c` begins is the first one on both sides.
      cases hFirst : splitOn separator first with
      | nil => exact absurd hFirst (splitOn_ne_nil separator first)
      | cons part more => rfl

theorem joinWith_eq_intercalate (separator : Char) (parts : List (List Char)) :
    joinWith separator parts = [separator].intercalate parts := by
  induction parts with
  | nil => rfl
  | cons part rest ih =>
    cases rest with
    | nil => exact List.intercalate_singleton.symm
    | cons next rest =>
      calc part ++ separator :: joinWith separator (next :: rest)
          = part ++ [separator] ++ [separator].intercalate (next :: rest) := by simp [ih]
        _ = [separator].intercalate (part :: next :: rest) := List.intercalate_cons_cons.symm

/-- Parts that were joined are cut apart again. -/
theorem splitOn_joinWith {separator : Char} {parts : List (List Char)} (hParts : parts ≠ [])
    (h : ∀ part ∈ parts, separator ∉ part) :
    splitOn separator (joinWith separator parts) = parts := by
  induction parts with
  | nil => exact absurd rfl hParts
  | cons part rest ih =>
    have hPart : splitOn separator part = [part] := splitOn_of_notMem (h part List.mem_cons_self)
    cases rest with
    | nil => exact hPart
    | cons next rest =>
      have hRest := ih (List.cons_ne_nil next rest) fun part hMem ↦
        h part (List.mem_cons_of_mem _ hMem)
      calc splitOn separator (part ++ separator :: joinWith separator (next :: rest))
          = splitOn separator part ++ splitOn separator (joinWith separator (next :: rest)) :=
            splitOn_append separator part _
        _ = part :: next :: rest := by rw [hPart, hRest, List.singleton_append]

end StorefrontLoad.Text
