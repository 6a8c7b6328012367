import StorefrontLoad.Json.Reader
import StorefrontLoad.Proofs.Json.Decoder

/-!
# Reading back documents of strings

A string is read back as it was, whatever is in it, and an object as soon as each of its members is.
Its keys come out in the order in which they were written, so no member of a document can change
another one.
-/

namespace StorefrontLoad.Json

theorem memberTexts_eq (fields : List (String × Value)) :
    memberTexts fields = fields.map fun (key, v) ↦ quote key ++ ':' :: v.text := by
  induction fields with
  | nil => rfl
  | cons field fields ih =>
    obtain ⟨key, v⟩ := field
    rw [memberTexts, ih, List.map_cons]

theorem text_object (fields : List (String × Value)) :
    (Value.object fields).text = objectText (fields.map fun (key, v) ↦ (key, v.text)) := by
  rw [Value.text, memberTexts_eq, objectText, List.map_map]
  rfl

/-- Behind a quotation mark a value is a string, at any depth. -/
theorem value_quotationMark (fuel depth : Nat) (rest : Rest) :
    value fuel depth (some '"' :: rest) =
      (string fuel rest).map fun (s, rest) ↦ (.string s, rest) := by
  cases depth <;> rfl

/-- Behind a brace a value is a dictionary of values. -/
theorem value_brace (fuel depth : Nat) (rest : Rest) :
    value fuel (depth + 1) (some '{' :: rest) =
      (Decoder.dictionary value fuel (depth + 1) (some '{' :: rest)).map fun (fields, rest) ↦
        (.object fields, rest) := rfl

namespace Value

open Decoder (Reads)

theorem reads_string (depth : Nat) (s : String) :
    Reads value depth (Value.string s).text (.string s) := by
  intro fuel rest hFuel _
  have hText : (Value.string s).text = quote s := by unfold Value.text; rfl
  have hLength := length_lt_quote s
  rw [hText] at hFuel ⊢
  rw [symbolsOfText_quote, value_quotationMark, string_escaped (by omega)]
  rfl

/-- An object is read back when its members are. -/
theorem reads_object {depth : Nat} {fields : Dictionary Value} (hSorted : Dictionary.Sorted fields)
    (h : ∀ field ∈ fields, Reads value depth field.2.text field.2) :
    Reads value (depth + 1) (Value.object fields).text (.object fields) := by
  intro fuel rest hFuel hEnds
  have hRead : (Decoder.dictionary value).Reads (depth + 1) (Value.object fields).text fields := by
    rw [text_object]
    exact Decoder.reads_dictionary hSorted h
  obtain ⟨more, hText⟩ : ∃ more,
      Text.symbolsOfText (Value.object fields).text ++ rest = some '{' :: more := by
    rw [text_object, objectText]
    exact ⟨_, rfl⟩
  have hFields := hRead fuel rest hFuel hEnds
  rw [hText] at hFields ⊢
  rw [value_brace, hFields]
  rfl

end Value

end StorefrontLoad.Json
