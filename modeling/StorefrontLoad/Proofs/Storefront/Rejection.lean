import StorefrontLoad.Proofs.Json.Decoder
import StorefrontLoad.Storefront.Rejection

/-!
# Rejections written and read back

What a storefront says in a rejection may be any text. The list that is written for it holds no
control character all the same, and reading the list gives the same rejections again, absent parts
and all.
-/

namespace StorefrontLoad.Storefront.Rejection

open Json (Decoder NoControl objectText optionText quote)

theorem notNull_quote (s : String) : Decoder.NotNull (quote s) :=
  ⟨'"', _, rfl, by decide, by decide⟩

/-- The parts of a rejection keep the order of the fields, so each of them fills its own. -/
theorem reads_text (depth : Nat) (r : Rejection) : record.decoder.Reads (depth + 1) r.text r := by
  have hPart (part : Option String) :
      (Decoder.string.optional).Reads depth (optionText quote part) part :=
    Decoder.reads_optional fun s _ ↦ ⟨Decoder.reads_string depth s, notNull_quote s⟩
  apply Json.Record.reads_decoder (by decide)
  · exact .mayEnd true <| .of rfl (hPart r.field) <| .mayEnd true <| .of rfl (hPart r.message) <|
      .mayEnd true <| .of rfl (hPart r.code) <| .nil _
  · rfl

theorem noControl_text (r : Rejection) : NoControl r.text := by
  have hPart (part : Option String) : NoControl (optionText quote part) :=
    Json.noControl_optionText fun s _ ↦ Json.noControl_quote s
  apply Json.noControl_objectText
  simp [hPart]

/-- Reading the text of a list gives the list back. -/
theorem listOfText_listText (rejections : List Rejection) :
    listOfText (listText rejections) = .ok rejections := by
  apply Decoder.Reads.document
  apply Decoder.reads_list
  intro r _
  exact ⟨reads_text 125 r, Json.startsElement_objectText _⟩

theorem noControl_listText (rejections : List Rejection) : NoControl (listText rejections) := by
  have hParts : NoControl (Json.commaSeparated (rejections.map text)) :=
    Json.noControl_commaSeparated <| List.forall_mem_map.2 fun r _ ↦ noControl_text r
  simp [listText, hParts]

end StorefrontLoad.Storefront.Rejection
