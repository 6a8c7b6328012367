import StorefrontLoad.Run.Summary
import StorefrontLoad.Text.Blank
import StorefrontLoad.Proofs.Json.Decoder

/-!
# Stored summaries read back

A stored summary is one line: whatever its texts hold, no control character is written. Reading the
line gives the summary back, provided that each of its latencies is read back from its own text; all
other values are read back unconditionally.
-/

namespace StorefrontLoad

open Json (NoControl)
open Json.Decoder (NotNull)

namespace StepSummary

/-! ## Steps -/

/-- Reading the text of a latency gives the latency. -/
def ReadsBack (x : Float) : Prop :=
  Json.document Json.Decoder.real (Text.symbolsOfText (latencyText x)) = .ok x

/-- Every latency of the step is read back from its text. -/
structure IsExact (s : StepSummary) : Prop where
  total : ReadsBack s.totalLatencyMs
  shortest : ∀ x ∈ s.minLatencyMs, ReadsBack x
  longest : ∀ x ∈ s.maxLatencyMs, ReadsBack x

theorem isFinite_of_readsBack {x : Float} (h : ReadsBack x) : x.isFinite = true := by
  cases hFinite : x.isFinite with
  | true => rfl
  | false =>
    rw [ReadsBack, latencyText, hFinite] at h
    cases h

theorem isNumeral_latencyText {x : Float} (h : ReadsBack x) : Json.IsNumeral (latencyText x) := by
  rw [latencyText, if_pos (isFinite_of_readsBack h)]
  exact Json.isNumeral_realText x

theorem notNull_latencyText {x : Float} (h : ReadsBack x) : NotNull (latencyText x) := by
  refine Json.Decoder.notNull_of_isNumeral (isNumeral_latencyText h) fun hNil ↦ ?_
  rw [ReadsBack, hNil] at h
  cases h

theorem reads_latency {x : Float} (h : ReadsBack x) (depth : Nat) :
    Json.Decoder.real.Reads depth (latencyText x) x :=
  Json.Decoder.reads_real (isNumeral_latencyText h).isBlank h depth

theorem reads_latency? {o : Option Float} (h : ∀ x ∈ o, ReadsBack x) (depth : Nat) :
    (Json.Decoder.real.optional).Reads depth (Json.optionText latencyText o) o :=
  Json.Decoder.reads_optional fun x hMem ↦
    ⟨reads_latency (h x hMem) depth, notNull_latencyText (h x hMem)⟩

theorem reads_text {s : StepSummary} (h : s.IsExact) (depth : Nat) :
    record.decoder.Reads (depth + 1) s.text s := by
  have hCount (n : UInt64) : (Json.Decoder.unsigned "u64").Reads depth (countText n) n :=
    Json.Decoder.reads_unsigned "u64" depth n
  apply Json.Record.reads_decoder (by decide)
  · exact .of rfl (hCount _) <| .of rfl (hCount _) <| .of rfl (hCount _) <| .of rfl (hCount _) <|
      .of rfl (hCount _) <| .of rfl (hCount _) <| .of rfl (reads_latency h.total depth) <|
      .of rfl (reads_latency? h.shortest depth) <| .of rfl (reads_latency? h.longest depth) <|
      .nil _
  · rfl

theorem noControl_text {s : StepSummary} (h : s.IsExact) : NoControl s.text := by
  have hCount (n : UInt64) : NoControl (countText n) := (Json.isNumeral_toDigits _).noControl
  have hLatency? {o : Option Float} (hBack : ∀ x ∈ o, ReadsBack x) :
      NoControl (Json.optionText latencyText o) :=
    Json.noControl_optionText fun x hMem ↦ (isNumeral_latencyText (hBack x hMem)).noControl
  apply Json.noControl_objectText
  simp [hCount, (isNumeral_latencyText h.total).noControl, hLatency? h.shortest,
    hLatency? h.longest]

end StepSummary

namespace OutcomeSummary

/-! ## Outcomes -/

/-- The steps are listed in the order of their names, and their latencies are read back. -/
structure IsExact (outcome : OutcomeSummary) : Prop where
  sorted : Dictionary.Sorted outcome.steps
  steps : ∀ entry ∈ outcome.steps, entry.2.IsExact

theorem reads_text {outcome : OutcomeSummary} (h : outcome.IsExact) (depth : Nat) :
    record.decoder.Reads (depth + 3) outcome.text outcome := by
  apply Json.Record.reads_decoder (by decide)
  · refine .of rfl (Json.Decoder.reads_unsigned "u64" _ outcome.iterations) <|
      .of rfl (Json.Decoder.reads_dictionary h.sorted fun entry hMem ↦ ?_) <| .nil _
    exact StepSummary.reads_text (h.steps entry hMem) depth
  · rfl

theorem noControl_text {outcome : OutcomeSummary} (h : outcome.IsExact) :
    NoControl outcome.text := by
  have hCount : NoControl (StepSummary.countText outcome.iterations) :=
    (Json.isNumeral_toDigits _).noControl
  refine Json.noControl_objectText (List.forall_mem_cons.2 ⟨hCount, List.forall_mem_cons.2
    ⟨Json.noControl_objectText ?_, List.forall_mem_nil _⟩⟩)
  intro member hMem
  obtain ⟨entry, hEntry, rfl⟩ := List.mem_map.1 hMem
  exact StepSummary.noControl_text (h.steps entry hEntry)

end OutcomeSummary

namespace RunSummary

/-! ## Runs -/

theorem reads_text {s : RunSummary} (h : s.outcome.IsExact) (depth : Nat) :
    record.decoder.Reads (depth + 4) s.text s := by
  have hText (t : String) := Json.Decoder.reads_string (depth + 3) t
  have hWord (expected : String) (n : UInt64) :
      (Json.Decoder.unsigned expected).Reads (depth + 3) (wordText n) n :=
    Json.Decoder.reads_unsigned expected (depth + 3) n
  have hWord? (o : Option UInt64) : (Json.Decoder.optional (.unsigned "u64")).Reads (depth + 3)
      (Json.optionText wordText o) o :=
    Json.Decoder.reads_optional fun n _ ↦ ⟨hWord "u64" n,
      Json.Decoder.notNull_of_isNumeral (Json.isNumeral_toDigits _) Nat.toDigits_ne_nil⟩
  apply Json.Record.reads_decoder (by decide)
  · exact .of rfl (hText _) <| .of rfl (hText _) <|
      .of rfl (Json.Decoder.reads_signed (depth + 3) s.startedAt) <| .of rfl (hWord? _) <|
      .of rfl (hWord? _) <| .of rfl (hWord _ _) <| .of rfl (hWord _ _) <| .of rfl (hWord _ _) <|
      .of rfl (hText _) <| .of rfl (hText _) <| .of rfl (OutcomeSummary.reads_text h depth) <|
      .of rfl (hText _) <| .nil _
  · rfl

theorem noControl_text {s : RunSummary} (h : s.outcome.IsExact) : NoControl s.text := by
  have hWord (n : UInt64) : NoControl (wordText n) := (Json.isNumeral_toDigits _).noControl
  have hWord? (o : Option UInt64) : NoControl (Json.optionText wordText o) :=
    Json.noControl_optionText fun n _ ↦ hWord n
  apply Json.noControl_objectText
  simp [hWord, hWord?, Json.noControl_quote, (Json.isNumeral_wholeText _).noControl,
    OutcomeSummary.noControl_text h]

theorem ofText_text {s : RunSummary} (h : s.outcome.IsExact) : ofText s.text = .ok s :=
  (reads_text h 123).document

theorem exists_text (s : RunSummary) : ∃ chars, s.text = '{' :: chars := by
  rw [text, Json.objectText_eq]
  exact ⟨_, rfl⟩

theorem isBlank_text (s : RunSummary) : Text.isBlank s.text = false := by
  obtain ⟨chars, hText⟩ := exists_text s
  rw [hText]
  rfl

theorem lt_of_mem_encode_text {s : RunSummary} (h : s.outcome.IsExact) {b : UInt8}
    (hMem : b ∈ Text.encode s.text) : 0x20 ≤ b.toNat := by
  by_cases hAscii : b.toNat < 0x80
  · obtain ⟨c, hText, hNat⟩ := Text.exists_of_mem_encode hAscii hMem
    exact hNat ▸ noControl_text h c hText
  · omega

/-- The text of a summary is one line that is not blank. Reading it gives the same summary, which
is stored as the same text again. -/
theorem stored_reads_back {s : RunSummary} (h : s.outcome.IsExact) :
    0x0A ∉ Text.encode s.text ∧ 0x0D ∉ Text.encode s.text ∧ Text.isBlank s.text = false ∧
      ∃ loaded, ofBytes (Text.encode s.text) = .ok loaded ∧ loaded = s ∧ loaded.text = s.text := by
  refine ⟨fun hFeed ↦ ?_, fun hReturn ↦ ?_, isBlank_text s, s, ?_, rfl, rfl⟩
  · exact absurd (lt_of_mem_encode_text h hFeed) (by decide)
  · exact absurd (lt_of_mem_encode_text h hReturn) (by decide)
  · rw [ofBytes, Text.symbolsOfBytes_encode]
    exact ofText_text h

/-- A run whose texts hold quotation marks, backslashes, line breaks, a NUL and a separator. -/
def unruly : RunSummary where
  runId := "\"run\\1\"\r\n"
  scenarioName := "guest\tcheckout\u2028"
  startedAt := -9223372036854775808
  runDurationMs := none
  iterationsPerAgent := some 18446744073709551615
  elapsedMs := 1250
  agentCount := 2
  agentEndCount := 1
  channel := "\x00"
  targetUrl := "https://shop.example/graphql/"
  outcome := ⟨3, [
    ("catalog\n", ⟨2, 1, 1, 0, 0, 0, 3.5, some 0.5, some 3.0⟩),
    ("checkout", ⟨0, 0, 0, 0, 0, 0, 0, none, none⟩)]⟩
  version := currentVersion

theorem isExact_unruly : unruly.outcome.IsExact where
  sorted := by
    unfold Dictionary.Sorted
    decide
  steps := by
    intro entry hMem
    rcases List.mem_cons.1 hMem with rfl | hMem
    · exact ⟨rfl, by rintro x ⟨⟩; rfl, by rintro x ⟨⟩; rfl⟩
    · obtain rfl := List.mem_singleton.1 hMem
      exact ⟨rfl, by rintro x ⟨⟩, by rintro x ⟨⟩⟩

theorem stored_reads_back_unruly : unruly.outcome.IsExact ∧
    0x0A ∉ Text.encode unruly.text ∧ 0x0D ∉ Text.encode unruly.text ∧
      Text.isBlank unruly.text = false ∧ ∃ loaded, ofBytes (Text.encode unruly.text) = .ok loaded ∧
        loaded = unruly ∧ loaded.text = unruly.text :=
  ⟨isExact_unruly, stored_reads_back isExact_unruly⟩

end RunSummary

end StorefrontLoad
