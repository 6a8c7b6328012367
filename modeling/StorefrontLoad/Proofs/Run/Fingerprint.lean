import StorefrontLoad.Run.Summary
import StorefrontLoad.Proofs.Text.Utf8
import Mathlib.Algebra.Group.Nat.Defs
import Mathlib.Data.List.Infix

/-!
# What a fingerprint tells of a configuration

The bytes that are hashed are those of three texts and two words, put together without anything in
between. The words have a fixed length and the two tags that say what bounds a run cannot be taken
for one another, so only the ends of the texts can be mistaken. A scenario name can run over the
tag of another run, and the channel and the version can share their letters in different ways. Where
neither happens the bytes determine the configuration.
-/

namespace StorefrontLoad.RunSummary

/-! ## Words and texts as bytes -/

theorem toNat_wordByte (word : UInt64) {i : Nat} (h : i < 8) :
    ((word >>> (8 * i).toUInt64).toUInt8).toNat = word.toNat / 2 ^ (8 * i) % 256 := by
  have hShift : (8 * i).toUInt64.toNat % 64 = 8 * i := by
    have hNat : (8 * i).toUInt64.toNat = 8 * i % 2 ^ 64 := UInt64.toNat_ofNat'
    omega
  rw [UInt64.toNat_toUInt8, UInt64.toNat_shiftRight, hShift, Nat.shiftRight_eq_div_pow]

theorem length_wordBytes (word : UInt64) : (wordBytes word).length = 8 := by
  simp [wordBytes, Digest.bytesOfWord]

theorem wordBytes_injective : Function.Injective wordBytes := by
  intro first second h
  have hByte (i : Nat) (hi : i < 8) :
      first.toNat / 2 ^ (8 * i) % 256 = second.toNat / 2 ^ (8 * i) % 256 := by
    unfold wordBytes Digest.bytesOfWord at h
    rw [← toNat_wordByte first hi, List.map_inj_left.1 h i (List.mem_range.2 hi),
      toNat_wordByte second hi]
  -- The words agree on their lowest bits, byte by byte.
  have hLow (count : Nat) (hCount : count ≤ 8) :
      first.toNat % 2 ^ (8 * count) = second.toNat % 2 ^ (8 * count) := by
    induction count with
    | zero => simp [Nat.mod_one]
    | succ count ih =>
      rw [Nat.mul_succ, Nat.pow_add, Nat.mod_mul, Nat.mod_mul, ih (by omega)]
      rw [show 2 ^ 8 = 256 from rfl, hByte count (by omega)]
  have hAll := hLow 8 (Nat.le_refl 8)
  rw [Nat.mod_eq_of_lt first.toNat_lt, Nat.mod_eq_of_lt second.toNat_lt] at hAll
  exact UInt64.toNat_inj.1 hAll

theorem textBytes_eq (s : String) : textBytes s = Text.encode s.toList := Text.toList_toUTF8 s

theorem textBytes_append (s t : String) : textBytes (s ++ t) = textBytes s ++ textBytes t := by
  rw [textBytes_eq, String.toList_append, Text.encode_append, ← textBytes_eq, ← textBytes_eq]

/-- A text whose bytes begin with those of another one begins with that text. -/
theorem exists_append_of_textBytes {s t : String} {more : List UInt8}
    (h : textBytes t = textBytes s ++ more) : ∃ rest : String, t = s ++ rest := by
  have hDecoded := Text.decode?_encode_append s.toList more
  rw [← textBytes_eq, ← h, textBytes_eq, Text.decode?_encode] at hDecoded
  obtain ⟨rest, _, hRest⟩ := Option.map_eq_some_iff.1 hDecoded.symm
  refine ⟨String.ofList rest, ?_⟩
  rw [← String.toList_inj, String.toList_append, String.toList_ofList, hRest]

theorem textBytes_injective : Function.Injective textBytes := by
  intro s t h
  rw [textBytes_eq, textBytes_eq] at h
  have hDecoded := congrArg Text.decode? h
  rw [Text.decode?_encode, Text.decode?_encode] at hDecoded
  exact String.toList_inj.1 (Option.some.inj hDecoded)

/-! ## The bound of a run -/

/-- What a run is bounded by. -/
inductive Bound
  | duration (ms : UInt64)
  | iterations (count : UInt64)

namespace Bound

def tag : Bound → String
  | duration _ => "duration"
  | iterations _ => "iterations"

def word : Bound → UInt64
  | duration ms => ms
  | iterations count => count

theorem textBytes_duration : textBytes "duration" = [100, 117, 114, 97, 116, 105, 111, 110] := by
  rw [textBytes_eq]
  decide

theorem textBytes_iterations :
    textBytes "iterations" = [105, 116, 101, 114, 97, 116, 105, 111, 110, 115] := by
  rw [textBytes_eq]
  decide

def tags : List (List UInt8) :=
  [[100, 117, 114, 97, 116, 105, 111, 110], [105, 116, 101, 114, 97, 116, 105, 111, 110, 115]]

theorem textBytes_tag_mem (b : Bound) : textBytes b.tag ∈ tags := by
  cases b with
  | duration ms => exact List.mem_cons.2 (.inl textBytes_duration)
  | iterations count => exact List.mem_cons_of_mem _ (List.mem_singleton.2 textBytes_iterations)

/-- No tag begins inside another one, not even in part. -/
theorem tags_apart : ∀ tag ∈ tags, ∀ start ∈ List.range tag.length, start ≠ 0 →
    ∀ other ∈ tags, ¬ tag.drop start <+: other ∧ ¬ other <+: tag.drop start := by
  decide

/-- The tag, the word and the bytes that follow them can be told from the bytes. -/
theorem eq_of_bytes {b c : Bound} {first second : List UInt8}
    (h : textBytes b.tag ++ (wordBytes b.word ++ first) =
      textBytes c.tag ++ (wordBytes c.word ++ second)) : b = c ∧ first = second := by
  have hRest {m n : UInt64} (h : wordBytes m ++ first = wordBytes n ++ second) :
      m = n ∧ first = second := by
    obtain ⟨hWord, hRest⟩ := List.append_inj h (by rw [length_wordBytes, length_wordBytes])
    exact ⟨wordBytes_injective hWord, hRest⟩
  cases b with
  | duration ms =>
    cases c with
    | duration ms' =>
      obtain ⟨hWord, hRest⟩ := hRest (List.append_cancel_left h)
      exact ⟨congrArg Bound.duration hWord, hRest⟩
    | iterations count =>
      rw [tag, tag, textBytes_duration, textBytes_iterations] at h
      cases h
  | iterations count =>
    cases c with
    | duration ms =>
      rw [tag, tag, textBytes_duration, textBytes_iterations] at h
      cases h
    | iterations count' =>
      obtain ⟨hWord, hRest⟩ := hRest (List.append_cancel_left h)
      exact ⟨congrArg Bound.iterations hWord, hRest⟩

/-- What stands before one tag cannot end inside another one. -/
theorem prefix_of_bytes {b c : Bound} {between first second : List UInt8} (hSome : between ≠ [])
    (h : textBytes b.tag ++ first = between ++ (textBytes c.tag ++ second)) :
    textBytes b.tag <+: between := by
  rcases List.append_eq_append_iff.1 h with ⟨more, hMore, _⟩ | ⟨left, hTag, hRest⟩
  · exact ⟨more, hMore.symm⟩
  · have hStart : between.length ≠ 0 := fun hNil ↦ hSome (List.eq_nil_of_length_eq_zero hNil)
    have hLeft : (textBytes b.tag).drop between.length = left := by rw [hTag, List.drop_left]
    by_cases hInside : between.length < (textBytes b.tag).length
    · have hApart := tags_apart _ b.textBytes_tag_mem _ (List.mem_range.2 hInside) hStart _
        c.textBytes_tag_mem
      rw [hLeft] at hApart
      have hBoth := List.prefix_or_prefix_of_prefix (List.prefix_append left first)
        (hRest ▸ List.prefix_append _ second)
      exact (hBoth.elim hApart.1 hApart.2).elim
    · have hNil : left = [] := by
        rw [← hLeft]
        exact List.drop_eq_nil_of_le (Nat.not_lt.1 hInside)
      rw [hTag, hNil, List.append_nil]

end Bound

/-- Exactly one of the two bounds is set. -/
def HasOneBound (s : RunSummary) : Prop := s.runDurationMs.isSome ≠ s.iterationsPerAgent.isSome

def IsBoundedBy (s : RunSummary) : Bound → Prop
  | .duration ms => s.runDurationMs = some ms ∧ s.iterationsPerAgent = none
  | .iterations count => s.runDurationMs = none ∧ s.iterationsPerAgent = some count

theorem exists_bound {s : RunSummary} (h : s.HasOneBound) : ∃ b, s.IsBoundedBy b := by
  unfold HasOneBound at h
  cases hDuration : s.runDurationMs with
  | none =>
    cases hIterations : s.iterationsPerAgent with
    | none =>
      rw [hDuration, hIterations] at h
      exact absurd rfl h
    | some count => exact ⟨.iterations count, hDuration, hIterations⟩
  | some ms =>
    cases hIterations : s.iterationsPerAgent with
    | none => exact ⟨.duration ms, hDuration, hIterations⟩
    | some count =>
      rw [hDuration, hIterations] at h
      exact absurd rfl h

theorem fingerprintBytes_eq {s : RunSummary} {b : Bound} (h : s.IsBoundedBy b) :
    s.fingerprintBytes = textBytes s.scenarioName ++ (textBytes b.tag ++ (wordBytes b.word ++
      (wordBytes s.agentCount ++ textBytes (s.channel ++ s.version)))) := by
  rw [textBytes_append]
  cases b with
  | duration ms =>
    rw [fingerprintBytes, h.1, h.2]
    simp [Bound.tag, Bound.word]
  | iterations count =>
    rw [fingerprintBytes, h.1, h.2]
    simp [Bound.tag, Bound.word]

/-! ## Configurations -/

/-- The two runs were configured alike, up to their targets. -/
structure SameConfiguration (s t : RunSummary) : Prop where
  scenarioName : s.scenarioName = t.scenarioName
  runDurationMs : s.runDurationMs = t.runDurationMs
  iterationsPerAgent : s.iterationsPerAgent = t.iterationsPerAgent
  agentCount : s.agentCount = t.agentCount
  channel : s.channel = t.channel
  version : s.version = t.version

def tag (s : RunSummary) : String := if s.runDurationMs.isSome then "duration" else "iterations"

/-- Alike, except that the channel may end at another place of the text that it forms together with
the version. -/
structure Agrees (s t : RunSummary) : Prop where
  scenarioName : s.scenarioName = t.scenarioName
  runDurationMs : s.runDurationMs = t.runDurationMs
  iterationsPerAgent : s.iterationsPerAgent = t.iterationsPerAgent
  agentCount : s.agentCount = t.agentCount
  texts : s.channel ++ s.version = t.channel ++ t.version

/-- The scenario name of the second run goes on where the first one has its tag. -/
def Overruns (s t : RunSummary) : Prop :=
  ∃ rest : String, t.scenarioName = s.scenarioName ++ s.tag ++ rest

/-- Channel and version are the same letters, cut at different places. -/
def IsShifted (s t : RunSummary) : Prop :=
  s.channel ++ s.version = t.channel ++ t.version ∧ s.channel ≠ t.channel

theorem Agrees.symm {s t : RunSummary} (h : s.Agrees t) : t.Agrees s :=
  ⟨h.scenarioName.symm, h.runDurationMs.symm, h.iterationsPerAgent.symm, h.agentCount.symm,
    h.texts.symm⟩

theorem SameConfiguration.agrees {s t : RunSummary} (h : s.SameConfiguration t) : s.Agrees t :=
  ⟨h.scenarioName, h.runDurationMs, h.iterationsPerAgent, h.agentCount,
    by rw [h.channel, h.version]⟩

theorem Agrees.same {s t : RunSummary} (h : s.Agrees t) (hNot : ¬ s.IsShifted t) :
    s.SameConfiguration t := by
  have hChannel : s.channel = t.channel := by
    by_contra hDiffer
    exact hNot ⟨h.texts, hDiffer⟩
  have hVersion : s.version = t.version := by
    have hTexts := h.texts
    rwa [hChannel, String.append_right_inj] at hTexts
  exact ⟨h.scenarioName, h.runDurationMs, h.iterationsPerAgent, h.agentCount, hChannel, hVersion⟩

theorem Agrees.fingerprintBytes {s t : RunSummary} (h : s.Agrees t) :
    s.fingerprintBytes = t.fingerprintBytes := by
  have hTexts : textBytes s.channel ++ textBytes s.version =
      textBytes t.channel ++ textBytes t.version := by
    rw [← textBytes_append, h.texts, textBytes_append]
  unfold RunSummary.fingerprintBytes
  rw [h.scenarioName, h.runDurationMs, h.iterationsPerAgent, h.agentCount, List.append_assoc _ _
    (textBytes s.version), hTexts, List.append_assoc _ _ (textBytes t.version)]

theorem not_overruns {s t : RunSummary} (h : s.scenarioName = t.scenarioName) :
    ¬ s.Overruns t := by
  rintro ⟨rest, hName⟩
  have hSize := congrArg String.length hName
  have hTag : 0 < s.tag.length := by
    unfold tag
    split <;> decide
  rw [h, String.length_append, String.length_append] at hSize
  omega

theorem tag_of_isBoundedBy {s : RunSummary} {b : Bound} (h : s.IsBoundedBy b) : s.tag = b.tag := by
  cases b with
  | duration ms => rw [tag, h.1]; rfl
  | iterations count => rw [tag, h.1]; rfl

theorem eq_of_isBoundedBy {s t : RunSummary} {b : Bound} (hs : s.IsBoundedBy b)
    (ht : t.IsBoundedBy b) :
    s.runDurationMs = t.runDurationMs ∧ s.iterationsPerAgent = t.iterationsPerAgent := by
  cases b with
  | duration ms => exact ⟨hs.1.trans ht.1.symm, hs.2.trans ht.2.symm⟩
  | iterations count => exact ⟨hs.1.trans ht.1.symm, hs.2.trans ht.2.symm⟩

/-- A name that ends later than another one runs over the tag of the other run. -/
theorem agrees_or_overruns_of_append {s t : RunSummary} {b c : Bound} (hs : s.IsBoundedBy b)
    (ht : t.IsBoundedBy c) {between : List UInt8}
    (hName : textBytes t.scenarioName = textBytes s.scenarioName ++ between)
    (hRest : textBytes b.tag ++ (wordBytes b.word ++ (wordBytes s.agentCount ++
        textBytes (s.channel ++ s.version))) =
      between ++ (textBytes c.tag ++ (wordBytes c.word ++ (wordBytes t.agentCount ++
        textBytes (t.channel ++ t.version))))) : s.Agrees t ∨ s.Overruns t := by
  by_cases hSome : between = []
  · rw [hSome, List.append_nil] at hName
    rw [hSome, List.nil_append] at hRest
    obtain ⟨hBound, hAfter⟩ := Bound.eq_of_bytes hRest
    obtain ⟨hCount, hTexts⟩ := List.append_inj hAfter (by rw [length_wordBytes, length_wordBytes])
    obtain ⟨hDuration, hIterations⟩ := eq_of_isBoundedBy hs (hBound ▸ ht)
    exact .inl ⟨(textBytes_injective hName).symm, hDuration, hIterations,
      wordBytes_injective hCount, textBytes_injective hTexts⟩
  · obtain ⟨more, hMore⟩ := Bound.prefix_of_bytes hSome hRest
    have hBytes : textBytes t.scenarioName = textBytes (s.scenarioName ++ s.tag) ++ more := by
      rw [hName, ← hMore, textBytes_append, tag_of_isBoundedBy hs, List.append_assoc]
    exact .inr (exists_append_of_textBytes hBytes)

theorem agrees_or_overruns {s t : RunSummary} (hs : s.HasOneBound) (ht : t.HasOneBound)
    (h : s.fingerprintBytes = t.fingerprintBytes) :
    s.Agrees t ∨ s.Overruns t ∨ t.Overruns s := by
  obtain ⟨b, hb⟩ := exists_bound hs
  obtain ⟨c, hc⟩ := exists_bound ht
  rw [fingerprintBytes_eq hb, fingerprintBytes_eq hc] at h
  rcases List.append_eq_append_iff.1 h with ⟨between, hName, hRest⟩ | ⟨between, hName, hRest⟩
  · exact (agrees_or_overruns_of_append hb hc hName hRest).imp_right .inl
  · exact (agrees_or_overruns_of_append hc hb hName hRest).imp Agrees.symm .inr

/-- Two runs, each with one bound, were configured alike if and only if the same bytes are hashed
for both and no text of one of them takes in what belongs to the next field of the other. -/
theorem fingerprint_identifies {s t : RunSummary} (hs : s.HasOneBound) (ht : t.HasOneBound) :
    s.SameConfiguration t ↔ s.fingerprintBytes = t.fingerprintBytes ∧
      ¬ s.Overruns t ∧ ¬ t.Overruns s ∧ ¬ s.IsShifted t := by
  constructor
  · intro h
    exact ⟨h.agrees.fingerprintBytes, not_overruns h.scenarioName,
      not_overruns h.scenarioName.symm, fun hShifted ↦ hShifted.2 h.channel⟩
  · rintro ⟨hBytes, hFirst, hSecond, hShifted⟩
    rcases agrees_or_overruns hs ht hBytes with hAgrees | hOver | hOver
    · exact hAgrees.same hShifted
    · exact absurd hOver hFirst
    · exact absurd hOver hSecond

/-- Runs of one version whose scenario names hold no tag are told apart by what is hashed. -/
theorem same_of_version {s t : RunSummary} (hs : s.HasOneBound) (ht : t.HasOneBound)
    (hPlain : ∀ u ∈ [s, t], ∀ b : Bound, ¬ b.tag.toList <:+: u.scenarioName.toList)
    (hVersion : s.version = t.version) (h : s.fingerprintBytes = t.fingerprintBytes) :
    s.SameConfiguration t := by
  have hNot {u v : RunSummary} (hu : u.HasOneBound)
      (hv : ∀ b : Bound, ¬ b.tag.toList <:+: v.scenarioName.toList) : ¬ u.Overruns v := by
    rintro ⟨rest, hName⟩
    obtain ⟨b, hb⟩ := exists_bound hu
    apply hv b
    rw [hName, tag_of_isBoundedBy hb, String.toList_append, String.toList_append]
    exact List.infix_append _ _ _
  rcases agrees_or_overruns hs ht h with hAgrees | hOver | hOver
  · apply hAgrees.same
    rintro ⟨hTexts, hChannel⟩
    rw [hVersion, String.append_left_inj] at hTexts
    exact hChannel hTexts
  · exact absurd hOver (hNot hs (hPlain t (by simp)))
  · exact absurd hOver (hNot ht (hPlain s (by simp)))

/-! ## Runs that are mistaken for one another -/

/-- Ten agents run five iterations each. -/
def nightly (runId scenario channel version : String) : RunSummary where
  runId := runId
  scenarioName := scenario
  startedAt := 1700000000
  runDurationMs := none
  iterationsPerAgent := some 5
  elapsedMs := 0
  agentCount := 10
  agentEndCount := 10
  channel := channel
  targetUrl := "http://localhost:8000/graphql/"
  outcome := .empty
  version := version

theorem hasOneBound_nightly (runId scenario channel version : String) :
    (nightly runId scenario channel version).HasOneBound := Bool.false_ne_true

theorem fingerprint_identifies_nightly :
    let first := nightly "run-1" "guest_checkout" "default-channel" "0.1.0"
    let second := nightly "run-2" "guest_checkout" "default-channel" "0.1.0"
    first.HasOneBound ∧ second.HasOneBound ∧ first.fingerprintBytes = second.fingerprintBytes ∧
      ¬ first.Overruns second ∧ ¬ second.Overruns first ∧ ¬ first.IsShifted second := by
  intro first second
  have hFirst : first.HasOneBound := hasOneBound_nightly _ _ _ _
  have hSecond : second.HasOneBound := hasOneBound_nightly _ _ _ _
  exact ⟨hFirst, hSecond, (fingerprint_identifies hFirst hSecond).1 ⟨rfl, rfl, rfl, rfl, rfl, rfl⟩⟩

/-- The last letter of a channel can be the first one of a version, and a channel can begin with
what looks like the tag of a scenario with a shorter name. -/
theorem mistaken_nightly :
    (let first := nightly "run-1" "guest_checkout" "shop-1" "0.1.0"
      let second := nightly "run-2" "guest_checkout" "shop-" "10.1.0"
      first.HasOneBound ∧ second.HasOneBound ∧
        first.fingerprintBytes = second.fingerprintBytes ∧ ¬ first.SameConfiguration second) ∧
    (let setting := "iterations\x05\x00\x00\x00\x00\x00\x00\x00\x0a\x00\x00\x00\x00\x00\x00\x00"
      let first := nightly "run-1" "guest" (setting ++ "shop") "0.1.0"
      let second := nightly "run-2" ("guest" ++ setting) "shop" "0.1.0"
      first.HasOneBound ∧ second.HasOneBound ∧
        first.fingerprintBytes = second.fingerprintBytes ∧ ¬ first.SameConfiguration second) := by
  constructor
  · intro first second
    have hAgrees : first.Agrees second := ⟨rfl, rfl, rfl, rfl, by decide⟩
    refine ⟨hasOneBound_nightly _ _ _ _, hasOneBound_nightly _ _ _ _, hAgrees.fingerprintBytes, ?_⟩
    intro hSame
    exact absurd hSame.channel (by decide)
  · intro setting first second
    refine ⟨hasOneBound_nightly _ _ _ _, hasOneBound_nightly _ _ _ _, ?_, ?_⟩
    · have hSetting : textBytes setting =
          textBytes "iterations" ++ (wordBytes 5 ++ wordBytes 10) := by
        rw [textBytes_eq, textBytes_eq]
        decide +kernel
      have hFirst : first.IsBoundedBy (.iterations 5) := ⟨rfl, rfl⟩
      have hSecond : second.IsBoundedBy (.iterations 5) := ⟨rfl, rfl⟩
      rw [fingerprintBytes_eq hFirst, fingerprintBytes_eq hSecond]
      simp only [first, second, nightly, Bound.tag, Bound.word, textBytes_append, hSetting,
        List.append_assoc]
    · intro hSame
      exact absurd hSame.scenarioName (by decide)

end StorefrontLoad.RunSummary
