import StorefrontLoad.Proofs.Json.Trailing
import StorefrontLoad.Proofs.Run.Archive
import StorefrontLoad.Proofs.Text.Split
import Mathlib.Logic.Relation

/-!
# Files of summaries, line by line

Loading a file is reading each of its lines by itself. What stands before a line break has no
influence on what stands behind it, so files can be put together, blank lines put in or taken out,
and line breaks be written in either way. Only a carriage return that stands before the line break
and is no part of it is read with the line, where it can make the error a different one.
-/

namespace StorefrontLoad.RunSummary

/-! ## Cutting a text into lines -/

/-- A line without the carriage return that belongs to the break behind it. -/
def dropReturn (line : List Char) : List Char :=
  if line.getLast? = some '\r' then line.dropLast else line

/-- Cuts a text at every line feed, with one carriage return directly before it. -/
def cutLines (text : List Char) : List (List Char) :=
  let parts := Text.splitOn '\n' text
  parts.dropLast.map dropReturn ++ parts.getLast?.toList

/-- The lines that hold more than white space. -/
def withoutBlanks (lines : List (List Char)) : List (List Char) :=
  lines.filter fun line ↦ !Text.isBlank line

/-- The lines of a text that are not blank. -/
def filledLines (text : List Char) : List (List Char) := withoutBlanks (cutLines text)

/-- Reads one summary from a text by itself. -/
def ofSingle (line : List Char) : Except FileError RunSummary :=
  (ofBytes (Text.encode line)).mapError .malformed

theorem cutLines_of_notMem {line : List Char} (h : '\n' ∉ line) : cutLines line = [line] := by
  simp [cutLines, Text.splitOn_of_notMem h]

theorem cutLines_append {line : List Char} (h : '\n' ∉ line) (rest : List Char) :
    cutLines (line ++ '\n' :: rest) = dropReturn line :: cutLines rest := by
  have hRest := Text.splitOn_ne_nil '\n' rest
  rw [cutLines, Text.splitOn_append, Text.splitOn_of_notMem h, List.singleton_append]
  simp [cutLines, List.dropLast_cons_of_ne_nil hRest, List.getLast?_cons_of_ne_nil hRest]

/-- A text is a last line, or a line with a line feed and a text behind it. -/
theorem text_induction {P : List Char → Prop} (last : ∀ line, '\n' ∉ line → P line)
    (line : ∀ line rest, '\n' ∉ line → P rest → P (line ++ '\n' :: rest)) (text : List Char) :
    P text := by
  induction hLength : text.length using Nat.strong_induction_on generalizing text with
  | _ length ih =>
    by_cases hMem : '\n' ∈ text
    · obtain ⟨first, rest, rfl, hFirst⟩ := List.eq_append_cons_of_mem hMem
      refine line first rest hFirst (ih rest.length ?_ rest rfl)
      simp only [List.length_append, List.length_cons] at hLength
      omega
    · exact last text hMem

/-! ## The lines of an encoded text -/

theorem notMem_encode {line : List Char} (h : '\n' ∉ line) : 0x0A ∉ Text.encode line := by
  intro hMem
  obtain ⟨c, hChar, hCode⟩ := Text.exists_of_mem_encode (by decide) hMem
  have hFeed : c = '\n' := Char.toNat_inj.1 hCode
  exact h (hFeed ▸ hChar)

/-- A text that is encoded with a carriage return at its end has one there. -/
theorem getLast?_encode {line : List Char} (h : (Text.encode line).getLast? = some 0x0D) :
    line.getLast? = some '\r' := by
  rcases List.eq_nil_or_concat line with rfl | ⟨init, c, rfl⟩
  · cases h
  · have hLast : 0x0D ∈ Text.encode [c] := by
      rw [List.concat_eq_append, Text.encode_append, List.getLast?_append_of_ne_nil] at h
      · exact List.mem_of_getLast? h
      · simp [Text.encode, String.utf8EncodeChar_ne_nil]
    obtain ⟨d, hMem, hCode⟩ := Text.exists_of_mem_encode (by decide) hLast
    obtain rfl : d = c := List.mem_singleton.1 hMem
    have hReturn : d = '\r' := Char.toNat_inj.1 hCode
    simp [hReturn]

theorem lines_concat_return_feed {line : List UInt8} (hFeed : 0x0A ∉ line) :
    lines (line ++ [0x0D, 0x0A]) = [line] := by
  induction line with
  | nil => simp [lines]
  | cons b line ih =>
    obtain ⟨hFirst, hLine⟩ := List.ne_and_not_mem_of_not_mem_cons hFeed
    have hHead : (line ++ [0x0D, 0x0A]).head? ≠ some 0x0A := by
      cases line with
      | nil => simp
      | cons c line => exact fun hEq ↦ hLine (Option.some.inj hEq ▸ List.mem_cons_self)
    rw [List.cons_append, lines_cons (Ne.symm hFirst) fun _ ↦ hHead, ih hLine]
    rfl

theorem lines_encode_feed {line : List Char} (h : '\n' ∉ line) :
    lines (Text.encode line ++ [0x0A]) = [Text.encode (dropReturn line)] := by
  unfold dropReturn
  split
  · next hReturn =>
    obtain ⟨init, rfl⟩ := List.getLast?_eq_some_iff.1 hReturn
    have hInit : '\n' ∉ init := fun hMem ↦ h (List.mem_append_left _ hMem)
    rw [List.dropLast_concat, Text.encode_append, List.append_assoc]
    exact lines_concat_return_feed (notMem_encode hInit)
  · next hReturn =>
    exact lines_concat_feed (notMem_encode h) fun hLast ↦ hReturn (getLast?_encode hLast)

/-! ## Reading line by line -/

theorem ofLine_encode_eq (line : List Char) : ofLine (Text.encode line) =
    if Text.isBlank line then .ok none else (ofSingle line).map some := by
  rw [ofLine, Text.decode?_encode, ofSingle, ofBytes, Text.symbolsOfBytes_encode, ← ofText]
  dsimp only
  split
  · rfl
  · cases ofText line <;> rfl

theorem ofLines_encode (line : List Char) : ofLines [Text.encode line] =
    (withoutBlanks [line]).mapM ofSingle := by
  rw [ofLines_singleton, ofLine_encode_eq, withoutBlanks]
  cases hBlank : Text.isBlank line with
  | true =>
    simp [hBlank]
    rfl
  | false =>
    rw [List.filter_cons_of_pos (by simp [hBlank])]
    cases hSingle : ofSingle line with
    | error e => simp [hSingle]; rfl
    | ok s => simp [hSingle]; rfl

theorem mapM_ofSingle_append (first more : List (List Char)) :
    (first ++ more).mapM ofSingle =
      (first.mapM ofSingle).bind fun runs ↦ (more.mapM ofSingle).map (runs ++ ·) := by
  rw [List.mapM_append]
  cases first.mapM ofSingle with
  | error e => rfl
  | ok runs => cases more.mapM ofSingle <;> rfl

theorem filledLines_append {line : List Char} (h : '\n' ∉ line) (rest : List Char) :
    filledLines (line ++ '\n' :: rest) =
      withoutBlanks [dropReturn line] ++ filledLines rest := by
  rw [filledLines, cutLines_append h, filledLines, withoutBlanks, withoutBlanks, withoutBlanks,
    ← List.filter_append]
  rfl

/-- Loading a file is reading its lines one by one. -/
theorem ofContent_encode (text : List Char) :
    ofContent (Text.encode text) = (filledLines text).mapM ofSingle := by
  rw [ofContent, ← ofLines]
  induction text using text_induction with
  | last line h =>
    rw [filledLines, cutLines_of_notMem h, ← ofLines_encode]
    by_cases hNil : line = []
    · subst hNil
      rfl
    · have hSome : Text.encode line ≠ [] := by
        cases line with
        | nil => exact absurd rfl hNil
        | cons c line => simp [Text.encode, String.utf8EncodeChar_ne_nil]
      rw [lines_of_notMem (notMem_encode h) hSome]
  | line line rest h ih =>
    have hBytes : Text.encode (line ++ '\n' :: rest) =
        Text.encode line ++ 0x0A :: Text.encode rest := by
      rw [Text.encode_append, Text.encode_cons]
      rfl
    rw [hBytes, lines_append_feed, lines_encode_feed h, ofLines_append, ofLines_encode, ih,
      filledLines_append h, mapM_ofSingle_append]

/-! ## Putting files together -/

/-- The last line of the text has been closed. -/
def IsClosed (text : List Char) : Prop := text = [] ∨ text.getLast? = some '\n'

/-- Behind a closed text the lines start anew. -/
theorem filledLines_closed {text : List Char} (h : IsClosed text) (rest : List Char) :
    filledLines (text ++ rest) = filledLines text ++ filledLines rest := by
  induction text using text_induction with
  | last line hLine =>
    rcases h with rfl | hLast
    · rfl
    · exact absurd (List.mem_of_getLast? hLast) hLine
  | line line more hLine ih =>
    have hMore : IsClosed more := by
      cases more with
      | nil => exact .inl rfl
      | cons c more =>
        refine .inr ?_
        rcases h with hNil | hLast
        · exact absurd hNil (by simp)
        · rwa [List.getLast?_append_of_ne_nil _ (by simp), List.getLast?_cons_cons] at hLast
    rw [List.append_assoc, List.cons_append, filledLines_append hLine, filledLines_append hLine,
      ih hMore, List.append_assoc]

theorem ofContent_closed_append {text : List Char} (h : IsClosed text) (rest : List Char) :
    ofContent (Text.encode (text ++ rest)) =
      (ofContent (Text.encode text)).bind fun runs ↦
        (ofContent (Text.encode rest)).map (runs ++ ·) := by
  rw [ofContent_encode, ofContent_encode, ofContent_encode, filledLines_closed h,
    mapM_ofSingle_append]

/-! ## Blank lines -/

theorem isBlank_dropReturn {line : List Char} (h : Text.isBlank line = true) :
    Text.isBlank (dropReturn line) = true := by
  unfold dropReturn
  split
  · exact List.all_eq_true.2 fun c hMem ↦
      List.all_eq_true.1 h c ((List.dropLast_sublist line).subset hMem)
  · exact h

theorem filledLines_of_isBlank {text : List Char} (h : Text.isBlank text = true) :
    filledLines text = [] := by
  induction text using text_induction with
  | last line hLine => simp [filledLines, withoutBlanks, cutLines_of_notMem hLine, h]
  | line line rest hLine ih =>
    have hParts : Text.isBlank line = true ∧ Text.isBlank rest = true := by
      simp only [Text.isBlank, List.all_append, List.all_cons, Bool.and_eq_true] at h
      exact ⟨h.1, h.2.2⟩
    rw [filledLines_append hLine, ih hParts.2]
    simp [withoutBlanks, isBlank_dropReturn hParts.1]

/-- Putting blank lines in between two lines, or behind the last one. -/
theorem filledLines_insert {before blank after : List Char} (hBefore : IsClosed before)
    (hBlank : Text.isBlank blank = true) (hEnd : IsClosed blank ∨ after = []) :
    filledLines (before ++ blank ++ after) = filledLines (before ++ after) := by
  rw [List.append_assoc, filledLines_closed hBefore, filledLines_closed hBefore]
  rcases hEnd with hClosed | rfl
  · rw [filledLines_closed hClosed, filledLines_of_isBlank hBlank, List.nil_append]
  · rw [List.append_nil, filledLines_of_isBlank hBlank]
    rfl

/-! ## Line breaks -/

/-- Behind a text a line feed, or a carriage return and a line feed, make a difference to its last
line only. -/
theorem exists_last_line (before after : List Char) : ∃ first line, line <:+ before ∧
    filledLines before = first ++ withoutBlanks [line] ∧
    filledLines (before ++ '\n' :: after) =
      first ++ withoutBlanks [dropReturn line] ++ filledLines after ∧
    filledLines (before ++ '\r' :: '\n' :: after) =
      first ++ withoutBlanks [line] ++ filledLines after := by
  induction before using text_induction with
  | last line h =>
    have hReturn : '\n' ∉ line ++ ['\r'] := by simp [h]
    have hDrop : dropReturn (line ++ ['\r']) = line := by simp [dropReturn]
    refine ⟨[], line, List.suffix_refl _, ?_, ?_, ?_⟩
    · rw [filledLines, cutLines_of_notMem h, List.nil_append]
    · rw [filledLines_append h, List.nil_append]
    · rw [List.append_cons, filledLines_append hReturn, hDrop, List.nil_append]
  | line line rest h ih =>
    obtain ⟨first, last, hSuffix, hOpen, hFeed, hReturn⟩ := ih
    refine ⟨withoutBlanks [dropReturn line] ++ first, last, ?_, ?_, ?_, ?_⟩
    · exact hSuffix.trans ((List.suffix_cons _ _).trans (List.suffix_append _ _))
    · rw [filledLines_append h, hOpen, List.append_assoc]
    · rw [List.append_assoc, List.cons_append, filledLines_append h, hFeed]
      simp only [List.append_assoc]
    · rw [List.append_assoc, List.cons_append, filledLines_append h, hReturn]
      simp only [List.append_assoc]

/-- No carriage return is the last character. -/
def EndsClear (text : List Char) : Prop := text.getLast? ≠ some '\r'

theorem filledLines_clear {before : List Char} (h : EndsClear before) (after : List Char) :
    filledLines (before ++ '\n' :: after) = filledLines before ++ filledLines after ∧
      filledLines (before ++ '\r' :: '\n' :: after) = filledLines before ++ filledLines after := by
  obtain ⟨first, line, hSuffix, hOpen, hFeed, hReturn⟩ := exists_last_line before after
  have hLine : line.getLast? ≠ some '\r' := by
    intro hLast
    obtain ⟨init, rfl⟩ := hSuffix
    have hNil : line ≠ [] := by
      rintro rfl
      cases hLast
    exact h (by rwa [List.getLast?_append_of_ne_nil _ hNil])
  have hDrop : dropReturn line = line := if_neg hLine
  rw [hFeed, hReturn, hOpen, hDrop]
  exact ⟨rfl, rfl⟩

/-! ## A carriage return at the end of a line -/

theorem step_trails : StepSummary.record.decoder.Trails := by
  have hCount (name : String) (get : StepSummary.Draft → Option UInt64)
      (set : StepSummary.Draft → UInt64 → StepSummary.Draft) :
      (StepSummary.count name get set).Trails :=
    (Json.Decoder.numeric_trails _ _).field name get set
  have hReal : Json.Decoder.real.Trails := Json.Decoder.numeric_trails _ _
  apply Json.Record.decoder_trails
  simp only [StepSummary.record, List.forall_mem_cons]
  exact ⟨hCount _ _ _, hCount _ _ _, hCount _ _ _, hCount _ _ _, hCount _ _ _, hCount _ _ _,
    hReal.field _ _ _, hReal.optional.field _ _ _, hReal.optional.field _ _ _,
    List.forall_mem_nil _⟩

theorem outcome_trails : OutcomeSummary.record.decoder.Trails := by
  have hCount : (Json.Decoder.unsigned "u64").Trails := Json.Decoder.numeric_trails _ _
  apply Json.Record.decoder_trails
  simp only [OutcomeSummary.record, List.forall_mem_cons]
  exact ⟨hCount.field _ _ _, step_trails.dictionary.field _ _ _, List.forall_mem_nil _⟩

theorem decoder_trails : record.decoder.Trails := by
  have hText : Json.Decoder.string.Trails := Json.Decoder.string_trails
  have hWord (expected : String) : (Json.Decoder.unsigned expected).Trails :=
    Json.Decoder.numeric_trails _ _
  have hSigned : Json.Decoder.signed.Trails := Json.Decoder.numeric_trails _ _
  apply Json.Record.decoder_trails
  simp only [record, List.forall_mem_cons]
  exact ⟨hText.field _ _ _, hText.field _ _ _, hSigned.field _ _ _, (hWord _).optional.field _ _ _,
    (hWord _).optional.field _ _ _, (hWord _).field _ _ _, (hWord _).field _ _ _,
    (hWord _).field _ _ _, hText.field _ _ _, hText.field _ _ _, outcome_trails.field _ _ _,
    hText.field _ _ _, List.forall_mem_nil _⟩

/-- A carriage return at the end of a line may change the error that reading the line ends with, but
not whether it ends with one. -/
theorem toOption_ofSingle_return (line : List Char) :
    (ofSingle (line ++ ['\r'])).toOption = (ofSingle line).toOption := by
  have hSingle (text : List Char) : (ofSingle text).toOption =
      (Json.document record.decoder (Text.symbolsOfText text)).toOption := by
    rw [ofSingle, ofBytes, Text.symbolsOfBytes_encode, ofSymbols]
    cases Json.document record.decoder (Text.symbolsOfText text) <;> rfl
  have hSymbols : Text.symbolsOfText (line ++ ['\r']) =
      Json.withReturn (Text.symbolsOfText line) := Text.symbolsOfText_append line ['\r']
  rw [hSingle, hSingle, hSymbols]
  exact (Json.document_agree decoder_trails _).toOption

theorem isBlank_return (line : List Char) :
    Text.isBlank (line ++ ['\r']) = Text.isBlank line := by
  have hReturn : Text.isWhiteSpace '\r' = true := by decide
  simp [Text.isBlank, hReturn]

/-- Which error a line gives makes no difference to what is loaded if there is none. -/
theorem toOption_mapM (lines : List (List Char)) :
    (lines.mapM ofSingle).toOption = lines.mapM fun line ↦ (ofSingle line).toOption := by
  induction lines with
  | nil => rfl
  | cons line lines ih =>
    rw [List.mapM_cons, List.mapM_cons, ← ih]
    cases ofSingle line with
    | error e => rfl
    | ok s => cases lines.mapM ofSingle <;> rfl

theorem toOption_dropReturn (line : List Char) :
    ((withoutBlanks [dropReturn line]).mapM ofSingle).toOption =
      ((withoutBlanks [line]).mapM ofSingle).toOption := by
  unfold dropReturn
  split
  · next hReturn =>
    obtain ⟨init, rfl⟩ := List.getLast?_eq_some_iff.1 hReturn
    rw [List.dropLast_concat, toOption_mapM, toOption_mapM, withoutBlanks, withoutBlanks]
    cases hBlank : Text.isBlank init <;>
      simp [hBlank, isBlank_return, toOption_ofSingle_return]
  · rfl

/-! ## Rewriting a file -/

/-- One text is the other one with blank lines put in, with a line feed replaced by a carriage
return and a line feed, or with the last line closed. The texts before a line break are those that
`allowed` admits. -/
inductive Edit (allowed : List Char → Prop) : List Char → List Char → Prop
  | blank {before blank after : List Char} (closed : IsClosed before)
      (isBlank : Text.isBlank blank = true) (ends : IsClosed blank ∨ after = []) :
      Edit allowed (before ++ after) (before ++ blank ++ after)
  | ending {before : List Char} (h : allowed before) (after : List Char) :
      Edit allowed (before ++ '\n' :: after) (before ++ '\r' :: '\n' :: after)
  | close {before : List Char} (h : allowed before) : Edit allowed before (before ++ ['\n'])

theorem filledLines_edit {text text' : List Char} (h : Edit EndsClear text text') :
    filledLines text' = filledLines text := by
  cases h with
  | blank closed isBlank ends => exact filledLines_insert closed isBlank ends
  | ending h after => exact (filledLines_clear h after).2.trans (filledLines_clear h after).1.symm
  | close h => exact (filledLines_clear h []).1.trans (List.append_nil _)

theorem toOption_edit {text text' : List Char} (h : Edit (fun _ ↦ True) text text') :
    ((filledLines text').mapM ofSingle).toOption = ((filledLines text).mapM ofSingle).toOption := by
  cases h with
  | blank closed isBlank ends => rw [filledLines_insert closed isBlank ends]
  | @ending before _ after =>
    obtain ⟨first, line, _, _, hFeed, hReturn⟩ := exists_last_line before after
    rw [hFeed, hReturn, toOption_mapM, toOption_mapM]
    simp only [List.mapM_append, ← toOption_mapM, toOption_dropReturn]
  | close =>
    obtain ⟨first, line, _, hOpen, hFeed, _⟩ := exists_last_line text []
    have hNil : filledLines [] = [] := rfl
    rw [hFeed, hOpen, hNil, List.append_nil, toOption_mapM, toOption_mapM]
    simp only [List.mapM_append, ← toOption_mapM, toOption_dropReturn]

theorem encode_line (s : RunSummary) : Text.encode (s.text ++ ['\n']) = s.line := by
  rw [Text.encode_append]
  rfl

theorem endsClear_text (s : RunSummary) : EndsClear s.text := by
  rw [EndsClear, text, Json.objectText_eq, List.getLast?_concat]
  decide

/-- Loading a file is reading its lines one by one. Files can be put together behind a closed line,
and rewriting a file changes nothing, except that the error may be a different one where a carriage
return stands before the line break. -/
theorem loads_line_by_line :
    (∀ (path : String) (disk : Disk) (text : List Char), disk.read path = .ok (Text.encode text) →
      loadAll path disk = ofContent (Text.encode text) ∧
        ofContent (Text.encode text) = (filledLines text).mapM ofSingle) ∧
    (∀ text rest : List Char, IsClosed text →
      ofContent (Text.encode (text ++ rest)) =
        (ofContent (Text.encode text)).bind fun runs ↦
          (ofContent (Text.encode rest)).map (runs ++ ·)) ∧
    (∀ text text' : List Char, Relation.EqvGen (Edit EndsClear) text text' →
      ofContent (Text.encode text') = ofContent (Text.encode text)) ∧
    (∀ text text' : List Char, Relation.EqvGen (Edit fun _ ↦ True) text text' →
      (ofContent (Text.encode text')).toOption = (ofContent (Text.encode text)).toOption) := by
  refine ⟨fun path disk text hRead ↦ ⟨?_, ofContent_encode text⟩,
    fun text rest h ↦ ofContent_closed_append h rest, fun text text' h ↦ ?_, fun text text' h ↦ ?_⟩
  · rw [loadAll, hRead]
  · rw [ofContent_encode, ofContent_encode]
    induction h with
    | rel text text' h => rw [filledLines_edit h]
    | refl text => rfl
    | symm text text' _ ih => exact ih.symm
    | trans text text' text'' _ _ ih ih' => exact ih'.trans ih
  · rw [ofContent_encode, ofContent_encode]
    induction h with
    | rel text text' h => exact toOption_edit h
    | refl text => rfl
    | symm text text' _ ih => exact ih.symm
    | trans text text' text'' _ _ ih ih' => exact ih'.trans ih

/-- A line break that is changed behind a carriage return changes the error: the one line is no word
of JSON, the other one ends too early. -/
theorem return_changes_error :
    Edit (fun _ ↦ True) ['n', 'u', 'l', '\r', '\n'] ['n', 'u', 'l', '\r', '\r', '\n'] ∧
      ofContent (Text.encode ['n', 'u', 'l', '\r', '\r', '\n']) =
        .error (.malformed .expectedIdent) ∧
      ofContent (Text.encode ['n', 'u', 'l', '\r', '\n']) = .error (.malformed .endInValue) ∧
      ofContent (Text.encode ['n', 'u', 'l', '\r', '\r', '\n']) ≠
        ofContent (Text.encode ['n', 'u', 'l', '\r', '\n']) := by
  have hEdit : Edit (fun _ ↦ True) (['n', 'u', 'l', '\r'] ++ '\n' :: [])
      (['n', 'u', 'l', '\r'] ++ '\r' :: '\n' :: []) := .ending trivial []
  have hLong : ofContent (Text.encode ['n', 'u', 'l', '\r', '\r', '\n']) =
      .error (.malformed .expectedIdent) := rfl
  have hShort : ofContent (Text.encode ['n', 'u', 'l', '\r', '\n']) =
      .error (.malformed .endInValue) := rfl
  refine ⟨hEdit, hLong, hShort, ?_⟩
  rw [hLong, hShort]
  simp

theorem loads_line_by_line_unruly :
    loadAll "runs.jsonl" (shelf (Text.encode (unruly.text ++ ['\n']))) =
        (filledLines (unruly.text ++ ['\n'])).mapM ofSingle ∧
      IsClosed (unruly.text ++ ['\n']) ∧
      ofContent (Text.encode (unruly.text ++ ['\n'] ++ unruly.text)) = .ok [unruly, unruly] ∧
      Edit EndsClear (unruly.text ++ ['\n']) (unruly.text ++ ['\r', '\n']) ∧
      ofContent (Text.encode (unruly.text ++ ['\r', '\n'])) = .ok [unruly] ∧
      Edit (fun _ ↦ True) (unruly.text ++ ['\r', '\n']) (unruly.text ++ ['\r', '\r', '\n']) ∧
      (ofContent (Text.encode (unruly.text ++ ['\r', '\r', '\n']))).toOption = some [unruly] := by
  obtain ⟨hLoads, hAppend, hEdit, hOption⟩ := loads_line_by_line
  have hLine : ofContent (Text.encode (unruly.text ++ ['\n'])) = .ok [unruly] := by
    rw [encode_line]
    exact ofContent_line isExact_unruly
  have hClosed : IsClosed (unruly.text ++ ['\n']) := .inr (by simp)
  have hReturn : Edit EndsClear (unruly.text ++ ['\n']) (unruly.text ++ ['\r', '\n']) :=
    .ending (endsClear_text unruly) []
  have hMore : Edit (fun _ ↦ True) (unruly.text ++ ['\r', '\n'])
      (unruly.text ++ ['\r', '\r', '\n']) := by
    have hEdit : Edit (fun _ ↦ True) (unruly.text ++ ['\r'] ++ '\n' :: [])
        (unruly.text ++ ['\r'] ++ '\r' :: '\n' :: []) := .ending trivial []
    simpa using hEdit
  have hSame := (hEdit _ _ (.rel _ _ hReturn)).trans hLine
  refine ⟨?_, hClosed, ?_, hReturn, hSame, hMore, ?_⟩
  · obtain ⟨hContent, hSingle⟩ := hLoads "runs.jsonl" (shelf (Text.encode (unruly.text ++ ['\n'])))
      (unruly.text ++ ['\n']) rfl
    exact hContent.trans hSingle
  · rw [hAppend _ _ hClosed, hLine, ofContent_encode_text isExact_unruly]
    rfl
  · rw [hOption _ _ (.rel _ _ hMore), hSame]
    rfl

end StorefrontLoad.RunSummary
