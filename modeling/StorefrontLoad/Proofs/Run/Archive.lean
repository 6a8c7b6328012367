import StorefrontLoad.Run.Archive
import StorefrontLoad.Proofs.Run.Summary
import Mathlib.Data.List.DropRight

/-!
# Appending to what is already stored

A new summary goes to the end of the file. Where the last line of the file has been closed by a line
feed it becomes a line of its own; otherwise it goes on a line that has been begun. A begun line is
loaded as long as it is blank or a summary, but only the blanks that JSON knows may stand before a
summary, so this is where appending can turn a file that loads into one that does not.
-/

namespace StorefrontLoad.RunSummary

/-! ## Lines -/

/-- Puts a byte in front of the first line. -/
def extendFirst (b : UInt8) : List (List UInt8) → List (List UInt8)
  | [] => [[b]]
  | line :: more => (b :: line) :: more

theorem extendFirst_append {b : UInt8} {some more : List (List UInt8)} (h : some ≠ []) :
    extendFirst b (some ++ more) = extendFirst b some ++ more := by
  cases some with
  | nil => exact absurd rfl h
  | cons line lines => rfl

/-- A byte that is no line feed and does not begin one stands in the same line as what follows. -/
theorem lines_cons {b : UInt8} {rest : List UInt8} (hFeed : b ≠ 0x0A)
    (hReturn : b = 0x0D → rest.head? ≠ some 0x0A) :
    lines (b :: rest) = extendFirst b (lines rest) := by
  rw [lines.eq_def]
  split
  · next heq => cases heq
  · next heq => exact absurd (List.cons.inj heq).1 hFeed
  · next heq =>
    obtain ⟨rfl, rfl⟩ := List.cons.inj heq
    exact absurd rfl (hReturn rfl)
  · next first more _ _ heq =>
    obtain ⟨rfl, rfl⟩ := List.cons.inj heq
    cases rest with
    | nil => rfl
    | cons c rest =>
      cases lines (c :: rest) <;> rfl

@[simp] theorem lines_feed (rest : List UInt8) : lines (0x0A :: rest) = [] :: lines rest := by
  simp [lines]

theorem lines_return_feed (rest : List UInt8) :
    lines (0x0D :: 0x0A :: rest) = lines (0x0A :: rest) := by
  simp [lines]

/-- A byte is a line feed, or the first byte of a line break of two, or none of a line break. -/
theorem byte_cases (b : UInt8) (rest : List UInt8) :
    b = 0x0A ∨ (b = 0x0D ∧ ∃ more, rest = 0x0A :: more) ∨
      (b ≠ 0x0A ∧ (b = 0x0D → rest.head? ≠ some 0x0A)) := by
  by_cases hFeed : b = 0x0A
  · exact .inl hFeed
  · by_cases hBreak : b = 0x0D ∧ rest.head? = some 0x0A
    · exact .inr (.inl ⟨hBreak.1, List.head?_eq_some_iff.1 hBreak.2⟩)
    · exact .inr (.inr ⟨hFeed, fun hReturn hHead ↦ hBreak ⟨hReturn, hHead⟩⟩)

theorem lines_ne_nil {content : List UInt8} (h : content ≠ []) : lines content ≠ [] := by
  cases content with
  | nil => exact absurd rfl h
  | cons b rest =>
    rcases byte_cases b rest with rfl | ⟨rfl, more, rfl⟩ | ⟨hFeed, hReturn⟩
    · simp
    · simp [lines_return_feed]
    · rw [lines_cons hFeed hReturn]
      cases lines rest <;> simp [extendFirst]

/-- Behind a line feed the lines start anew. -/
theorem lines_append_feed (content rest : List UInt8) :
    lines (content ++ 0x0A :: rest) = lines (content ++ [0x0A]) ++ lines rest := by
  induction content with
  | nil => simp [lines]
  | cons b content ih =>
    rw [List.cons_append, List.cons_append]
    rcases byte_cases b (content ++ 0x0A :: rest) with rfl | ⟨rfl, more, hMore⟩ | ⟨hFeed, hReturn⟩
    · rw [lines_feed, lines_feed, ih, List.cons_append]
    · cases content with
      | nil => simp [lines]
      | cons c content =>
        obtain ⟨rfl, _⟩ := List.cons.inj hMore
        rw [List.cons_append, List.cons_append, lines_return_feed, lines_return_feed]
        exact ih
    · have hHead : (content ++ [0x0A]).head? = (content ++ 0x0A :: rest).head? := by
        cases content <;> rfl
      rw [lines_cons hFeed hReturn, lines_cons hFeed (by rwa [hHead]), ih,
        extendFirst_append (lines_ne_nil (by simp))]

theorem lines_of_notMem {line : List UInt8} (hFeed : 0x0A ∉ line) (hSome : line ≠ []) :
    lines line = [line] := by
  induction line with
  | nil => exact absurd rfl hSome
  | cons b line ih =>
    obtain ⟨hFirst, hLine⟩ := List.ne_and_not_mem_of_not_mem_cons hFeed
    have hHead : line.head? ≠ some 0x0A := fun hHead ↦ hLine (List.mem_of_head? hHead)
    rw [lines_cons (Ne.symm hFirst) fun _ ↦ hHead]
    cases line with
    | nil => rfl
    | cons c line => rw [ih hLine (by simp)]; rfl

theorem lines_concat_feed {line : List UInt8} (hFeed : 0x0A ∉ line)
    (hReturn : line.getLast? ≠ some 0x0D) : lines (line ++ [0x0A]) = [line] := by
  induction line with
  | nil => simp [lines]
  | cons b line ih =>
    obtain ⟨hFirst, hLine⟩ := List.ne_and_not_mem_of_not_mem_cons hFeed
    cases line with
    | nil =>
      have hNot : b ≠ 0x0D := fun hEq ↦ hReturn (by simp [hEq])
      rw [List.cons_append, lines_cons (Ne.symm hFirst) fun hEq ↦ absurd hEq hNot]
      simp [lines, extendFirst]
    | cons c line =>
      have hNot : c ≠ 0x0A := fun hEq ↦ hLine (hEq ▸ List.mem_cons_self)
      rw [List.cons_append, lines_cons (Ne.symm hFirst) fun _ ↦ by simpa using hNot,
        ih hLine (by simpa [List.getLast?_cons_cons] using hReturn)]
      rfl

/-! ## The line that has been begun -/

/-- The bytes behind the last line feed. -/
def openLine (content : List UInt8) : List UInt8 := content.rtakeWhile (· ≠ 0x0A)

/-- The content up to the last line feed. -/
def closedLines (content : List UInt8) : List UInt8 := content.rdropWhile (· ≠ 0x0A)

theorem closedLines_append_openLine (content : List UInt8) :
    closedLines content ++ openLine content = content := List.rdropWhile_append_rtakeWhile

theorem notMem_openLine (content : List UInt8) : 0x0A ∉ openLine content := fun hMem ↦ by
  simpa using List.mem_rtakeWhile_imp hMem

theorem lines_closedLines_append (content rest : List UInt8) :
    lines (closedLines content ++ rest) = lines (closedLines content) ++ lines rest := by
  by_cases hNil : closedLines content = []
  · simp [hNil, lines]
  · have hLast : (closedLines content).getLast hNil = 0x0A := by
      have hStop := List.rdropWhile_last_not _ _ hNil
      rwa [decide_eq_true_eq, not_not] at hStop
    rw [← List.dropLast_append_getLast hNil, hLast, List.append_assoc]
    exact lines_append_feed _ _

/-! ## Loading line by line -/

def ofLines (lines : List (List UInt8)) : Except FileError (List RunSummary) :=
  (lines.mapM ofLine).map (·.filterMap id)

theorem ofLines_append (first more : List (List UInt8)) :
    ofLines (first ++ more) =
      (ofLines first).bind fun runs ↦ (ofLines more).map (runs ++ ·) := by
  unfold ofLines
  rw [List.mapM_append]
  cases first.mapM ofLine with
  | error e => rfl
  | ok runs =>
    cases more.mapM ofLine with
    | error e => rfl
    | ok moreRuns => simp [Except.map, Except.bind, bind, pure, Except.pure]

theorem ofLines_singleton (line : List UInt8) :
    ofLines [line] = (ofLine line).map Option.toList := by
  unfold ofLines
  rw [List.mapM_cons]
  cases ofLine line with
  | error e => rfl
  | ok run => cases run <;> rfl

theorem ofContent_append (content rest : List UInt8) :
    ofContent (content ++ rest) = (ofLines (lines (closedLines content))).bind fun runs ↦
      (ofLines (lines (openLine content ++ rest))).map (runs ++ ·) := by
  have hContent : content ++ rest = closedLines content ++ (openLine content ++ rest) := by
    rw [← List.append_assoc, closedLines_append_openLine]
  rw [hContent, ofContent, ← ofLines, lines_closedLines_append, ofLines_append]

/-! ## Blanks before a summary -/

/-- Nothing but the blanks of JSON that do not end a line. -/
def IsPadding (bytes : List UInt8) : Prop := ∀ b ∈ bytes, b = 0x20 ∨ b = 0x09 ∨ b = 0x0D

theorem exists_encode_of_isPadding {bytes : List UInt8} (h : IsPadding bytes) :
    ∃ blanks, bytes = Text.encode blanks ∧ ∀ c ∈ blanks, c = ' ' ∨ c = '\t' ∨ c = '\r' := by
  induction bytes with
  | nil => exact ⟨[], rfl, by simp⟩
  | cons b bytes ih =>
    obtain ⟨blanks, hBytes, hBlanks⟩ := ih fun b hMem ↦ h b (List.mem_cons_of_mem _ hMem)
    rcases h b List.mem_cons_self with rfl | rfl | rfl
    · exact ⟨' ' :: blanks, congrArg _ hBytes, List.forall_mem_cons.2 ⟨by simp, hBlanks⟩⟩
    · exact ⟨'\t' :: blanks, congrArg _ hBytes, List.forall_mem_cons.2 ⟨by simp, hBlanks⟩⟩
    · exact ⟨'\r' :: blanks, congrArg _ hBytes, List.forall_mem_cons.2 ⟨by simp, hBlanks⟩⟩

theorem isPadding_encode {blanks : List Char} (h : ∀ c ∈ blanks, Json.isBlank (some c) = true)
    (hFeed : 0x0A ∉ Text.encode blanks) : IsPadding (Text.encode blanks) := by
  intro b hMem
  obtain ⟨c, hBlank, hByte⟩ := List.mem_flatMap.1 hMem
  have hCases : c = ' ' ∨ c = '\t' ∨ c = '\n' ∨ c = '\r' := by
    simpa [Json.isBlank] using h c hBlank
  rcases hCases with rfl | rfl | rfl | rfl
  · exact .inl (List.mem_singleton.1 hByte)
  · exact .inr (.inl (List.mem_singleton.1 hByte))
  · obtain rfl : b = 0x0A := List.mem_singleton.1 hByte
    exact absurd hMem hFeed
  · exact .inr (.inr (List.mem_singleton.1 hByte))

theorem ofText_append_text {s : RunSummary} (h : s.outcome.IsExact) {blanks : List Char}
    (hBlanks : ∀ c ∈ blanks, Json.isBlank (some c) = true) : ofText (blanks ++ s.text) = .ok s := by
  have hSkip (rest : Json.Rest) :
      Json.skipBlanks (Text.symbolsOfText blanks ++ rest) = Json.skipBlanks rest := by
    apply List.dropWhile_append_of_pos
    intro symbol hMem
    obtain ⟨c, hBlank, rfl⟩ := List.mem_map.1 hMem
    exact hBlanks c hBlank
  have hRead := reads_text h 123 (blanks ++ s.text).length [] (by simp) Json.endsNumber_nil
  rw [← Json.Record.decoder_skipBlanks, List.append_nil, ← hSkip, ← Text.symbolsOfText_append,
    Json.Record.decoder_skipBlanks, ← Text.length_symbolsOfText] at hRead
  rw [ofText, ofSymbols, Json.document]
  exact congrArg (· >>= _) hRead

/-- White space that JSON does not know is not passed over. -/
theorem isBlank_of_ofText {blanks more : List Char} {s : RunSummary}
    (hBlanks : Text.isBlank blanks = true) (h : ofText (blanks ++ more) = .ok s) :
    ∀ c ∈ blanks, Json.isBlank (some c) = true := by
  cases hSkip : Json.skipBlanks (Text.symbolsOfText blanks) with
  | nil =>
    intro c hMem
    exact List.dropWhile_eq_nil_iff.1 hSkip _ (List.mem_map_of_mem hMem)
  | cons symbol rest =>
    have hAll := Json.skipBlanks_append (hSkip ▸ List.cons_ne_nil symbol rest)
      (Text.symbolsOfText more)
    rw [hSkip, List.cons_append, ← Text.symbolsOfText_append] at hAll
    have hSuffix : symbol :: rest <:+ Text.symbolsOfText blanks := hSkip ▸ List.dropWhile_suffix _
    obtain ⟨c, hMem, rfl⟩ := List.mem_map.1 (hSuffix.mem List.mem_cons_self)
    have hWhite := List.all_eq_true.1 hBlanks c hMem
    have hList : some c ≠ some '[' := by
      rintro ⟨⟩
      cases hWhite
    have hObject : some c ≠ some '{' := by
      rintro ⟨⟩
      cases hWhite
    obtain ⟨e, hError⟩ := Json.Record.decoder_eq_error record
      (Text.symbolsOfText (blanks ++ more)).length Json.deepest hAll hList hObject
    rw [ofText, ofSymbols, Json.document, hError] at h
    cases h

/-! ## Appending -/

theorem ofLine_encode {text : List Char} (h : Text.isBlank text = false)
    {found : Option RunSummary} :
    ofLine (Text.encode text) = .ok found ↔ ∃ s, ofText text = .ok s ∧ found = some s := by
  rw [ofLine, Text.decode?_encode]
  simp only [h, Bool.false_eq_true, if_false]
  cases ofText text <;> simp [eq_comm]

theorem isBlank_append_text (blanks : List Char) (s : RunSummary) :
    Text.isBlank (blanks ++ s.text) = false := by
  have hText := isBlank_text s
  unfold Text.isBlank at hText ⊢
  rw [List.all_append, hText, Bool.and_false]

/-- A begun line that holds no summary is white space. -/
theorem exists_blanks_of_ofLine {line : List UInt8} (h : ofLine line = .ok none) :
    ∃ blanks, line = Text.encode blanks ∧ Text.isBlank blanks = true := by
  unfold ofLine at h
  split at h
  · cases h
  · next text hText =>
    split at h
    · next hBlank => exact ⟨text, Text.decode?_eq_some_iff.1 hText, hBlank⟩
    · split at h <;> cases h

theorem ofLine_of_isPadding {line : List UInt8} (h : IsPadding line) : ofLine line = .ok none := by
  obtain ⟨blanks, rfl, hBlanks⟩ := exists_encode_of_isPadding h
  have hBlank : Text.isBlank blanks = true := by
    apply List.all_eq_true.2
    intro c hMem
    rcases hBlanks c hMem with rfl | rfl | rfl <;> rfl
  rw [ofLine, Text.decode?_encode]
  simp [hBlank]

/-- A line without a summary takes one exactly if it has only blanks of JSON. -/
theorem ofLine_append_iff {line : List UInt8} (hNone : ofLine line = .ok none)
    (hFeed : 0x0A ∉ line) {s : RunSummary} (h : s.outcome.IsExact) :
    ofLine (line ++ Text.encode s.text) = .ok (some s) ↔ IsPadding line := by
  constructor
  · obtain ⟨blanks, rfl, hBlank⟩ := exists_blanks_of_ofLine hNone
    rw [← Text.encode_append, ofLine_encode (isBlank_append_text blanks s)]
    rintro ⟨found, hFound, hEq⟩
    obtain rfl := Option.some.inj hEq
    exact isPadding_encode (isBlank_of_ofText hBlank hFound) hFeed
  · intro hPadding
    obtain ⟨blanks, rfl, hBlanks⟩ := exists_encode_of_isPadding hPadding
    rw [← Text.encode_append, ofLine_encode (isBlank_append_text blanks s)]
    refine ⟨s, ofText_append_text h fun c hMem ↦ ?_, rfl⟩
    rcases hBlanks c hMem with rfl | rfl | rfl <;> rfl

theorem notMem_encode_text {s : RunSummary} (h : s.outcome.IsExact) : 0x0A ∉ Text.encode s.text :=
  fun hMem ↦ absurd (lt_of_mem_encode_text h hMem) (by decide)

theorem encode_text_ne_nil (s : RunSummary) : Text.encode s.text ≠ [] := by
  obtain ⟨chars, hText⟩ := exists_text s
  simp [hText, String.utf8EncodeChar_ne_nil]

/-- A summary that is appended closes the line it goes on. -/
theorem lines_begun (content : List UInt8) {s : RunSummary} (h : s.outcome.IsExact) :
    lines (openLine content ++ s.line) = [openLine content ++ Text.encode s.text] := by
  rw [line, ← List.append_assoc]
  apply lines_concat_feed
  · intro hMem
    rcases List.mem_append.1 hMem with hOpen | hText
    · exact notMem_openLine content hOpen
    · exact notMem_encode_text h hText
  · rw [List.getLast?_append_of_ne_nil _ (encode_text_ne_nil s)]
    intro hLast
    exact absurd (lt_of_mem_encode_text h (List.mem_of_getLast? hLast)) (by decide)

/-- A begun line is loaded as no summary or as one. -/
theorem ofLines_openLine {content : List UInt8} {later : List RunSummary}
    (h : ofLines (lines (openLine content)) = .ok later) :
    ∃ found, ofLine (openLine content) = .ok found ∧ later = found.toList := by
  by_cases hNil : openLine content = []
  · rw [hNil] at h ⊢
    obtain rfl : [] = later := by simpa [lines, ofLines, Except.map, pure, Except.pure] using h
    exact ⟨none, rfl, rfl⟩
  · rw [lines_of_notMem (notMem_openLine content) hNil, ofLines_singleton] at h
    cases hLine : ofLine (openLine content) with
    | error e =>
      rw [hLine] at h
      cases h
    | ok found =>
      rw [hLine] at h
      exact ⟨found, rfl, (Except.ok.inj h).symm⟩

theorem ofContent_append_iff {content : List UInt8} {runs : List RunSummary} {s : RunSummary}
    (hContent : ofContent content = .ok runs) (h : s.outcome.IsExact) :
    ofContent (content ++ s.line) = .ok (runs ++ [s]) ↔ IsPadding (openLine content) := by
  have hOld := ofContent_append content []
  rw [List.append_nil, List.append_nil, hContent] at hOld
  rw [ofContent_append, lines_begun content h, ofLines_singleton]
  cases hClosed : ofLines (lines (closedLines content)) with
  | error e =>
    rw [hClosed] at hOld
    cases hOld
  | ok earlier =>
    rw [hClosed] at hOld
    cases hOpen : ofLines (lines (openLine content)) with
    | error e =>
      rw [hOpen] at hOld
      cases hOld
    | ok later =>
      rw [hOpen] at hOld
      obtain rfl : runs = earlier ++ later := Except.ok.inj hOld
      obtain ⟨found, hFound, rfl⟩ := ofLines_openLine hOpen
      have hGrown : ((Except.ok earlier : Except FileError _).bind fun runs ↦
          ((ofLine (openLine content ++ Text.encode s.text)).map Option.toList).map (runs ++ ·)) =
            .ok (earlier ++ found.toList ++ [s]) ↔
          ∃ grown, ofLine (openLine content ++ Text.encode s.text) = .ok grown ∧
            grown.toList = found.toList ++ [s] := by
        cases ofLine (openLine content ++ Text.encode s.text) <;> simp [Except.bind, Except.map]
      rw [hGrown]
      -- A begun line that already holds a summary would have to give two of them.
      cases found with
      | none =>
        rw [← ofLine_append_iff hFound (notMem_openLine content) h]
        simp [Option.toList_eq_singleton_iff]
      | some r =>
        constructor
        · rintro ⟨grown, _, hTwo⟩
          cases grown <;> cases hTwo
        · intro hPadding
          rw [ofLine_of_isPadding hPadding] at hFound
          cases hFound

/-! ## Files -/

/-- A file that is not there has no content. -/
def contentAt (path : String) (disk : Disk) : List UInt8 := (disk.files.find? path).getD []

/-- The file at `path` is loaded as `runs`; a file that is not there yet, but can be made, counts as
an empty one. -/
def Loads (path : String) (disk : Disk) (runs : List RunSummary) : Prop :=
  loadAll path disk = .ok runs ∨
    (disk.read path = .error .notFound ∧ disk.isFolder (Disk.parent path) = true ∧ runs = [])

theorem exists_appendTo {path : String} {disk : Disk} {runs : List RunSummary}
    (h : Loads path disk runs) (s : RunSummary) : ofContent (contentAt path disk) = .ok runs ∧
      ∃ after, appendTo path s disk = .ok after ∧
        after.read path = .ok (contentAt path disk ++ s.line) := by
  unfold Loads loadAll Disk.read at h
  unfold contentAt
  cases hFolder : disk.isFolder path with
  | true => simp [hFolder] at h
  | false =>
    have hWrite (hMade : (disk.files.find? path).isSome || disk.isFolder (Disk.parent path)) :
        ∃ after, appendTo path s disk = .ok after ∧
          after.read path = .ok ((disk.files.find? path).getD [] ++ s.line) := by
      have hAppend : appendTo path s disk = .ok { disk with
          files := disk.files.insert path ((disk.files.find? path).getD [] ++ s.line) } := by
        rw [appendTo, Disk.append, Disk.write, hFolder, if_neg (by decide), if_pos hMade]
      exact ⟨_, hAppend, Disk.read_of_write hAppend⟩
    cases hFile : disk.files.find? path with
    | some content =>
      rw [hFile] at hWrite
      have hContent : ofContent content = .ok runs := by simpa [hFolder, hFile] using h
      exact ⟨hContent, hWrite rfl⟩
    | none =>
      rw [hFile] at hWrite
      obtain ⟨hParent, rfl⟩ : disk.isFolder (Disk.parent path) = true ∧ runs = [] := by
        simpa [hFolder, hFile] using h
      exact ⟨rfl, hWrite (by simp [hParent])⟩

/-- Appending to a file that loads adds the summary to what is loaded if and only if the last line
has been closed, or begun with nothing but blanks of JSON. -/
theorem append_extends_iff {path : String} {disk : Disk} {runs : List RunSummary}
    (hLoads : Loads path disk runs) {s : RunSummary} (h : s.outcome.IsExact) :
    ∃ after, appendTo path s disk = .ok after ∧
      (loadAll path after = .ok (runs ++ [s]) ↔ IsPadding (openLine (contentAt path disk))) := by
  obtain ⟨hContent, after, hAppend, hRead⟩ := exists_appendTo hLoads s
  refine ⟨after, hAppend, ?_⟩
  rw [loadAll, hRead]
  exact ofContent_append_iff hContent h

/-- A disk with one file. -/
def shelf (content : List UInt8) : Disk := ⟨["."], [("runs.jsonl", content)]⟩

theorem loads_shelf {content : List UInt8} {runs : List RunSummary}
    (h : ofContent content = .ok runs) : Loads "runs.jsonl" (shelf content) runs := by
  have hRead : (shelf content).read "runs.jsonl" = .ok content := rfl
  exact .inl (by rw [loadAll, hRead]; exact h)

theorem ofContent_line {s : RunSummary} (h : s.outcome.IsExact) : ofContent s.line = .ok [s] := by
  have hNone : ofContent [] = .ok [] := rfl
  exact (ofContent_append_iff hNone h).2 (List.forall_mem_nil _)

theorem append_extends_iff_unruly :
    Loads "runs.jsonl" (shelf unruly.line) [unruly] ∧ unruly.outcome.IsExact ∧
      ∃ after, appendTo "runs.jsonl" unruly (shelf unruly.line) = .ok after ∧
        (loadAll "runs.jsonl" after = .ok ([unruly] ++ [unruly]) ↔
          IsPadding (openLine (contentAt "runs.jsonl" (shelf unruly.line)))) := by
  have hLoads := loads_shelf (ofContent_line isExact_unruly)
  exact ⟨hLoads, isExact_unruly, append_extends_iff hLoads isExact_unruly⟩

theorem ofContent_encode_text {s : RunSummary} (h : s.outcome.IsExact) :
    ofContent (Text.encode s.text) = .ok [s] := by
  have hLine : ofLine (Text.encode s.text) = .ok (some s) :=
    (ofLine_encode (isBlank_text s)).2 ⟨s, ofText_text h, rfl⟩
  rw [ofContent, ← ofLines, lines_of_notMem (notMem_encode_text h) (encode_text_ne_nil s),
    ofLines_singleton, hLine]
  rfl

theorem not_isPadding_encode_text {s : RunSummary} (h : s.outcome.IsExact) :
    ¬ IsPadding (openLine (Text.encode s.text)) := by
  have hAll : openLine (Text.encode s.text) = Text.encode s.text := by
    refine List.rtakeWhile_eq_self_iff.2 fun b hMem ↦ decide_eq_true ?_
    rintro rfl
    exact notMem_encode_text h hMem
  obtain ⟨chars, hText⟩ := exists_text s
  have hBrace : 0x7B ∈ Text.encode s.text := by
    rw [hText, Text.encode_cons]
    exact List.mem_append_left _ List.mem_cons_self
  intro hPadding
  rw [hAll] at hPadding
  exact absurd (hPadding 0x7B hBrace) (by decide)

/-- A stored summary without its line feed is loaded, but not once another one has been appended. -/
theorem begun_unruly : Loads "runs.jsonl" (shelf (Text.encode unruly.text)) [unruly] ∧
    ∃ after, appendTo "runs.jsonl" unruly (shelf (Text.encode unruly.text)) = .ok after ∧
      loadAll "runs.jsonl" after ≠ .ok ([unruly] ++ [unruly]) := by
  have hLoads := loads_shelf (ofContent_encode_text isExact_unruly)
  obtain ⟨hContent, after, hAppend, hRead⟩ := exists_appendTo hLoads unruly
  refine ⟨hLoads, after, hAppend, fun hLoad ↦ ?_⟩
  rw [loadAll, hRead] at hLoad
  exact not_isPadding_encode_text isExact_unruly
    ((ofContent_append_iff hContent isExact_unruly).1 hLoad)

/-! ## Files that are only appended to -/

/-- The file is loaded as `runs`, and its last line has been closed. -/
structure IsShelved (path : String) (disk : Disk) (runs : List RunSummary) : Prop where
  loads : Loads path disk runs
  closed : openLine (contentAt path disk) = []

theorem contentAt_of_read {path : String} {disk : Disk} {content : List UInt8}
    (h : disk.read path = .ok content) : contentAt path disk = content := by
  unfold Disk.read at h
  rw [contentAt]
  split at h
  · cases h
  · split at h
    · next hFile =>
      rw [hFile]
      exact Except.ok.inj h
    · cases h

theorem openLine_line (content : List UInt8) (s : RunSummary) :
    openLine (content ++ s.line) = [] := by
  rw [line, ← List.append_assoc]
  exact List.rtakeWhile_concat_neg _ _ _ (by decide)

theorem IsShelved.appendTo {path : String} {disk : Disk} {runs : List RunSummary}
    (hShelved : IsShelved path disk runs) {s : RunSummary} (h : s.outcome.IsExact) :
    ∃ after, appendTo path s disk = .ok after ∧ IsShelved path after (runs ++ [s]) := by
  obtain ⟨hContent, after, hAppend, hRead⟩ := exists_appendTo hShelved.loads s
  refine ⟨after, hAppend, ⟨.inl ?_, ?_⟩⟩
  · rw [loadAll, hRead]
    exact (ofContent_append_iff hContent h).2 (hShelved.closed ▸ List.forall_mem_nil _)
  · rw [contentAt_of_read hRead, openLine_line]

/-- However many summaries are appended to such a file, it is loaded as all of them in order. -/
theorem IsShelved.appendAll {path : String} {disk : Disk} {runs : List RunSummary}
    (hShelved : IsShelved path disk runs) {more : List RunSummary}
    (h : ∀ s ∈ more, s.outcome.IsExact) :
    ∃ after, more.foldlM (fun disk s ↦ RunSummary.appendTo path s disk) disk = .ok after ∧
      IsShelved path after (runs ++ more) := by
  induction more generalizing disk runs with
  | nil => exact ⟨disk, rfl, by rwa [List.append_nil]⟩
  | cons s more ih =>
    obtain ⟨next, hAppend, hNext⟩ := hShelved.appendTo (h s List.mem_cons_self)
    obtain ⟨after, hAll, hAfter⟩ := ih hNext fun t hMem ↦ h t (List.mem_cons_of_mem _ hMem)
    refine ⟨after, ?_, ?_⟩
    · rw [List.foldlM_cons, hAppend]
      exact hAll
    · rwa [List.append_cons]

/-- A file that is not there yet is where such files begin. -/
theorem isShelved_of_notFound {path : String} {disk : Disk}
    (hFile : disk.read path = .error .notFound)
    (hFolder : disk.isFolder (Disk.parent path) = true) : IsShelved path disk [] := by
  refine ⟨.inr ⟨hFile, hFolder, rfl⟩, ?_⟩
  unfold Disk.read at hFile
  split at hFile
  · cases hFile
  · split at hFile
    · cases hFile
    · next hNone =>
      rw [contentAt, hNone]
      rfl

end StorefrontLoad.RunSummary
