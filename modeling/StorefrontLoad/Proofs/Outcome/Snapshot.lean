import StorefrontLoad.Proofs.Outcome.Recorders

/-!
# Snapshots of counters in use

An observer copies the words of the counters one by one while others go on recording. What it would
tell if nobody recorded any more is its outlook. Its own loads leave the outlook as it is; a record
of somebody else can only raise the words that are still to be copied. Since a record counts its
category before the attempt, and a snapshot copies the attempts before the categories, no outlook
ever has more attempts than outcomes.
-/

namespace StorefrontLoad.Contention

/-! ## Readings -/

namespace Word

/-- The word of a step that has been told. -/
def told : Word → StepSummary → UInt64
  | category .succeeded, s => s.succeeded
  | category .transportFailure, s => s.failedTransport
  | category .parseFailure, s => s.failedParse
  | category .businessFailure, s => s.failedBusiness
  | category .noUsableData, s => s.noUsableData
  | attempted, s => s.attempted

/-- Which load of a snapshot copies this word. -/
def copiedAt : Word → Nat
  | attempted => 0
  | category .succeeded => 3
  | category .transportFailure => 4
  | category .parseFailure => 5
  | category .businessFailure => 6
  | category .noUsableData => 7

theorem copiedAt_lt (word : Word) : word.copiedAt < 9 := by
  rcases word with (_ | _ | _ | _ | _) | _ <;> decide

theorem told_snapshot (word : Word) (c : StepCounters) : word.told c.snapshot = word.read c := by
  cases word with
  | attempted => rfl
  | category kind => cases kind <;> rfl

theorem told_empty (word : Word) : word.told .empty = 0 := by
  cases word with
  | attempted => rfl
  | category kind => cases kind <;> rfl

/-- Of the loads that are left some still copy the word, unless it has been copied before. -/
theorem read_foldl_drop (word : Word) (n : Nat) (c seen : StepCounters) :
    word.read ((StepCounters.copies.drop n).foldl (fun seen copy ↦ copy c seen) seen) =
      if n ≤ word.copiedAt then word.read c else word.read seen := by
  rcases n with _ | _ | _ | _ | _ | _ | _ | _ | _ | n
  iterate 9 rcases word with (_ | _ | _ | _ | _) | _ <;> rfl
  have hPlace := word.copiedAt_lt
  have hNone : StepCounters.copies.drop (n + 9) = [] := by simp [StepCounters.copies]
  rw [if_neg (by omega), hNone]
  rfl

end Word

/-- The words of a step as numbers. -/
abbrev Reading := Word → Nat

namespace Reading

def ofCounters (c : StepCounters) : Reading := fun word ↦ (word.read c).toNat

def ofSummary (s : StepSummary) : Reading := fun word ↦ (word.told s).toNat

def outcomes (r : Reading) : Nat :=
  r (.category .succeeded) + r (.category .transportFailure) + r (.category .parseFailure) +
    r (.category .businessFailure) + r (.category .noUsableData)

/-- No attempt without an outcome. -/
def IsCovered (r : Reading) : Prop := r .attempted ≤ r.outcomes

end Reading

/-- What the counters say of a step. -/
def readingOf (c : Counters) (name : String) : Reading := .ofCounters (c.stepOrFresh name)

theorem ofSummary_snapshot (c : Counters) (name : String) :
    Reading.ofSummary (c.snapshot.stepOrEmpty name) = readingOf c name := by
  funext word
  rw [Reading.ofSummary, readingOf, Reading.ofCounters, OutcomeSummary.stepOrEmpty,
    Counters.stepOrFresh, Counters.find?_snapshot]
  cases c.steps.find? name with
  | none => exact congrArg UInt64.toNat (word.told_empty.trans word.read_fresh.symm)
  | some step => exact congrArg UInt64.toNat (word.told_snapshot step)

/-! ## Loads -/

namespace Load

/-- The loads that are still to be taken of a step. -/
def pending (name : String) (loads : List Load) :
    List (StepCounters → StepCounters → StepCounters) :=
  (loads.filter (·.step = name)).map Load.copy

theorem stepOrFresh_foldl (c seen : Counters) (loads : List Load) (name : String) :
    (loads.foldl (take c) seen).stepOrFresh name =
      (pending name loads).foldl (fun seen copy ↦ copy (c.stepOrFresh name) seen)
        (seen.stepOrFresh name) := by
  induction loads generalizing seen with
  | nil => rfl
  | cons load loads ih =>
    have hTake : (take c seen load).stepOrFresh name =
        if load.step = name then load.copy (c.stepOrFresh name) (seen.stepOrFresh name)
        else seen.stepOrFresh name := by
      rw [Counters.stepOrFresh, take, Dictionary.find?_update]
      split
      · next hName =>
        subst hName
        rfl
      · rfl
    rw [List.foldl_cons, ih, hTake]
    by_cases hName : load.step = name <;> simp [pending, hName]

/-- A snapshot begins with all loads of every step that is there. -/
theorem pending_all {c : Counters} (h : Dictionary.Sorted c.steps) (name : String) :
    pending name (all c) = if (c.steps.find? name).isSome then StepCounters.copies else [] := by
  have hCons (step : String) (loads : List Load) :
      pending name (StepCounters.copies.map (⟨step, ·⟩) ++ loads) =
        (if step = name then StepCounters.copies else []) ++ pending name loads := by
    by_cases hName : step = name <;> simp [pending, hName, List.filter_map, Function.comp_def]
  unfold all Dictionary.keys
  generalize c.steps = entries at h ⊢
  induction entries with
  | nil => rfl
  | cons entry entries ih =>
    obtain ⟨hHead, hRest⟩ := List.pairwise_cons.1 h
    rw [List.map_cons, List.flatMap_cons, hCons, ih hRest, Dictionary.find?]
    split
    · next hName =>
      have hNone : Dictionary.find? name entries = none :=
        Dictionary.find?_eq_none fun other hMem ↦ hName ▸ hHead other hMem
      rw [hNone]
      rfl
    · rfl

end Load

/-! ## Outlooks -/

namespace Observer

/-- What an observer would tell of a step if nobody recorded any more. -/
def outlook (c : Counters) (name : String) : Observer → Reading
  | arriving | listing _ => readingOf c name
  | copying seen loads => readingOf (loads.foldl (Load.take c) seen) name
  | told outcome => .ofSummary (outcome.stepOrEmpty name)

/-- The loads of each step are taken in their order. -/
def IsOrderly : Observer → Prop
  | arriving | listing _ => True
  | copying seen loads =>
    Dictionary.Sorted seen.steps ∧ ∀ name, Load.pending name loads <:+ StepCounters.copies
  | told outcome => Dictionary.Sorted outcome.steps

theorem IsOrderly.step {c : Counters} (hSorted : Dictionary.Sorted c.steps) {o after : Observer}
    (h : o.IsOrderly) (hStep : o.step c = some after) : after.IsOrderly := by
  cases o with
  | arriving =>
    cases hStep
    trivial
  | listing iterations =>
    cases hStep
    refine ⟨.nil, fun name ↦ ?_⟩
    rw [Load.pending_all hSorted]
    split
    · exact List.suffix_refl _
    · exact List.nil_suffix
  | copying seen loads =>
    obtain ⟨hSeen, hPending⟩ := h
    cases loads with
    | nil =>
      cases hStep
      exact Dictionary.sorted_map hSeen _
    | cons load loads =>
      cases hStep
      refine ⟨Dictionary.sorted_update hSeen _ _ _, fun name ↦ ?_⟩
      have hSuffix : Load.pending name loads <:+ Load.pending name (load :: loads) := by
        by_cases hName : load.step = name <;> simp [Load.pending, hName]
      exact hSuffix.trans (hPending name)
  | told => cases hStep

/-- Looking changes nothing in what there is to tell. -/
theorem outlook_step {c : Counters} (hSorted : Dictionary.Sorted c.steps) {o after : Observer}
    (hStep : o.step c = some after) (name : String) : after.outlook c name = o.outlook c name := by
  cases o with
  | arriving =>
    cases hStep
    rfl
  | listing iterations =>
    cases hStep
    have hWhole : ((Load.all c).foldl (Load.take c) ⟨iterations, []⟩).stepOrFresh name =
        c.stepOrFresh name := by
      rw [Load.stepOrFresh_foldl, Load.pending_all hSorted]
      split
      · exact StepCounters.foldl_copies _ _
      · next hNone =>
        rw [Counters.stepOrFresh, Option.not_isSome_iff_eq_none.1 hNone]
        rfl
    exact congrArg Reading.ofCounters hWhole
  | copying seen loads =>
    cases loads with
    | nil =>
      cases hStep
      exact ofSummary_snapshot seen name
    | cons load loads =>
      cases hStep
      rfl
  | told => cases hStep

/-- Up to a place in the order of the loads the words of an outlook stay as they are, and from there
on they are those of the counters. -/
theorem IsOrderly.outlook_eq {o : Observer} (h : o.IsOrderly) (name : String) :
    ∃ (taken : Nat) (fixed : Reading), ∀ c word, o.outlook c name word =
      if taken ≤ word.copiedAt then readingOf c name word else fixed word := by
  cases o with
  | arriving | listing => exact ⟨0, fun _ ↦ 0, fun c word ↦ (if_pos (Nat.zero_le _)).symm⟩
  | told outcome =>
    refine ⟨9, .ofSummary (outcome.stepOrEmpty name), fun c word ↦ (if_neg ?_).symm⟩
    have hPlace := word.copiedAt_lt
    omega
  | copying seen loads =>
    have hDrop := List.suffix_iff_eq_drop.1 (h.2 name)
    generalize StepCounters.copies.length - (Load.pending name loads).length = taken at hDrop
    refine ⟨taken, .ofCounters (seen.stepOrFresh name), fun c word ↦ ?_⟩
    rw [outlook, readingOf, Load.stepOrFresh_foldl, hDrop, Reading.ofCounters,
      Word.read_foldl_drop]
    split <;> rfl

section Growth

variable {c next : Counters} {o : Observer} {name : String}

theorem IsOrderly.outlook_le (h : o.IsOrderly)
    (hGrows : ∀ word, readingOf c name word ≤ readingOf next name word) (word : Word) :
    o.outlook c name word ≤ o.outlook next name word := by
  obtain ⟨taken, fixed, hOutlook⟩ := h.outlook_eq name
  rw [hOutlook, hOutlook]
  split
  · exact hGrows word
  · exact Nat.le_refl _

theorem IsOrderly.le_reading (h : o.IsOrderly)
    (hGrows : ∀ word, readingOf c name word ≤ readingOf next name word)
    (hLe : ∀ word, o.outlook c name word ≤ readingOf c name word) (word : Word) :
    o.outlook next name word ≤ readingOf next name word := by
  obtain ⟨taken, fixed, hOutlook⟩ := h.outlook_eq name
  have hBefore := hLe word
  rw [hOutlook] at hBefore ⊢
  split
  · exact Nat.le_refl _
  · next hTaken =>
    rw [if_neg hTaken] at hBefore
    exact hBefore.trans (hGrows word)

/-- The attempts are copied before anything else, so the outcomes can only be later. -/
theorem IsOrderly.isCovered (h : o.IsOrderly)
    (hGrows : ∀ word, readingOf c name word ≤ readingOf next name word)
    (hNext : (readingOf next name).IsCovered) (hCovered : (o.outlook c name).IsCovered) :
    (o.outlook next name).IsCovered := by
  obtain ⟨taken, fixed, hOutlook⟩ := h.outlook_eq name
  cases taken with
  | zero =>
    have hAll : o.outlook next name = readingOf next name := by
      funext word
      rw [hOutlook, if_pos (Nat.zero_le _)]
    rwa [hAll]
  | succ taken =>
    have hAttempted : o.outlook next name .attempted = o.outlook c name .attempted := by
      rw [hOutlook, hOutlook]
      rfl
    have hOutcomes : (o.outlook c name).outcomes ≤ (o.outlook next name).outcomes := by
      unfold Reading.outcomes
      gcongr <;> exact h.outlook_le hGrows _
    exact hAttempted.le.trans (hCovered.trans hOutcomes)

end Growth

end Observer

/-! ## Observers among recorders -/

theorem isRecord_of_counts {call : Call} {step : String} {word : Word}
    (h : call.counts step word = true) : call.isRecord = true := by
  cases call with
  | record => rfl
  | touch | countIteration => cases h

theorem sorted_counters {m : Memory} (h : m.IsCoherent) : Dictionary.Sorted m.counters.steps :=
  Dictionary.sorted_map h.sorted (m.cell ·)

/-- The calls make fewer records than a word can count. -/
def AreFew (gs : List Agenda) : Prop := (gs.flatMap Agenda.calls).countP Call.isRecord < 2 ^ 64

theorem AreFew.congr {gs gs' : List Agenda} (h : AreFew gs)
    (hCalls : gs'.map Agenda.calls = gs.map Agenda.calls) : AreFew gs' := by
  rwa [AreFew, List.flatMap_def, hCalls, ← List.flatMap_def]

/-- While a word can count all records, it is the number of those counted so far. -/
theorem Memory.Holds.readingOf_eq {m : Memory} {gs : List Agenda} (h : m.Holds gs)
    (hFew : AreFew gs) (name : String) (word : Word) :
    readingOf m.counters name word = total name word gs := by
  have hTotal : total name word gs < 2 ^ 64 := by
    have hCalls : (gs.flatMap Agenda.calls).countP (Call.counts name word) ≤
        (gs.flatMap Agenda.calls).countP Call.isRecord :=
      List.countP_mono_left fun call _ ↦ isRecord_of_counts
    exact ((total_le gs name word).trans hCalls).trans_lt hFew
  rw [readingOf, Reading.ofCounters, h.words]
  exact Nat.mod_eq_of_lt hTotal

theorem Memory.Holds.isCovered {m : Memory} {gs : List Agenda} (h : m.Holds gs)
    (hFew : AreFew gs) (name : String) : (readingOf m.counters name).IsCovered := by
  have hLe := total_attempted_le gs name
  simpa only [Reading.IsCovered, Reading.outcomes, h.readingOf_eq hFew] using hLe

/-- While a word can count all records, words go up only. -/
theorem State.Tracks.reading_le {s next : State} {gs : List Agenda} (h : s.Tracks gs)
    (hFew : AreFew gs) (hMoves : s.Moves next) (name : String) (word : Word) :
    readingOf s.memory.counters name word ≤ readingOf next.memory.counters name word := by
  obtain ⟨gs', hTracks, hCalls, hGrows⟩ := h.moves hMoves
  rw [h.holds.readingOf_eq hFew, hTracks.holds.readingOf_eq (hFew.congr hCalls)]
  exact hGrows name word

/-- The observers of tracked recorders look in order, and none will tell of more attempts than
outcomes. -/
structure State.IsSound (s : State) (gs : List Agenda) : Prop where
  tracks : s.Tracks gs
  orderly : ∀ o ∈ s.observers, o.IsOrderly
  covered : ∀ o ∈ s.observers, ∀ name, (o.outlook s.memory.counters name).IsCovered

theorem State.IsSound.moves {s next : State} {gs : List Agenda} (h : s.IsSound gs)
    (hFew : AreFew gs) (hMoves : s.Moves next) :
    ∃ gs', next.IsSound gs' ∧ gs'.map Agenda.calls = gs.map Agenda.calls := by
  obtain ⟨gs', hTracks, hCalls, _⟩ := h.tracks.moves hMoves
  have hFew' := hFew.congr hCalls
  have hReading := h.tracks.reading_le hFew hMoves
  have hSorted := sorted_counters h.tracks.holds.coherent
  refine ⟨gs', ⟨hTracks, ?_, ?_⟩, hCalls⟩
  · cases hMoves with
    | record => exact h.orderly
    | @look i o after found step =>
      intro other hMem
      rcases List.mem_or_eq_of_mem_set hMem with hOther | rfl
      · exact h.orderly other hOther
      · exact (h.orderly o (List.mem_of_getElem? found)).step hSorted step
    | arrive =>
      intro o hMem
      rcases List.mem_append.1 hMem with hOld | hNew
      · exact h.orderly o hOld
      · rw [List.mem_singleton.1 hNew]
        trivial
  · cases hMoves with
    | record =>
      intro o hMem name
      exact (h.orderly o hMem).isCovered (hReading name) (hTracks.holds.isCovered hFew' name)
        (h.covered o hMem name)
    | @look i o after found step =>
      intro other hMem name
      rcases List.mem_or_eq_of_mem_set hMem with hOther | rfl
      · exact h.covered other hOther name
      · rw [Observer.outlook_step hSorted step]
        exact h.covered o (List.mem_of_getElem? found) name
    | arrive =>
      intro o hMem name
      rcases List.mem_append.1 hMem with hOld | hNew
      · exact h.covered o hOld name
      · rw [List.mem_singleton.1 hNew]
        exact hTracks.holds.isCovered hFew' name

theorem State.IsSound.applyAll {s next : State} {gs : List Agenda} (h : s.IsSound gs)
    (hFew : AreFew gs) {moves : List Move} (hMoves : s.applyAll moves = some next) :
    ∃ gs', next.IsSound gs' ∧ gs'.map Agenda.calls = gs.map Agenda.calls := by
  induction moves generalizing s gs with
  | nil =>
    cases hMoves
    exact ⟨gs, h, rfl⟩
  | cons move moves ih =>
    obtain ⟨middle, hMove, hRest⟩ := Option.bind_eq_some_iff.1 hMoves
    obtain ⟨gs', hSound, hCalls⟩ := h.moves hFew (State.moves_of_apply hMove)
    obtain ⟨gs'', hLast, hCalls'⟩ := ih hSound (hFew.congr hCalls) hRest
    exact ⟨gs'', hLast, hCalls'.trans hCalls⟩

theorem State.isSound_initial (calls : List (List Call)) :
    (State.initial (calls.map (·.map Call.task))).IsSound (calls.map Agenda.ofCalls) where
  tracks := State.tracks_initial calls
  orderly _ hMem := nomatch hMem
  covered _ hMem := nomatch hMem

/-- A sound observer that tells has attempts covered by outcomes in every step it tells of. -/
theorem State.IsSound.told {s : State} {gs : List Agenda} (h : s.IsSound gs)
    {outcome : OutcomeSummary} (hMem : .told outcome ∈ s.observers) :
    ∀ entry ∈ outcome.steps, entry.2.attempted.toNat ≤ entry.2.succeeded.toNat +
      entry.2.failedTransport.toNat + entry.2.failedParse.toNat + entry.2.failedBusiness.toNat +
      entry.2.noUsableData.toNat := by
  intro entry hEntry
  have hSorted : Dictionary.Sorted outcome.steps := h.orderly _ hMem
  have hStep : outcome.stepOrEmpty entry.1 = entry.2 := by
    rw [OutcomeSummary.stepOrEmpty, Dictionary.find?_of_mem hSorted hEntry]
    rfl
  have hCovered := h.covered _ hMem entry.1
  rw [Observer.outlook, hStep] at hCovered
  exact hCovered

/-- Nothing is lost under contention. However the steps of any number of recorders and observers
interleave, once all recorders are done every step that a call has named is there once, with one
cell of its own, and its words are exactly the numbers of records made; and whatever an observer
tells at any time, no step in it has more attempts than outcomes. -/
theorem State.exact_under_contention (calls : List (List Call)) (moves : List Move) (s : State)
    (hFew : calls.flatten.countP Call.isRecord < 2 ^ 64)
    (hMoves : (State.initial (calls.map (·.map Call.task))).applyAll moves = some s) :
    ((∀ r ∈ s.recorders, r.isIdle = true) →
      (∀ step, step ∈ s.memory.table.keys ↔ ∃ call ∈ calls.flatten, call.step? = some step) ∧
      s.memory.table.keys.Nodup ∧ (s.memory.table.map Prod.snd).Nodup ∧
      s.memory.cells.size = s.memory.table.length ∧
      (∀ step, (s.memory.counters.stepOrFresh step).attempted.toNat =
        calls.flatten.countP (Call.counts step .attempted)) ∧
      (∀ step kind, ((s.memory.counters.stepOrFresh step).category kind).toNat =
        calls.flatten.countP (Call.counts step (.category kind))) ∧
      s.memory.iterations = (calls.flatten.countP Call.isIteration).toUInt64) ∧
    (∀ outcome, .told outcome ∈ s.observers → ∀ entry ∈ outcome.steps,
      entry.2.attempted.toNat ≤ entry.2.succeeded.toNat + entry.2.failedTransport.toNat +
        entry.2.failedParse.toNat + entry.2.failedBusiness.toNat + entry.2.noUsableData.toNat) := by
  have hCalls := flatMap_calls_ofCalls calls
  have hFirst : AreFew (calls.map Agenda.ofCalls) := by rwa [AreFew, hCalls]
  obtain ⟨gs, hSound, hSame⟩ := (State.isSound_initial calls).applyAll hFirst hMoves
  have hAll : AreFew gs := hFirst.congr hSame
  rw [List.flatMap_def, ← hSame, ← List.flatMap_def] at hCalls
  refine ⟨fun hIdle ↦ ?_, fun outcome hMem ↦ hSound.told hMem⟩
  have hHolds := hSound.tracks.holds
  have hWord (step : String) (word : Word) :
      (word.read (s.memory.counters.stepOrFresh step)).toNat =
        calls.flatten.countP (Call.counts step word) := by
    rw [← hCalls, ← hSound.tracks.total_eq hIdle]
    exact hHolds.readingOf_eq hAll step word
  refine ⟨fun step ↦ ?_, hHolds.coherent.nodup.1, hHolds.coherent.nodup.2, hHolds.coherent.full,
    fun step ↦ hWord step .attempted, fun step kind ↦ hWord step (.category kind), ?_⟩
  · rw [← hCalls]
    exact hSound.tracks.mem_keys_iff hIdle step
  · rw [← hCalls, ← hSound.tracks.iterations_eq hIdle]
    exact hHolds.iterations

namespace Twins

/-- Two recorders that are the first to name the same step. -/
def calls : List (List Call) :=
  [[.record "a" .succeeded .zero], [.record "a" .transportFailure .zero]]

/-- Both find no cell before either has made one, and an observer looks in between. -/
def moves : List Move :=
  [.recorder 0, .recorder 1, .recorder 0, .recorder 1, .observe, .observer 0, .observer 0,
    .recorder 0, .observer 0] ++ List.replicate 6 (.recorder 1) ++ List.replicate 9 (.observer 0) ++
    List.replicate 5 (.recorder 0)

/-- What is to be seen of the state in the end. -/
def seen (s : State) : Bool × List (String × UInt64 × UInt64) :=
  (s.recorders.all Recorder.isIdle, s.observers.flatMap fun
    | .told outcome => outcome.steps.map fun (name, step) ↦ (name, step.attempted, step.succeeded)
    | _ => [])

theorem seen_moves :
    ((State.initial (calls.map (·.map Call.task))).applyAll moves).map seen =
      some (true, [("a", 0, 1)]) := by
  decide +kernel

end Twins

theorem State.exact_under_contention_twins : ∃ s,
    (State.initial (Twins.calls.map (·.map Call.task))).applyAll Twins.moves = some s ∧
    s.memory.table.keys.Nodup ∧
    (s.memory.counters.stepOrFresh "a").attempted.toNat = 2 ∧
    (s.memory.counters.stepOrFresh "a").succeeded.toNat = 1 ∧
    (s.memory.counters.stepOrFresh "a").failedTransport.toNat = 1 := by
  obtain ⟨s, hMoves, hSeen⟩ := Option.map_eq_some_iff.1 Twins.seen_moves
  have hIdle : ∀ r ∈ s.recorders, r.isIdle = true :=
    List.all_eq_true.1 (congrArg Prod.fst hSeen)
  have h := State.exact_under_contention Twins.calls Twins.moves s (by decide) hMoves
  obtain ⟨_, hNodup, _, _, hAttempted, hCategory, _⟩ := h.1 hIdle
  exact ⟨s, hMoves, hNodup, hAttempted "a", hCategory "a" .succeeded,
    hCategory "a" .transportFailure⟩

end StorefrontLoad.Contention
