import StorefrontLoad.Outcome.Contention
import StorefrontLoad.Proofs.Outcome.Tally
import StorefrontLoad.Proofs.Run.Iteration

/-!
# Recording under contention

Recorders work on the same memory, one access at a time and in any order. What a recorder has done
so far is kept in an agenda beside it, and whatever the others are in the middle of, the words of
the memory hold exactly what all agendas together have counted. A step has one cell even when
several recorders are the first to name it, since a recorder that finds none looks again once it
may change the table.
-/

namespace StorefrontLoad.Contention

open Run.State (sum_map_set)

/-! ## Calls -/

/-- What a recorder may be asked to do. -/
inductive Call
  | record (step : String) (kind : OutcomeKind) (latency : Duration)
  | touch (step : String)
  | countIteration
  deriving DecidableEq

/-- The words of a step that count records. -/
inductive Word
  | category (kind : OutcomeKind)
  | attempted

namespace Word

def read : Word → StepCounters → UInt64
  | category kind, c => c.category kind
  | attempted, c => c.attempted

/-- Which change of a record counts it in this word. -/
def position : Word → Nat
  | category _ => 0
  | attempted => 1

/-- Whether a record of this kind is counted in the word. -/
def concerns (kind : OutcomeKind) : Word → Bool
  | category k => k = kind
  | attempted => true

theorem read_fresh (word : Word) : word.read .fresh = 0 := by
  cases word with
  | attempted => rfl
  | category kind => cases kind <;> rfl

/-- One change of a record counts it in this word, and the others leave the word alone. -/
theorem read_change {kind : OutcomeKind} {latency : Duration} {made : Nat}
    {change : StepCounters → StepCounters}
    (h : (StepCounters.changes kind latency)[made]? = some change) (word : Word)
    (c : StepCounters) :
    word.read (change c) =
      word.read c + if made = word.position ∧ word.concerns kind then 1 else 0 := by
  cases word with
  | attempted =>
    rcases made with _ | _ | _ | _ | _ | made <;> cases h
    · cases kind <;> simp [read, position, StepCounters.countCategory]
    all_goals simp [read, position, concerns, StepCounters.countAttempt, StepCounters.addLatency,
      StepCounters.lowerMin, StepCounters.raiseMax]
  | category k =>
    rcases made with _ | _ | _ | _ | _ | made <;> cases h
    · cases kind <;> cases k <;>
        simp [read, position, concerns, StepCounters.countCategory, StepCounters.category]
    all_goals cases k <;> simp [read, position, StepCounters.countAttempt, StepCounters.addLatency,
      StepCounters.lowerMin, StepCounters.raiseMax, StepCounters.category]

end Word

namespace Call

def task : Call → Task
  | record step kind latency => .record step kind latency
  | touch step => .touch step
  | countIteration => .countingIteration

/-- The step that a call is about. -/
def step? : Call → Option String
  | record step _ _ | touch step => some step
  | countIteration => none

/-- What a call changes in the cell of its step. -/
def changes : Call → List (StepCounters → StepCounters)
  | record _ kind latency => StepCounters.changes kind latency
  | touch _ | countIteration => []

/-- Whether the call is counted in this word of this step. -/
def counts (step : String) (word : Word) : Call → Bool
  | record name kind _ => name = step ∧ word.concerns kind
  | touch _ | countIteration => false

def isRecord : Call → Bool
  | record _ _ _ => true
  | touch _ | countIteration => false

def isIteration : Call → Bool
  | countIteration => true
  | record _ _ _ | touch _ => false

theorem task_of_step? {call : Call} {step : String} (h : call.step? = some step) :
    call.task = .finding step call.changes := by
  cases call with
  | record | touch =>
    cases h
    rfl
  | countIteration => cases h

/-- A counted call is a record, which makes all the changes that count. -/
theorem position_lt_of_counts {call : Call} {step : String} {word : Word}
    (h : call.counts step word = true) : word.position < call.changes.length := by
  cases call with
  | record name kind latency => cases word <;> simp [Word.position, changes, StepCounters.changes]
  | touch | countIteration => cases h

end Call

/-! ## Memory -/

namespace Memory

/-- Every step in the table has a cell of its own, and every cell belongs to a step. -/
structure IsCoherent (m : Memory) : Prop where
  sorted : Dictionary.Sorted m.table
  apart : ∀ step name cell, m.table.find? step = some cell → m.table.find? name = some cell →
    step = name
  inBounds : ∀ step cell, m.table.find? step = some cell → cell < m.cells.size
  full : m.cells.size = m.table.length

theorem isCoherent_fresh : fresh.IsCoherent where
  sorted := .nil
  apart _ _ _ h := nomatch h
  inBounds _ _ h := nomatch h
  full := rfl

theorem stepOrFresh_counters (m : Memory) (step : String) :
    m.counters.stepOrFresh step = ((m.table.find? step).map (m.cell ·)).getD .fresh :=
  congrArg (·.getD .fresh) (Dictionary.find?_map m.table (m.cell ·) step)

theorem stepOrFresh_of_find? {m : Memory} {step : String} {cell : Nat}
    (h : m.table.find? step = some cell) : m.counters.stepOrFresh step = m.cell cell := by
  rw [stepOrFresh_counters, h]
  rfl

/-- A change in the cell of a step is a change of this step and of no other. -/
theorem IsCoherent.stepOrFresh_change {m : Memory} (h : m.IsCoherent) {step : String} {cell : Nat}
    (hFound : m.table.find? step = some cell) (f : StepCounters → StepCounters) (name : String) :
    (m.change cell f).counters.stepOrFresh name =
      if name = step then f (m.counters.stepOrFresh step) else m.counters.stepOrFresh name := by
  have hBound := h.inBounds step cell hFound
  by_cases hName : name = step
  · subst hName
    rw [if_pos rfl, stepOrFresh_of_find? hFound, stepOrFresh_of_find? (m := m.change cell f) hFound]
    simp [change, Memory.cell, Array.getD_eq_getD_getElem?, Array.getElem_modify, hBound]
  · rw [if_neg hName, stepOrFresh_counters, stepOrFresh_counters]
    change ((m.table.find? name).map ((m.change cell f).cell ·)).getD .fresh = _
    cases hOther : m.table.find? name with
    | none => rfl
    | some other =>
      have hApart : cell ≠ other := fun hEq ↦ hName (h.apart name step other hOther (hEq ▸ hFound))
      simp [change, Memory.cell, Array.getD_eq_getD_getElem?, Array.getElem?_modify, hApart]

theorem IsCoherent.change {m : Memory} (h : m.IsCoherent) (cell : Nat)
    (f : StepCounters → StepCounters) : (m.change cell f).IsCoherent where
  sorted := h.sorted
  apart := h.apart
  inBounds step other hFound := by simpa [Memory.change] using h.inBounds step other hFound
  full := by simpa [Memory.change] using h.full

/-- The memory with a cell for a step that had none. -/
def withCell (step : String) (m : Memory) : Memory :=
  { m with table := m.table.insert step m.cells.size, cells := m.cells.push .fresh }

theorem find?_withCell (step name : String) (m : Memory) :
    (m.withCell step).table.find? name =
      if step = name then some m.cells.size else m.table.find? name :=
  Dictionary.find?_insert step name _ _

theorem IsCoherent.withCell {m : Memory} (h : m.IsCoherent) {step : String}
    (hNone : m.table.find? step = none) : (m.withCell step).IsCoherent where
  sorted := Dictionary.sorted_insert h.sorted _ _
  apart first second cell hFirst hSecond := by
    rw [find?_withCell] at hFirst hSecond
    split at hFirst <;> split at hSecond
    · next hEq hEq' => exact hEq.symm.trans hEq'
    · have hBound := h.inBounds second cell hSecond
      obtain rfl := Option.some.inj hFirst
      omega
    · have hBound := h.inBounds first cell hFirst
      obtain rfl := Option.some.inj hSecond
      omega
    · exact h.apart first second cell hFirst hSecond
  inBounds name cell hFound := by
    rw [find?_withCell] at hFound
    have hSize : (m.withCell step).cells.size = m.cells.size + 1 := Array.size_push _
    split at hFound
    · obtain rfl := Option.some.inj hFound
      omega
    · have hBound := h.inBounds name cell hFound
      omega
  full := by
    have hSize : (m.withCell step).cells.size = m.cells.size + 1 := Array.size_push _
    rw [hSize, h.full]
    exact (Dictionary.length_insert hNone _).symm

/-- A new cell counts nothing yet. -/
theorem IsCoherent.stepOrFresh_withCell {m : Memory} (h : m.IsCoherent) {step : String}
    (hNone : m.table.find? step = none) (name : String) :
    (m.withCell step).counters.stepOrFresh name = m.counters.stepOrFresh name := by
  rw [stepOrFresh_counters, stepOrFresh_counters, find?_withCell]
  split
  · next hName =>
    subst hName
    rw [hNone]
    simp [Memory.withCell, Memory.cell, Array.getD_eq_getD_getElem?]
  · cases hFound : m.table.find? name with
    | none => rfl
    | some cell =>
      have hBound := h.inBounds name cell hFound
      simp [Memory.withCell, Memory.cell, Array.getD_eq_getD_getElem?, Array.getElem?_push,
        hBound.ne]

end Memory

/-! ## Agendas -/

/-- How far a recorder is with the call it makes. -/
inductive Hand
  | empty
  /-- It has no cell yet. -/
  | seeking (call : Call)
  /-- It has its cell and has made this many of its changes. -/
  | filling (call : Call) (made : Nat)

namespace Hand

def calls : Hand → List Call
  | empty => []
  | seeking call | filling call _ => [call]

/-- One if the call is counted in this word already. -/
def count (step : String) (word : Word) : Hand → Nat
  | filling call made => if call.counts step word ∧ word.position < made then 1 else 0
  | empty | seeking _ => 0

/-- What is left of the call is what the recorder is about to do. -/
inductive Fits (table : Dictionary Nat) : Hand → Task → Prop
  | empty : Fits table .empty .returned
  | iteration : Fits table (.seeking .countIteration) .countingIteration
  | finding {call : Call} {step : String} (named : call.step? = some step) :
      Fits table (.seeking call) (.finding step call.changes)
  | creating {call : Call} {step : String} (named : call.step? = some step) :
      Fits table (.seeking call) (.creating step call.changes)
  | changing {call : Call} {made : Nat} {step : String} {cell : Nat}
      (named : call.step? = some step) (found : table.find? step = some cell) :
      Fits table (.filling call made) (.changing cell (call.changes.drop made))

theorem fits_task (table : Dictionary Nat) (call : Call) :
    Fits table (.seeking call) call.task := by
  cases hStep : call.step? with
  | some step =>
    rw [Call.task_of_step? hStep]
    exact .finding hStep
  | none =>
    cases call with
    | record | touch => cases hStep
    | countIteration => exact .iteration

theorem Fits.found {table : Dictionary Nat} {call : Call} {step : String} {cell : Nat}
    (named : call.step? = some step) (found : table.find? step = some cell) :
    Fits table (.filling call 0) (.changing cell call.changes) :=
  .changing named found

/-- A cell that has been found stays where it is. -/
theorem Fits.mono {table after : Dictionary Nat} {hand : Hand} {task : Task}
    (h : Fits table hand task)
    (hTable : ∀ step cell, table.find? step = some cell → after.find? step = some cell) :
    Fits after hand task := by
  cases h with
  | empty => exact .empty
  | iteration => exact .iteration
  | finding named => exact .finding named
  | creating named => exact .creating named
  | changing named found => exact .changing named (hTable _ _ found)

end Hand

/-- The calls of a recorder: those it has made, the one it is at and those to come. -/
structure Agenda where
  done : List Call
  hand : Hand
  later : List Call

namespace Agenda

def ofCalls : List Call → Agenda
  | [] => ⟨[], .empty, []⟩
  | call :: calls => ⟨[], .seeking call, calls⟩

def calls (g : Agenda) : List Call := g.done ++ g.hand.calls ++ g.later

/-- How often this word of this step has been counted up. -/
def count (step : String) (word : Word) (g : Agenda) : Nat :=
  g.done.countP (Call.counts step word) + g.hand.count step word

def iterations (g : Agenda) : Nat := g.done.countP Call.isIteration

structure Fits (table : Dictionary Nat) (g : Agenda) (r : Recorder) : Prop where
  current : g.hand.Fits table r.current
  later : r.later = g.later.map Call.task

theorem calls_ofCalls (calls : List Call) : (ofCalls calls).calls = calls := by
  cases calls <;> rfl

theorem fits_ofCalls (table : Dictionary Nat) (calls : List Call) :
    (ofCalls calls).Fits table (.ofCalls (calls.map Call.task)) := by
  cases calls with
  | nil => exact ⟨.empty, rfl⟩
  | cons call calls => exact ⟨Hand.fits_task table call, rfl⟩

/-- All that a recorder can do in one step, to the memory and in its own agenda. -/
inductive Steps (m : Memory) : Agenda → Memory → Agenda → Prop
  | take {done later : List Call} {call : Call} :
      Steps m ⟨done, .empty, call :: later⟩ m ⟨done, .seeking call, later⟩
  /-- It has looked for a cell in vain. -/
  | miss {g : Agenda} : Steps m g m g
  | find {done later : List Call} {call : Call} {step : String} {cell : Nat}
      (named : call.step? = some step) (found : m.table.find? step = some cell) :
      Steps m ⟨done, .seeking call, later⟩ m ⟨done, .filling call 0, later⟩
  | create {done later : List Call} {call : Call} {step : String}
      (named : call.step? = some step) (missing : m.table.find? step = none) :
      Steps m ⟨done, .seeking call, later⟩ (m.withCell step) ⟨done, .filling call 0, later⟩
  | change {done later : List Call} {call : Call} {made : Nat} {step : String} {cell : Nat}
      {f : StepCounters → StepCounters} (named : call.step? = some step)
      (found : m.table.find? step = some cell) (next : call.changes[made]? = some f) :
      Steps m ⟨done, .filling call made, later⟩ (m.change cell f)
        ⟨done, .filling call (made + 1), later⟩
  | finish {done later : List Call} {call : Call} {made : Nat} {step : String} {cell : Nat}
      (named : call.step? = some step) (found : m.table.find? step = some cell)
      (complete : call.changes.length ≤ made) :
      Steps m ⟨done, .filling call made, later⟩ m ⟨done ++ [call], .empty, later⟩
  | iterate {done later : List Call} :
      Steps m ⟨done, .seeking .countIteration, later⟩ m.recordIteration
        ⟨done ++ [.countIteration], .empty, later⟩

theorem steps_of_step {g : Agenda} {r after : Recorder} {m next : Memory} {isTableHeld : Bool}
    (hFits : g.Fits m.table r) (h : r.step isTableHeld m = some (after, next)) :
    ∃ g', Steps m g next g' ∧ g'.Fits next.table after := by
  obtain ⟨done, hand, later⟩ := g
  obtain ⟨current, rest⟩ := r
  obtain ⟨hCurrent, hLater⟩ := hFits
  dsimp only at hCurrent hLater
  subst hLater
  cases hCurrent with
  | empty =>
    cases later with
    | nil => cases h
    | cons call later =>
      cases h
      exact ⟨_, .take, Hand.fits_task _ call, rfl⟩
  | iteration =>
    cases h
    exact ⟨_, .iterate, .empty, rfl⟩
  | @finding call step named =>
    simp only [Recorder.step, Task.step] at h
    cases hFound : m.table.find? step with
    | none =>
      rw [hFound] at h
      cases h
      exact ⟨_, .miss, .creating named, rfl⟩
    | some cell =>
      rw [hFound] at h
      cases h
      exact ⟨_, .find named hFound, .found named hFound, rfl⟩
  | @creating call step named =>
    simp only [Recorder.step, Task.step, Memory.findOrCreate] at h
    cases isTableHeld with
    | true => cases h
    | false =>
      cases hFound : m.table.find? step with
      | none =>
        rw [hFound] at h
        cases h
        have hCell : (m.withCell step).table.find? step = some m.cells.size := by
          rw [Memory.find?_withCell, if_pos rfl]
        exact ⟨_, .create named hFound, .found named hCell, rfl⟩
      | some cell =>
        rw [hFound] at h
        cases h
        exact ⟨_, .find named hFound, .found named hFound, rfl⟩
  | @changing call made step cell named found =>
    cases hDrop : call.changes.drop made with
    | nil =>
      rw [hDrop] at h
      cases h
      exact ⟨_, .finish named found (List.drop_eq_nil_iff.1 hDrop), .empty, rfl⟩
    | cons f more =>
      rw [hDrop] at h
      cases h
      obtain ⟨hNext, hMore⟩ :
          call.changes[made]? = some f ∧ call.changes.drop (made + 1) = more := by
        rw [← List.head?_drop, ← List.tail_drop, hDrop]
        exact ⟨rfl, rfl⟩
      subst hMore
      exact ⟨_, .change named found hNext, .changing named found, rfl⟩

namespace Steps

variable {m next : Memory} {g after : Agenda}

theorem calls_eq (h : Steps m g next after) : after.calls = g.calls := by
  cases h <;> simp [calls, Hand.calls]

theorem isCoherent (h : Steps m g next after) (hCoherent : m.IsCoherent) : next.IsCoherent := by
  cases h with
  | take | miss | find | finish => exact hCoherent
  | iterate => exact ⟨hCoherent.sorted, hCoherent.apart, hCoherent.inBounds, hCoherent.full⟩
  | create _ missing => exact hCoherent.withCell missing
  | change => exact hCoherent.change _ _

theorem find?_mono (h : Steps m g next after) {step : String} {cell : Nat}
    (hFound : m.table.find? step = some cell) : next.table.find? step = some cell := by
  cases h with
  | take | miss | find | finish | iterate | change => exact hFound
  | @create _ _ _ name _ missing =>
    have hName : name ≠ step := by
      rintro rfl
      rw [missing] at hFound
      cases hFound
    rw [Memory.find?_withCell, if_neg hName, hFound]

/-- Whatever is counted up in the memory is counted in the agenda. -/
theorem words (h : Steps m g next after) (hCoherent : m.IsCoherent) (step : String)
    (word : Word) : ∃ n : Nat, after.count step word = g.count step word + n ∧
      word.read (next.counters.stepOrFresh step) =
        word.read (m.counters.stepOrFresh step) + n.toUInt64 := by
  cases h with
  | take | miss => exact ⟨0, by simp [count, Hand.count]⟩
  | find => exact ⟨0, by simp [count, Hand.count]⟩
  | iterate => exact ⟨0, by simp [count, Hand.count, Call.counts], by simp; rfl⟩
  | create named missing =>
    refine ⟨0, by simp [count, Hand.count], ?_⟩
    rw [hCoherent.stepOrFresh_withCell missing]
    simp
  | @finish done later call made name cell named found complete =>
    refine ⟨0, ?_, by simp⟩
    -- A call that is complete has been counted in the words, and moves on to those that are done.
    have hCounted : call.counts step word = true → word.position < made := fun hCounts ↦
      Nat.lt_of_lt_of_le (Call.position_lt_of_counts hCounts) complete
    cases hCounts : call.counts step word with
    | false => simp [count, Hand.count, hCounts]
    | true => simp [count, Hand.count, hCounts, hCounted hCounts]
  | @change done later call made name cell f named found next =>
    cases call with
    | touch | countIteration => cases next
    | record name kind latency =>
      cases named
      refine ⟨if name = step ∧ made = word.position ∧ word.concerns kind then 1 else 0, ?_, ?_⟩
      · have hMade : word.position < made + 1 ↔ word.position < made ∨ made = word.position := by
          omega
        simp only [count, Hand.count, Call.counts, hMade]
        by_cases hEq : made = word.position
        · simp [hEq]
        · simp [hEq]
      · rw [hCoherent.stepOrFresh_change found]
        by_cases hStep : step = name
        · subst hStep
          rw [if_pos rfl, Word.read_change next]
          by_cases hCount : made = word.position ∧ word.concerns kind = true
          · simp [hCount]
          · simp [hCount]
        · have hOther : name ≠ step := Ne.symm hStep
          simp [hStep, hOther]

/-- Iterations are counted one by one. -/
theorem iterations (h : Steps m g next after) : ∃ n : Nat,
    after.iterations = g.iterations + n ∧ next.iterations = m.iterations + n.toUInt64 := by
  cases h with
  | take | miss | find | create | change =>
    exact ⟨0, by simp [Agenda.iterations, Memory.withCell, Memory.change]⟩
  | iterate => exact ⟨1, by simp [Agenda.iterations, Call.isIteration, Memory.recordIteration]⟩
  | @finish _ _ call _ _ _ named =>
    cases call with
    | record | touch => exact ⟨0, by simp [Agenda.iterations, Call.isIteration]⟩
    | countIteration => cases named

/-- A call is done once its step is there. -/
theorem named (h : Steps m g next after) {call : Call} (hMem : call ∈ after.done) {step : String}
    (hStep : call.step? = some step) :
    call ∈ g.done ∨ ∃ cell, m.table.find? step = some cell := by
  cases h with
  | take | miss | find | create | change => exact .inl hMem
  | iterate =>
    rcases List.mem_append.1 hMem with hDone | hLast
    · exact .inl hDone
    · rw [List.mem_singleton.1 hLast] at hStep
      cases hStep
  | finish named found =>
    rcases List.mem_append.1 hMem with hDone | hLast
    · exact .inl hDone
    · rw [List.mem_singleton.1 hLast, named] at hStep
      exact .inr ⟨_, Option.some.inj hStep ▸ found⟩

/-- A step gets its cell from a call that names it. -/
theorem known (h : Steps m g next after) {step : String} {cell : Nat}
    (hFound : next.table.find? step = some cell) :
    m.table.find? step = some cell ∨ ∃ call ∈ g.calls, call.step? = some step := by
  cases h with
  | take | miss | find | finish | iterate | change => exact .inl hFound
  | @create _ _ call name named =>
    rw [Memory.find?_withCell] at hFound
    split at hFound
    · next hName =>
      subst hName
      exact .inr ⟨call, by simp [calls, Hand.calls], named⟩
    · exact .inl hFound

end Steps

end Agenda

/-! ## What the memory holds -/

/-- How often all recorders together have counted up a word of a step. -/
def total (step : String) (word : Word) (gs : List Agenda) : Nat :=
  (gs.map (Agenda.count step word)).sum

/-- The memory holds what the recorders have counted, no more and no less. -/
structure Memory.Holds (m : Memory) (gs : List Agenda) : Prop where
  coherent : m.IsCoherent
  words : ∀ step word, word.read (m.counters.stepOrFresh step) = (total step word gs).toUInt64
  iterations : m.iterations = (gs.map Agenda.iterations).sum.toUInt64
  named : ∀ g ∈ gs, ∀ call ∈ g.done, ∀ step, call.step? = some step →
    ∃ cell, m.table.find? step = some cell
  known : ∀ step cell, m.table.find? step = some cell →
    ∃ call ∈ gs.flatMap Agenda.calls, call.step? = some step

section Steps

variable {m next : Memory} {g after : Agenda} {gs : List Agenda} {i : Nat}

/-- No call is lost and none is made up. -/
theorem Agenda.Steps.map_calls (h : g.Steps m next after) (hAt : gs[i]? = some g) :
    (gs.set i after).map Agenda.calls = gs.map Agenda.calls := by
  apply List.ext_getElem?
  intro j
  rw [List.map_set, List.getElem?_set, h.calls_eq]
  split
  · next hEq =>
    subst hEq
    obtain ⟨hLength, rfl⟩ := List.getElem?_eq_some_iff.1 hAt
    simp [hLength]
  · rfl

theorem Agenda.Steps.total_le (h : g.Steps m next after) (hCoherent : m.IsCoherent)
    (hAt : gs[i]? = some g) (step : String) (word : Word) :
    ∃ n : Nat, total step word (gs.set i after) = total step word gs + n ∧
      word.read (next.counters.stepOrFresh step) =
        word.read (m.counters.stepOrFresh step) + n.toUInt64 := by
  obtain ⟨n, hCount, hRead⟩ := h.words hCoherent step word
  have hSum := sum_map_set (Agenda.count step word) hAt after
  refine ⟨n, ?_, hRead⟩
  simp only [total]
  omega

theorem Agenda.Steps.holds (h : g.Steps m next after) (hHolds : m.Holds gs)
    (hAt : gs[i]? = some g) : next.Holds (gs.set i after) where
  coherent := h.isCoherent hHolds.coherent
  words step word := by
    obtain ⟨n, hTotal, hRead⟩ := h.total_le hHolds.coherent hAt step word
    rw [hRead, hHolds.words, hTotal]
    exact (UInt64.ofNat_add _ _).symm
  iterations := by
    obtain ⟨n, hCount, hRead⟩ := h.iterations
    have hSum := sum_map_set Agenda.iterations hAt after
    have hTotal : ((gs.set i after).map Agenda.iterations).sum =
        (gs.map Agenda.iterations).sum + n := by omega
    rw [hRead, hHolds.iterations, hTotal]
    exact (UInt64.ofNat_add _ _).symm
  named other hMem call hDone step hStep := by
    have hFound : ∃ cell, m.table.find? step = some cell := by
      rcases List.mem_or_eq_of_mem_set hMem with hOther | rfl
      · exact hHolds.named other hOther call hDone step hStep
      · rcases h.named hDone hStep with hOld | hFound
        · exact hHolds.named g (List.mem_of_getElem? hAt) call hOld step hStep
        · exact hFound
    obtain ⟨cell, hFound⟩ := hFound
    exact ⟨cell, h.find?_mono hFound⟩
  known step cell hFound := by
    rw [List.flatMap_def, h.map_calls hAt, ← List.flatMap_def]
    rcases h.known hFound with hOld | ⟨call, hMem, hStep⟩
    · exact hHolds.known step cell hOld
    · exact ⟨call, List.mem_flatMap.2 ⟨g, List.mem_of_getElem? hAt, hMem⟩, hStep⟩

end Steps

/-! ## Interleavings -/

/-- All that a move can do. -/
inductive State.Moves (s : State) : State → Prop
  | record {i : Nat} {r after : Recorder} {m : Memory} (found : s.recorders[i]? = some r)
      (step : r.step s.isTableHeld s.memory = some (after, m)) :
      Moves s { s with memory := m, recorders := s.recorders.set i after }
  | look {i : Nat} {o after : Observer} (found : s.observers[i]? = some o)
      (step : o.step s.memory.counters = some after) :
      Moves s { s with observers := s.observers.set i after }
  | arrive : Moves s { s with observers := s.observers ++ [.arriving] }

theorem State.moves_of_apply {s next : State} {move : Move} (h : s.apply move = some next) :
    s.Moves next := by
  cases move with
  | observe =>
    cases h
    exact .arrive
  | recorder i =>
    unfold State.apply at h
    dsimp only at h
    split at h
    · cases h
    · next r hFound =>
      obtain ⟨⟨after, m⟩, hStep, rfl⟩ := Option.map_eq_some_iff.1 h
      exact .record hFound hStep
  | observer i =>
    unfold State.apply at h
    dsimp only at h
    split at h
    · cases h
    · next o hFound =>
      obtain ⟨after, hStep, rfl⟩ := Option.map_eq_some_iff.1 h
      exact .look hFound hStep

/-- The agendas, one beside each recorder, say where the recorders are. -/
structure State.Tracks (s : State) (gs : List Agenda) : Prop where
  holds : s.memory.Holds gs
  length : gs.length = s.recorders.length
  fits : ∀ (i : Nat) (g : Agenda) (r : Recorder), gs[i]? = some g → s.recorders[i]? = some r →
    g.Fits s.memory.table r

/-- Whatever is done, the memory goes on holding what is counted, and counts go up only. -/
theorem State.Tracks.moves {s next : State} {gs : List Agenda} (h : s.Tracks gs)
    (hMoves : s.Moves next) :
    ∃ gs', next.Tracks gs' ∧ gs'.map Agenda.calls = gs.map Agenda.calls ∧
      ∀ step word, total step word gs ≤ total step word gs' := by
  cases hMoves with
  | look | arrive => exact ⟨gs, ⟨h.holds, h.length, h.fits⟩, rfl, fun _ _ ↦ Nat.le_refl _⟩
  | @record i r after m found step =>
    obtain ⟨g, hAt⟩ : ∃ g, gs[i]? = some g := by
      have hBound : i < s.recorders.length := (List.getElem?_eq_some_iff.1 found).1
      rw [← h.length] at hBound
      exact ⟨gs[i], List.getElem?_eq_getElem hBound⟩
    obtain ⟨g', hSteps, hFits⟩ := Agenda.steps_of_step (h.fits i g r hAt found) step
    refine ⟨gs.set i g', ⟨hSteps.holds h.holds hAt, ?_, ?_⟩, hSteps.map_calls hAt,
      fun name word ↦ ?_⟩
    · rw [List.length_set, List.length_set, h.length]
    · intro j other r' hOther hThere
      rw [List.getElem?_set] at hOther hThere
      by_cases hEq : i = j
      · subst hEq
        rw [if_pos rfl, if_pos (List.getElem?_eq_some_iff.1 hAt).1] at hOther
        rw [if_pos rfl, if_pos (List.getElem?_eq_some_iff.1 found).1] at hThere
        cases hOther
        cases hThere
        exact hFits
      · rw [if_neg hEq] at hOther hThere
        have hFits := h.fits j other r' hOther hThere
        exact ⟨hFits.current.mono fun _ _ ↦ hSteps.find?_mono, hFits.later⟩
    · obtain ⟨n, hTotal, _⟩ := hSteps.total_le h.holds.coherent hAt name word
      omega

@[simp] theorem Agenda.count_ofCalls (calls : List Call) (step : String) (word : Word) :
    (ofCalls calls).count step word = 0 := by
  cases calls <;> rfl

@[simp] theorem Agenda.iterations_ofCalls (calls : List Call) : (ofCalls calls).iterations = 0 := by
  cases calls <;> rfl

@[simp] theorem Agenda.done_ofCalls (calls : List Call) : (ofCalls calls).done = [] := by
  cases calls <;> rfl

/-- At first nothing is counted. -/
theorem State.tracks_initial (calls : List (List Call)) :
    (State.initial (calls.map (·.map Call.task))).Tracks (calls.map Agenda.ofCalls) where
  holds := {
    coherent := Memory.isCoherent_fresh
    words := by
      intro step word
      have hTotal : total step word (calls.map Agenda.ofCalls) = 0 := by
        simp [total, Function.comp_def]
      rw [hTotal]
      exact word.read_fresh
    iterations := by
      have hTotal : ((calls.map Agenda.ofCalls).map Agenda.iterations).sum = 0 := by
        simp [Function.comp_def]
      rw [hTotal]
      rfl
    named := by
      intro g hMem call hDone
      obtain ⟨list, _, rfl⟩ := List.mem_map.1 hMem
      rw [Agenda.done_ofCalls] at hDone
      cases hDone
    known := fun _ _ hFound ↦ nomatch hFound }
  length := by simp [State.initial]
  fits i g r hAt hThere := by
    rw [List.getElem?_map, Option.map_eq_some_iff] at hAt
    obtain ⟨list, hList, rfl⟩ := hAt
    have hRecorder : r = .ofCalls (list.map Call.task) := by
      simpa [State.initial, hList, eq_comm] using hThere
    exact hRecorder ▸ Agenda.fits_ofCalls _ list

/-! ## Totals -/

theorem Hand.count_le (hand : Hand) (step : String) (word : Word) :
    hand.count step word ≤ hand.calls.countP (Call.counts step word) := by
  cases hand with
  | empty | seeking => exact Nat.zero_le _
  | filling call made =>
    simp only [Hand.count, Hand.calls, List.countP_singleton]
    split <;> simp_all

theorem Agenda.count_le (g : Agenda) (step : String) (word : Word) :
    g.count step word ≤ g.calls.countP (Call.counts step word) := by
  have hHand := g.hand.count_le step word
  rw [calls, List.countP_append, List.countP_append, count]
  omega

theorem total_le (gs : List Agenda) (step : String) (word : Word) :
    total step word gs ≤ (gs.flatMap Agenda.calls).countP (Call.counts step word) := by
  rw [total, List.countP_flatMap]
  exact List.sum_le_sum fun g _ ↦ g.count_le step word

/-- A recorder without anything left to do has all its calls behind it. -/
theorem Agenda.Fits.of_isIdle {table : Dictionary Nat} {g : Agenda} {r : Recorder}
    (h : g.Fits table r) (hIdle : r.isIdle = true) : g = ⟨g.calls, .empty, []⟩ := by
  obtain ⟨done, hand, later⟩ := g
  obtain ⟨current, rest⟩ := r
  obtain ⟨hCurrent, hLater⟩ := h
  dsimp only at hCurrent hLater
  subst hLater
  cases hCurrent with
  | empty =>
    cases later with
    | nil => simp [calls, Hand.calls]
    | cons => cases hIdle
  | iteration | finding | creating | changing => cases hIdle

theorem State.Tracks.idle {s : State} {gs : List Agenda} (h : s.Tracks gs)
    (hIdle : ∀ r ∈ s.recorders, r.isIdle = true) : ∀ g ∈ gs, g = ⟨g.calls, .empty, []⟩ := by
  intro g hMem
  obtain ⟨i, hAt⟩ := List.mem_iff_getElem?.1 hMem
  have hBound : i < s.recorders.length := h.length ▸ (List.getElem?_eq_some_iff.1 hAt).1
  have hThere := List.getElem?_eq_getElem hBound
  exact (h.fits i g _ hAt hThere).of_isIdle (hIdle _ (List.getElem_mem hBound))

theorem State.Tracks.total_eq {s : State} {gs : List Agenda} (h : s.Tracks gs)
    (hIdle : ∀ r ∈ s.recorders, r.isIdle = true) (step : String) (word : Word) :
    total step word gs = (gs.flatMap Agenda.calls).countP (Call.counts step word) := by
  rw [total, List.countP_flatMap]
  refine congrArg List.sum (List.map_congr_left fun g hMem ↦ ?_)
  rw [h.idle hIdle g hMem]
  simp [Agenda.count, Hand.count, Agenda.calls, Hand.calls]

theorem State.Tracks.iterations_eq {s : State} {gs : List Agenda} (h : s.Tracks gs)
    (hIdle : ∀ r ∈ s.recorders, r.isIdle = true) :
    (gs.map Agenda.iterations).sum = (gs.flatMap Agenda.calls).countP Call.isIteration := by
  rw [List.countP_flatMap]
  refine congrArg List.sum (List.map_congr_left fun g hMem ↦ ?_)
  rw [h.idle hIdle g hMem]
  simp [Agenda.iterations, Agenda.calls, Hand.calls]

/-- In the end the steps that are there are those that a call has named. -/
theorem State.Tracks.mem_keys_iff {s : State} {gs : List Agenda} (h : s.Tracks gs)
    (hIdle : ∀ r ∈ s.recorders, r.isIdle = true) (step : String) :
    step ∈ s.memory.table.keys ↔ ∃ call ∈ gs.flatMap Agenda.calls, call.step? = some step := by
  constructor
  · intro hMem
    obtain ⟨entry, hEntry, rfl⟩ := List.mem_map.1 hMem
    exact h.holds.known _ _ (Dictionary.find?_of_mem h.holds.coherent.sorted hEntry)
  · rintro ⟨call, hCall, hStep⟩
    obtain ⟨g, hMem, hCall⟩ := List.mem_flatMap.1 hCall
    have hDone : g.done = g.calls := congrArg Agenda.done (h.idle hIdle g hMem)
    obtain ⟨cell, hFound⟩ := h.holds.named g hMem call (hDone ▸ hCall) step hStep
    exact Dictionary.mem_keys_of_find? hFound

/-- Every step has one cell, which no other step has. -/
theorem Memory.IsCoherent.nodup {m : Memory} (h : m.IsCoherent) :
    m.table.keys.Nodup ∧ (m.table.map Prod.snd).Nodup := by
  have hFound : ∀ entry ∈ m.table, m.table.find? entry.1 = some entry.2 := fun entry hMem ↦
    Dictionary.find?_of_mem h.sorted hMem
  constructor
  · exact Dictionary.nodup_keys h.sorted
  · refine List.pairwise_map.2 (h.sorted.imp_of_mem fun {a b} hA hB hLess hEq ↦ ?_)
    have hKey : a.1 = b.1 := h.apart a.1 b.1 a.2 (hFound a hA) (hEq ▸ hFound b hB)
    exact String.lt_irrefl a.1 (by rwa [← hKey] at hLess)

theorem flatMap_calls_ofCalls (calls : List (List Call)) :
    (calls.map Agenda.ofCalls).flatMap Agenda.calls = calls.flatten := by
  rw [List.flatMap_map]
  simp [Agenda.calls_ofCalls, List.flatMap_id']

/-! ## Attempts and outcomes -/

theorem countP_attempted (calls : List Call) (step : String) :
    calls.countP (Call.counts step .attempted) =
      calls.countP (Call.counts step (.category .succeeded)) +
      calls.countP (Call.counts step (.category .transportFailure)) +
      calls.countP (Call.counts step (.category .parseFailure)) +
      calls.countP (Call.counts step (.category .businessFailure)) +
      calls.countP (Call.counts step (.category .noUsableData)) := by
  induction calls with
  | nil => rfl
  | cons call calls ih =>
    cases call with
    | touch | countIteration => simpa [List.countP_cons, Call.counts] using ih
    | record name kind latency =>
      cases kind <;> by_cases hName : name = step <;>
        simp [Call.counts, Word.concerns, hName] <;> omega

/-- The category of a call at hand is counted before the attempt. -/
theorem Hand.count_attempted_le (hand : Hand) (step : String) :
    hand.count step .attempted ≤
      hand.count step (.category .succeeded) + hand.count step (.category .transportFailure) +
      hand.count step (.category .parseFailure) + hand.count step (.category .businessFailure) +
      hand.count step (.category .noUsableData) := by
  cases hand with
  | empty | seeking => exact Nat.zero_le _
  | filling call made =>
    cases call with
    | touch | countIteration => simp [Hand.count, Call.counts]
    | record name kind latency =>
      by_cases hAttempt : name = step ∧ 1 < made
      · have hMade : 0 < made := by omega
        cases kind <;> simp [Hand.count, Call.counts, Word.concerns, Word.position, hAttempt, hMade]
      · have hNone : ¬ ((Call.record name kind latency).counts step .attempted = true ∧
            Word.attempted.position < made) := by
          simpa [Call.counts, Word.concerns, Word.position] using hAttempt
        rw [Hand.count, if_neg hNone]
        exact Nat.zero_le _

/-- At no time there are more attempts than outcomes. -/
theorem total_attempted_le (gs : List Agenda) (step : String) :
    total step .attempted gs ≤
      total step (.category .succeeded) gs + total step (.category .transportFailure) gs +
      total step (.category .parseFailure) gs + total step (.category .businessFailure) gs +
      total step (.category .noUsableData) gs := by
  induction gs with
  | nil => exact Nat.le_refl _
  | cons g gs ih =>
    have hDone := countP_attempted g.done step
    have hHand := g.hand.count_attempted_le step
    simp only [total, List.map_cons, List.sum_cons, Agenda.count] at ih ⊢
    omega

end StorefrontLoad.Contention
