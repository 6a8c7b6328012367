import StorefrontLoad.Outcome.Counters

/-!
# Counters under contention

Agents record into the same counters at once, and somebody may look at them meanwhile. Here every
access to a word and every hold of the table of steps is a step of its own. A recorder that finds no
cell for its step looks again when it may change the table, so a step has one cell however many
recorders are the first to name it.
-/

namespace StorefrontLoad.Contention

/-! ## Memory -/

/-- Counters as they are shared. The table says which cell counts which step. -/
structure Memory where
  iterations : UInt64
  table : Dictionary Nat
  cells : Array StepCounters
  deriving DecidableEq, Repr

namespace Memory

def fresh : Memory := ⟨0, [], #[]⟩

def cell (index : Nat) (m : Memory) : StepCounters := m.cells.getD index .fresh

/-- What the cells count. -/
def counters (m : Memory) : Counters :=
  ⟨m.iterations, m.table.map fun (step, index) ↦ (step, m.cell index)⟩

def change (index : Nat) (f : StepCounters → StepCounters) (m : Memory) : Memory :=
  { m with cells := m.cells.modify index f }

def recordIteration (m : Memory) : Memory := { m with iterations := m.iterations + 1 }

/-- The cell of a step, which is a new one if the table has none. -/
def findOrCreate (step : String) (m : Memory) : Nat × Memory :=
  match m.table.find? step with
  | some index => (index, m)
  | none =>
    let index := m.cells.size
    (index, { m with table := m.table.insert step index, cells := m.cells.push .fresh })

end Memory

/-! ## Recorders -/

/-- What is left to do of one call. -/
inductive Task
  | finding (step : String) (changes : List (StepCounters → StepCounters))
  /-- Has found no cell and waits until it may change the table. -/
  | creating (step : String) (changes : List (StepCounters → StepCounters))
  | changing (cell : Nat) (changes : List (StepCounters → StepCounters))
  | countingIteration
  | returned

namespace Task

def record (step : String) (kind : OutcomeKind) (latency : Duration) : Task :=
  finding step (StepCounters.changes kind latency)

def touch (step : String) : Task := finding step []

/-- The next step; `none` when there is none or it has to wait for the table. -/
def step (isTableHeld : Bool) (m : Memory) : Task → Option (Task × Memory)
  | finding step changes =>
    match m.table.find? step with
    | some cell => some (changing cell changes, m)
    | none => some (creating step changes, m)
  | creating step changes =>
    if isTableHeld then none
    else
      let (cell, m) := m.findOrCreate step
      some (changing cell changes, m)
  | changing cell (change :: changes) => some (changing cell changes, m.change cell change)
  | changing _ [] => some (returned, m)
  | countingIteration => some (returned, m.recordIteration)
  | returned => none

end Task

/-- Makes its calls one after the other. -/
structure Recorder where
  current : Task
  later : List Task

namespace Recorder

def ofCalls : List Task → Recorder
  | [] => ⟨.returned, []⟩
  | call :: calls => ⟨call, calls⟩

/-- Whether it has made all its calls. -/
def isIdle (r : Recorder) : Bool :=
  match r.current, r.later with
  | .returned, [] => true
  | _, _ => false

def step (isTableHeld : Bool) (m : Memory) (r : Recorder) : Option (Recorder × Memory) :=
  match r.current, r.later with
  | .returned, [] => none
  | .returned, call :: calls => some (⟨call, calls⟩, m)
  | task, _ => (task.step isTableHeld m).map fun (task, m) ↦ ({ r with current := task }, m)

end Recorder

/-! ## Observers -/

/-- One word of a step that is still to be copied. -/
structure Load where
  step : String
  copy : StepCounters → StepCounters → StepCounters

namespace Load

def all (c : Counters) : List Load :=
  c.steps.keys.flatMap fun step ↦ StepCounters.copies.map (⟨step, ·⟩)

def take (c seen : Counters) (load : Load) : Counters :=
  { seen with
    steps := seen.steps.update load.step .fresh
      (load.copy ((c.steps.find? load.step).getD .fresh)) }

end Load

/-- Somebody who takes a snapshot, word by word. -/
inductive Observer
  | arriving
  /-- About to take hold of the table. -/
  | listing (iterations : UInt64)
  | copying (seen : Counters) (loads : List Load)
  | told (outcome : OutcomeSummary)

namespace Observer

/-- No step gets a cell while somebody goes through the table. -/
def holdsTable : Observer → Bool
  | copying _ _ => true
  | _ => false

def step (c : Counters) : Observer → Option Observer
  | arriving => some (listing c.iterations)
  | listing iterations => some (copying ⟨iterations, []⟩ (Load.all c))
  | copying seen (load :: loads) => some (copying (load.take c seen) loads)
  | copying seen [] => some (told seen.snapshot)
  | told _ => none

end Observer

/-! ## Interleavings -/

structure State where
  memory : Memory
  recorders : List Recorder
  observers : List Observer

inductive Move
  | recorder (index : Nat)
  | observer (index : Nat)
  | observe
  deriving DecidableEq, Repr

namespace State

def initial (calls : List (List Task)) : State := ⟨.fresh, calls.map Recorder.ofCalls, []⟩

def isTableHeld (s : State) : Bool := s.observers.any Observer.holdsTable

/-- The state after a move; `none` when the move is not possible. -/
def apply (s : State) : Move → Option State
  | .recorder index =>
    match s.recorders[index]? with
    | none => none
    | some recorder => (recorder.step s.isTableHeld s.memory).map fun (recorder, memory) ↦
        { s with memory := memory, recorders := s.recorders.set index recorder }
  | .observer index =>
    match s.observers[index]? with
    | none => none
    | some observer => (observer.step s.memory.counters).map fun observer ↦
        { s with observers := s.observers.set index observer }
  | .observe => some { s with observers := s.observers ++ [.arriving] }

/-- The state after a sequence of moves. -/
def applyAll (s : State) : List Move → Option State
  | [] => some s
  | move :: moves => (s.apply move).bind fun s ↦ s.applyAll moves

end State

end StorefrontLoad.Contention
