import StorefrontLoad.Shutdown.Request

/-!
# Sessions of several participants

Participants share one signal through their handles and listeners and call it at the same time. A
request to shut down or to wait begins a call, and calls that have begun move on one step at a time,
in any order.
-/

namespace StorefrontLoad.Shutdown

structure Session where
  signal : Signal
  /-- What is left to do of each call, in the order in which they began. -/
  calls : List Task
  deriving DecidableEq, Repr

inductive Move
  | request (request : Request)
  | advance (call : Nat)
  deriving DecidableEq, Repr

namespace Session

def fresh : Session := ⟨.fresh, []⟩

def call (task : Task) (s : Session) : Session := { s with calls := s.calls ++ [task] }

/-- Requests other than calls are over at once. -/
def request (s : Session) : Request → Option Session
  | .shutdown handle => if s.signal.isAlive handle then some (s.call .raising) else none
  | .wait listener => (s.signal.listeners[listener]?).map fun receiver ↦ s.call (.checking receiver)
  | other =>
    match other.serve s.signal with
    | (.refused, _, _) => none
    | (_, signal, _) => some { s with signal := signal }

/-- The session after a move; `none` when the move is not possible. -/
def apply (s : Session) : Move → Option Session
  | .request request => s.request request
  | .advance index =>
    match s.calls[index]? with
    | none => none
    | some task => (task.step s.signal).map fun (task, signal, _) ↦
        ⟨signal, s.calls.set index task⟩

/-- The session after a sequence of moves. -/
def applyAll (s : Session) : List Move → Option Session
  | [] => some s
  | move :: moves => (s.apply move).bind fun s ↦ s.applyAll moves

theorem applyAll_append (s : Session) (first second : List Move) :
    s.applyAll (first ++ second) = (s.applyAll first).bind fun s ↦ s.applyAll second := by
  induction first generalizing s with
  | nil => rfl
  | cons move moves ih =>
    simp only [List.cons_append, applyAll]
    cases s.apply move with
    | none => rfl
    | some middle => exact ih middle

end Session

end StorefrontLoad.Shutdown
