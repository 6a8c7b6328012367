/-!
# The shutdown signal

The signal is a flag that stays raised, together with a message that is sent once to whoever listens
at the time. Each operation below reads or changes the signal at one point in time; what a
participant does is a sequence of them, in `StorefrontLoad.Shutdown.Task`.
-/

namespace StorefrontLoad.Shutdown

/-- Where messages for a listener and its copies arrive. -/
structure Receiver where
  /-- Messages that have arrived and have not been taken. -/
  pending : Nat
  /-- Held by the one participant that takes the next message. -/
  locked : Bool
  deriving DecidableEq, Repr

structure Signal where
  raised : Bool
  /-- How many messages have been sent. -/
  sent : Nat
  /-- Whether each handle is still there; one that was dropped keeps its place. -/
  handles : List Bool
  receivers : List Receiver
  /-- The receiver of each listener; a copy of a listener has the same one. -/
  listeners : List Nat
  deriving DecidableEq, Repr

namespace Signal

/-- One handle and nobody who listens. -/
def fresh : Signal := ⟨false, 0, [true], [], []⟩

def hasHandle (s : Signal) : Bool := s.handles.any id

def isAlive (s : Signal) (handle : Nat) : Bool := s.handles.getD handle false

/-- What a look through a handle shows; nothing through one that was dropped. -/
def seenByHandle? (s : Signal) (handle : Nat) : Option Bool :=
  if s.isAlive handle then some s.raised else none

/-- What a look through a listener shows. -/
def seenByListener? (s : Signal) (listener : Nat) : Option Bool :=
  (s.listeners[listener]?).map fun _ ↦ s.raised

def raise (s : Signal) : Signal := { s with raised := true }

/-- Reaches the receivers that are there now and no later one. -/
def broadcast (s : Signal) : Signal :=
  { s with
    sent := s.sent + 1
    receivers := s.receivers.map fun r ↦ { r with pending := r.pending + 1 } }

def listen (s : Signal) : Signal :=
  { s with
    receivers := s.receivers ++ [⟨0, false⟩]
    listeners := s.listeners ++ [s.receivers.length] }

def cloneHandle (s : Signal) : Signal := { s with handles := s.handles ++ [true] }

def dropHandle (handle : Nat) (s : Signal) : Signal :=
  { s with handles := s.handles.set handle false }

/-- The copy listens to the receiver of the listener it was made from. -/
def cloneListener (receiver : Nat) (s : Signal) : Signal :=
  { s with listeners := s.listeners ++ [receiver] }

def setLock (receiver : Nat) (locked : Bool) (s : Signal) : Signal :=
  { s with receivers := s.receivers.modify receiver fun r ↦ { r with locked := locked } }

def isLocked (s : Signal) (receiver : Nat) : Bool :=
  ((s.receivers[receiver]?).map Receiver.locked).getD false

def pending (s : Signal) (receiver : Nat) : Nat :=
  ((s.receivers[receiver]?).map Receiver.pending).getD 0

def takeMessage (receiver : Nat) (s : Signal) : Signal :=
  { s with receivers := s.receivers.modify receiver fun r ↦ { r with pending := r.pending - 1 } }

end Signal

end StorefrontLoad.Shutdown
