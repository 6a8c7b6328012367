import StorefrontLoad.Shutdown.Task

/-!
# Requests to the shutdown signal

Handles and listeners are named by their position. A request through a handle that was dropped, or
by a position that was never given out, is refused.
-/

namespace StorefrontLoad.Shutdown

inductive Request
  | listen (handle : Nat)
  | shutdown (handle : Nat)
  | cloneHandle (handle : Nat)
  | dropHandle (handle : Nat)
  | cloneListener (listener : Nat)
  | wait (listener : Nat)
  deriving DecidableEq, Repr

inductive Reply
  | done
  | refused
  /-- The wait was over at the first look. -/
  | ready
  | pending
  deriving DecidableEq, Repr

namespace Request

def viaHandle (s : Signal) (handle : Nat) (change : Signal → Signal × List LogLine) :
    Reply × Signal × List LogLine :=
  if s.isAlive handle then (.done, change s) else (.refused, s, [])

def viaListener (s : Signal) (listener : Nat) (change : Nat → Signal → Reply × Signal) :
    Reply × Signal × List LogLine :=
  match s.listeners[listener]? with
  | none => (.refused, s, [])
  | some receiver =>
    let (reply, s) := change receiver s
    (reply, s, [])

def serve (s : Signal) : Request → Reply × Signal × List LogLine
  | listen handle => viaHandle s handle fun s ↦ (s.listen, [])
  | shutdown handle => viaHandle s handle Signal.shutdown
  | cloneHandle handle => viaHandle s handle fun s ↦ (s.cloneHandle, [])
  | dropHandle handle => viaHandle s handle fun s ↦ (s.dropHandle handle, [])
  | cloneListener listener => viaListener s listener fun receiver s ↦
      (.done, s.cloneListener receiver)
  | wait listener => viaListener s listener fun receiver s ↦
      let (isOver, s) := s.poll receiver
      (if isOver then .ready else .pending, s)

end Request

end StorefrontLoad.Shutdown
