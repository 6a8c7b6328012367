import StorefrontLoad.Log
import StorefrontLoad.Shutdown.Signal

/-!
# Raising the signal and waiting for it, step by step

A task is what is left to do of a call. Calls of several participants may interleave between any two
steps; on its own a call runs until it has returned or can go no further.
-/

namespace StorefrontLoad.Shutdown

inductive Task
  /-- About to raise the flag. -/
  | raising
  /-- Was the first to raise the flag and is about to send the message. -/
  | announcing
  /-- About to look at the flag before it waits. -/
  | checking (receiver : Nat)
  | locking (receiver : Nat)
  /-- Waits for a message with the receiver locked. -/
  | receiving (receiver : Nat)
  | returned
  deriving DecidableEq, Repr

namespace Task

def alreadyRequested : LogLine := .debug "Shutdown already requested"

def nobodyListens : LogLine := .trace "No async listeners for shutdown signal: SendError(())"

/-- The next step, with what it logs; `none` when there is none or it has to wait. -/
def step (s : Signal) : Task → Option (Task × Signal × List LogLine)
  | raising =>
    if s.raised then some (returned, s, [alreadyRequested])
    else some (announcing, s.raise, [])
  | announcing =>
    if s.receivers = [] then some (returned, s, [nobodyListens])
    else some (returned, s.broadcast, [])
  | checking receiver => some (if s.raised then returned else locking receiver, s, [])
  | locking receiver =>
    if s.isLocked receiver then none
    else some (receiving receiver, s.setLock receiver true, [])
  | receiving receiver =>
    if 0 < s.pending receiver then
      some (returned, (s.takeMessage receiver).setLock receiver false, [])
    else if s.hasHandle then none
    else some (returned, s.setLock receiver false, [])
  | returned => none

/-- Gives back what the task holds when the call is given up. -/
def abandon (s : Signal) : Task → Signal
  | receiving receiver => s.setLock receiver false
  | _ => s

/-- At most so many steps on its own. -/
def proceed : Nat → Task → Signal → Task × Signal × List LogLine
  | 0, task, s => (task, s, [])
  | steps + 1, task, s =>
    match task.step s with
    | none => (task, s, [])
    | some (task, s, lines) =>
      let (task, s, more) := proceed steps task s
      (task, s, lines ++ more)

/-- No call takes more steps. -/
def mostSteps : Nat := 3

end Task

namespace Signal

/-- Raises the signal and tells whoever listens. -/
def shutdown (s : Signal) : Signal × List LogLine :=
  (Task.proceed Task.mostSteps .raising s).2

/-- Looks once whether the signal has come, and whether a wait would be over. -/
def poll (receiver : Nat) (s : Signal) : Bool × Signal :=
  let (task, s, _) := Task.proceed Task.mostSteps (.checking receiver) s
  (task = .returned, task.abandon s)

end Signal

end StorefrontLoad.Shutdown
