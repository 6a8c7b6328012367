import StorefrontLoad.Proofs.Shutdown.Session

/-!
# The signal stays raised and is sent once

Whoever raises the flag first sends the message, and nobody lowers the flag. So the flag, the calls
that are about to send the message and the messages that have been sent make up one unit at most:
there is nothing before the flag is raised, then one call that is about to send, then one message.
Everybody who looks once some call to shut down has returned sees the flag, and a wait that has
returned was told by the flag, by the message or by the last handle's going.
-/

namespace StorefrontLoad.Shutdown

namespace Signal

theorem pending_broadcast_le (s : Signal) (k : Nat) :
    s.broadcast.pending k ≤ s.pending k + 1 := by
  simp only [pending, broadcast, List.getElem?_map]
  cases s.receivers[k]? with
  | none | some => simp

theorem hasHandle_of_isAlive {s : Signal} {handle : Nat} (h : s.isAlive handle = true) :
    s.hasHandle = true := by
  rw [isAlive, List.getD_eq_getElem?_getD] at h
  cases hHandle : s.handles[handle]? with
  | none =>
    rw [hHandle] at h
    cases h
  | some alive =>
    rw [hHandle] at h
    exact List.any_eq_true.2 ⟨alive, List.mem_of_getElem? hHandle, h⟩

/-- A look through any handle or listener that is there shows the flag raised. -/
structure IsSeenRaised (s : Signal) : Prop where
  handles : ∀ handle, s.isAlive handle = true → s.seenByHandle? handle = some true
  listeners : ∀ listener, listener < s.listeners.length → s.seenByListener? listener = some true

theorem isSeenRaised {s : Signal} (h : s.raised = true) : s.IsSeenRaised where
  handles handle hAlive := by rw [seenByHandle?, if_pos hAlive, h]
  listeners listener hThere := by
    rw [seenByListener?, List.getElem?_eq_getElem hThere, Option.map_some, h]

end Signal

namespace Session

/-! ## What every move keeps -/

/-- What every move keeps is kept by any number of moves. -/
theorem applyAll_induction {P : Session → Prop}
    (hKeep : ∀ {s after : Session} {move : Move}, P s → s.Moves move after → P after)
    {s last : Session} {moves : List Move} (h : P s) (hAll : s.applyAll moves = some last) :
    P last := by
  induction moves generalizing s with
  | nil => exact Option.some.inj hAll ▸ h
  | cons move moves ih =>
    obtain ⟨middle, hMove, hRest⟩ := Option.bind_eq_some_iff.1 hAll
    exact ih (hKeep h (moves_of_apply hMove)) hRest

theorem Moves.raised {s after : Session} {move : Move} (hMove : s.Moves move after)
    (h : s.signal.raised = true) : after.signal.raised = true := by
  cases hMove with
  | shutdown | wait | listen | cloneHandle | dropHandle | cloneListener => exact h
  | advance _ hStep => exact hStep.raised h

/-- A handle that has gone does not come back, and only what is there can be copied. -/
theorem Moves.hasHandle {s after : Session} {move : Move} (hMove : s.Moves move after)
    (h : s.signal.hasHandle = false) : after.signal.hasHandle = false := by
  have hNone (handle : Nat) : s.signal.isAlive handle ≠ true := fun hAlive ↦
    absurd (h.symm.trans (Signal.hasHandle_of_isAlive hAlive)) (by simp)
  cases hMove with
  | shutdown hAlive | listen hAlive | cloneHandle hAlive | dropHandle hAlive =>
    exact absurd hAlive (hNone _)
  | wait | cloneListener => exact h
  | advance _ hStep =>
    rw [Signal.hasHandle, hStep.handles]
    exact h

/-! ## One message -/

/-- How many of the calls are about to send the message. -/
def announcers (calls : List Task) : Nat := calls.countP (· = .announcing)

/-- The flag comes first, then one call that is about to send, then the message; and what has
arrived has been sent. -/
structure SendsOnce (s : Session) : Prop where
  sent : s.signal.sent + announcers s.calls ≤ s.signal.raised.toNat
  pending : ∀ receiver, s.signal.pending receiver ≤ s.signal.sent

theorem sendsOnce_fresh : fresh.SendsOnce where
  sent := by decide
  pending receiver := by simp [fresh, Signal.fresh, Signal.pending]

theorem SendsOnce.call {s : Session} (h : s.SendsOnce) {task : Task} (hTask : task ≠ .announcing) :
    (s.call task).SendsOnce where
  sent := by simpa [Session.call, announcers, List.countP_append, hTask] using h.sent
  pending := h.pending

section Step

variable {s after : Session} {move : Move} {task next : Task} {signal : Signal}

theorem announcers_set {calls : List Task} {index : Nat} (hTask : calls[index]? = some task)
    (next : Task) : announcers (calls.set index next) + (if task = .announcing then 1 else 0) =
      announcers calls + (if next = .announcing then 1 else 0) := by
  simpa [announcers] using countP_set_add hTask next (· = .announcing)

/-- The first call to raise the flag turns into the one that is about to send, and this one into
the message that has been sent. -/
theorem SendsOnce.sent_step (h : s.SendsOnce) {index : Nat} (hTask : s.calls[index]? = some task)
    (hStep : Task.Steps s.signal task next signal) :
    signal.sent + announcers (s.calls.set index next) ≤ signal.raised.toNat := by
  have hSent := h.sent
  have hCount := announcers_set hTask next
  cases hStep with
  | raise hClear =>
    have hMore : announcers (s.calls.set index .announcing) = announcers s.calls + 1 := by
      simpa using hCount
    rw [hClear, Bool.toNat_false] at hSent
    simp only [Signal.raise, Bool.toNat_true]
    omega
  | announce =>
    have hLess : announcers (s.calls.set index .returned) + 1 = announcers s.calls := by
      simpa using hCount
    simp only [Signal.broadcast]
    omega
  | unheard =>
    have hLess : announcers (s.calls.set index .returned) + 1 = announcers s.calls := by
      simpa using hCount
    omega
  | again | seen | pass | lock | take | desert =>
    rw [if_neg (by simp), if_neg (by simp), Nat.add_zero, Nat.add_zero] at hCount
    rwa [hCount]

theorem SendsOnce.pending_step (h : s.SendsOnce) (hStep : Task.Steps s.signal task next signal)
    (receiver : Nat) : signal.pending receiver ≤ signal.sent := by
  have hPending := h.pending receiver
  cases hStep with
  | again | raise | unheard | seen | pass => exact hPending
  | announce => exact Nat.le_trans (Signal.pending_broadcast_le _ _) (Nat.succ_le_succ hPending)
  | lock | desert => rwa [Signal.pending_setLock]
  | take =>
    rw [Signal.pending_setLock, Signal.pending_takeMessage]
    split
    · exact Nat.le_trans (Nat.sub_le _ _) hPending
    · exact hPending

theorem SendsOnce.moves (h : s.SendsOnce) (hMove : s.Moves move after) : after.SendsOnce := by
  cases hMove with
  | shutdown | wait => exact h.call (by simp)
  | listen => exact ⟨h.sent, fun receiver ↦ (Signal.pending_listen _ _).symm ▸ h.pending receiver⟩
  | cloneHandle | dropHandle | cloneListener => exact ⟨h.sent, h.pending⟩
  | advance hTask hStep => exact ⟨h.sent_step hTask hStep, h.pending_step hStep⟩

end Step

theorem SendsOnce.sent_le {s : Session} (h : s.SendsOnce) : s.signal.sent ≤ 1 :=
  calc s.signal.sent
      ≤ s.signal.sent + announcers s.calls := Nat.le_add_right _ _
    _ ≤ s.signal.raised.toNat := h.sent
    _ ≤ 1 := Bool.toNat_le _

/-- Nothing arrives before the flag is raised. -/
theorem SendsOnce.raised {s : Session} (h : s.SendsOnce) {receiver : Nat}
    (hPending : 0 < s.signal.pending receiver) : s.signal.raised = true := by
  have hSent := h.sent
  have hArrived := h.pending receiver
  cases hRaised : s.signal.raised with
  | true => rfl
  | false =>
    rw [hRaised, Bool.toNat_false] at hSent
    omega

/-! ## Calls that have returned -/

/-- The call is about to raise the flag, or somebody has raised it. -/
def IsRaisedBy (s : Session) (index : Nat) : Prop :=
  s.calls[index]? = some .raising ∨ s.signal.raised = true

theorem IsRaisedBy.moves {s after : Session} {move : Move} {index : Nat}
    (h : s.IsRaisedBy index) (hMove : s.Moves move after) : after.IsRaisedBy index := by
  rcases h with hTask | hRaised
  · rcases hMove.call hTask with hSame | ⟨next, signal, rfl, hStep⟩
    · exact .inl hSame
    · cases hStep with
      | again hRaised => exact .inr hRaised
      | raise => exact .inr rfl
  · exact .inr (hMove.raised hRaised)

/-- The call waits, or there is nothing left to wait for. -/
def IsToldBy (s : Session) (index : Nat) : Prop :=
  (∃ task, s.calls[index]? = some task ∧ task.receiver?.isSome = true) ∨
    s.signal.raised = true ∨ s.signal.hasHandle = false

theorem IsToldBy.moves {s after : Session} {move : Move} {index : Nat} (h : s.IsToldBy index)
    (hOnce : s.SendsOnce) (hMove : s.Moves move after) : after.IsToldBy index := by
  rcases h with ⟨task, hTask, hWaits⟩ | hRaised | hGone
  · rcases hMove.call hTask with hSame | ⟨next, signal, rfl, hStep⟩
    · exact .inl ⟨task, hSame, hWaits⟩
    · have hNext : (s.calls.set index next)[index]? = some next :=
        List.getElem?_set_self (List.getElem?_eq_some_iff.1 hTask).1
      cases hStep with
      | pass | lock => exact .inl ⟨_, hNext, rfl⟩
      | seen hRaised => exact .inr (.inl hRaised)
      | take hPending => exact .inr (.inl (hOnce.raised hPending))
      | desert _ hGone => exact .inr (.inr hGone)
      | again | raise | unheard | announce => cases hWaits
  · exact .inr (.inl (hMove.raised hRaised))
  · exact .inr (.inr (hMove.hasHandle hGone))

/-- In a session that has come to `last` by these moves, a call that the request began has
returned. -/
def HasReturned (request : Request) (moves : List Move) (last : Session) : Prop :=
  ∃ before since s, moves = before ++ .request request :: since ∧
    fresh.applyAll before = some s ∧ last.calls[s.calls.length]? = some .returned

/-- A call that has returned was begun at some time, and other moves have followed. -/
theorem HasReturned.begun {request : Request} {moves : List Move} {last : Session}
    (h : HasReturned request moves last) (hAll : fresh.applyAll moves = some last) :
    ∃ (s begun : Session) (since : List Move), s.SendsOnce ∧ s.Moves (.request request) begun ∧
      begun.applyAll since = some last ∧ last.calls[s.calls.length]? = some .returned := by
  obtain ⟨before, since, s, rfl, hBefore, hReturned⟩ := h
  rw [applyAll_append, hBefore, Option.bind_some] at hAll
  obtain ⟨begun, hBegun, hSince⟩ := Option.bind_eq_some_iff.1 hAll
  exact ⟨s, begun, since, applyAll_induction SendsOnce.moves sendsOnce_fresh hBefore,
    moves_of_apply hBegun, hSince, hReturned⟩

theorem call_length (s : Session) (task : Task) :
    (s.call task).calls[s.calls.length]? = some task :=
  List.getElem?_concat_length

theorem raised_of_shutdown {handle : Nat} {moves : List Move} {last : Session}
    (h : HasReturned (.shutdown handle) moves last) (hAll : fresh.applyAll moves = some last) :
    last.signal.raised = true := by
  obtain ⟨s, begun, since, -, hBegun, hSince, hReturned⟩ := h.begun hAll
  have hFirst : begun.IsRaisedBy s.calls.length := by
    cases hBegun
    exact .inl (call_length s .raising)
  have hLast : last.IsRaisedBy s.calls.length := applyAll_induction IsRaisedBy.moves hFirst hSince
  refine hLast.resolve_left fun hRaising ↦ ?_
  cases hReturned.symm.trans hRaising

theorem told_of_wait {listener : Nat} {moves : List Move} {last : Session}
    (h : HasReturned (.wait listener) moves last) (hAll : fresh.applyAll moves = some last) :
    last.signal.raised = true ∨ last.signal.hasHandle = false := by
  obtain ⟨s, begun, since, hOnce, hBegun, hSince, hReturned⟩ := h.begun hAll
  have hFirst : begun.SendsOnce ∧ begun.IsToldBy s.calls.length := by
    refine ⟨hOnce.moves hBegun, ?_⟩
    cases hBegun
    exact .inl ⟨_, call_length s _, rfl⟩
  have hLast : last.SendsOnce ∧ last.IsToldBy s.calls.length :=
    applyAll_induction (P := fun later ↦ later.SendsOnce ∧ later.IsToldBy s.calls.length)
      (fun h hMove ↦ ⟨h.1.moves hMove, h.2.moves h.1 hMove⟩) hFirst hSince
  refine hLast.2.resolve_left fun ⟨task, hTask, hWaits⟩ ↦ ?_
  obtain rfl := Option.some.inj (hReturned.symm.trans hTask)
  cases hWaits

/-- However calls to shut down, to listen and to wait interleave, one message is sent at most, so no
receiver has more than one to take, and the flag stays raised. From the return of the first call to
shut down on everybody who looks sees it raised, and a wait returns only when it is raised or when
no handle is left. -/
theorem latched_and_sent_once {moves : List Move} {s : Session}
    (h : fresh.applyAll moves = some s) :
    s.signal.sent ≤ 1 ∧ (∀ receiver, s.signal.pending receiver ≤ 1) ∧
      (∀ more later, s.applyAll more = some later →
        (s.signal.raised = true → later.signal.raised = true) ∧
        ∀ handle, HasReturned (.shutdown handle) moves s → later.signal.IsSeenRaised) ∧
      ∀ listener, HasReturned (.wait listener) moves s →
        s.signal.raised = true ∨ s.signal.hasHandle = false := by
  have hOnce : s.SendsOnce := applyAll_induction SendsOnce.moves sendsOnce_fresh h
  refine ⟨hOnce.sent_le, fun receiver ↦ Nat.le_trans (hOnce.pending receiver) hOnce.sent_le,
    fun more later hMore ↦ ?_, fun listener hReturned ↦ told_of_wait hReturned h⟩
  have hLatched (hRaised : s.signal.raised = true) : later.signal.raised = true :=
    applyAll_induction (fun h hMove ↦ hMove.raised h) hRaised hMore
  exact ⟨hLatched, fun handle hReturned ↦
    Signal.isSeenRaised (hLatched (raised_of_shutdown hReturned h))⟩

/-- Two calls to shut down race, and a wait has looked at the flag before both of them. The second
call returns first, a listener comes late, and the message reaches both receivers. -/
def race : List Move := [
  .request (.listen 0), .request (.wait 0), .advance 0, .request (.shutdown 0),
  .request (.shutdown 0), .advance 1, .advance 2, .request (.listen 0), .advance 1, .advance 0,
  .advance 0]

def raced : Session :=
  ⟨⟨true, 1, [true], [⟨0, false⟩, ⟨1, false⟩], [0, 1]⟩, [.returned, .returned, .returned]⟩

theorem latched_and_sent_once_race : fresh.applyAll race = some raced ∧
    HasReturned (.shutdown 0) race raced ∧ HasReturned (.wait 0) race raced ∧
      raced.signal.sent ≤ 1 ∧ raced.signal.IsSeenRaised ∧
        (raced.signal.raised = true ∨ raced.signal.hasHandle = false) := by
  have hAll : fresh.applyAll race = some raced := rfl
  have hShutdown : HasReturned (.shutdown 0) race raced :=
    ⟨race.take 3, race.drop 4, ⟨Signal.fresh.listen, [.locking 0]⟩, rfl, rfl, rfl⟩
  have hWait : HasReturned (.wait 0) race raced :=
    ⟨race.take 1, race.drop 2, ⟨Signal.fresh.listen, []⟩, rfl, rfl, rfl⟩
  obtain ⟨hSent, -, hLater, hTold⟩ := latched_and_sent_once hAll
  exact ⟨hAll, hShutdown, hWait, hSent, (hLater [] raced rfl).2 0 hShutdown, hTold 0 hWait⟩

end Session

end StorefrontLoad.Shutdown
