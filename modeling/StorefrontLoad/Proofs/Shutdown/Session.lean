import StorefrontLoad.Shutdown.Session
import Mathlib.Data.List.Basic

/-!
# Waiting for the signal

A call that waits looks at the flag, takes the lock of its receiver and then a message from it. The
one message there ever is goes once to every receiver, and copies of a listener share theirs. So a
wait that has looked too early still gets the message as long as it is the only one at its receiver;
of two waits at one receiver one takes the message and the other one waits for ever.
-/

namespace StorefrontLoad.Shutdown

/-! ## Receivers -/

namespace Signal

@[simp] theorem pending_setLock (s : Signal) (receiver k : Nat) (locked : Bool) :
    (s.setLock receiver locked).pending k = s.pending k := by
  simp only [pending, setLock, List.getElem?_modify]
  cases s.receivers[k]? with
  | none => simp
  | some r => by_cases hk : receiver = k <;> simp [hk]

theorem pending_takeMessage (s : Signal) (receiver k : Nat) :
    (s.takeMessage receiver).pending k =
      if receiver = k then s.pending k - 1 else s.pending k := by
  simp only [pending, takeMessage, List.getElem?_modify]
  cases s.receivers[k]? with
  | none => simp
  | some r => by_cases hk : receiver = k <;> simp [hk]

theorem pending_broadcast {s : Signal} {k : Nat} (h : k < s.receivers.length) :
    s.broadcast.pending k = s.pending k + 1 := by
  simp [pending, broadcast, List.getElem?_eq_getElem h]

theorem pending_listen (s : Signal) (k : Nat) : s.listen.pending k = s.pending k := by
  simp only [pending, listen, List.getElem?_append]
  split
  · rfl
  · next hNot =>
    rw [List.getElem?_eq_none (Nat.not_lt.1 hNot)]
    cases k - s.receivers.length <;> simp

theorem isLocked_setLock (s : Signal) (receiver k : Nat) (locked : Bool)
    (h : receiver < s.receivers.length) : (s.setLock receiver locked).isLocked k =
      if receiver = k then locked else s.isLocked k := by
  simp only [isLocked, setLock, List.getElem?_modify]
  by_cases hk : receiver = k
  · subst hk
    simp [List.getElem?_eq_getElem h]
  · cases s.receivers[k]? <;> simp [hk]

@[simp] theorem isLocked_takeMessage (s : Signal) (receiver k : Nat) :
    (s.takeMessage receiver).isLocked k = s.isLocked k := by
  simp only [isLocked, takeMessage, List.getElem?_modify]
  cases s.receivers[k]? with
  | none => simp
  | some r => by_cases hk : receiver = k <;> simp [hk]

@[simp] theorem isLocked_broadcast (s : Signal) (k : Nat) :
    s.broadcast.isLocked k = s.isLocked k := by
  simp only [isLocked, broadcast, List.getElem?_map]
  cases s.receivers[k]? <;> rfl

@[simp] theorem isLocked_listen (s : Signal) (k : Nat) : s.listen.isLocked k = s.isLocked k := by
  simp only [isLocked, listen, List.getElem?_append]
  split
  · rfl
  · next hNot =>
    rw [List.getElem?_eq_none (Nat.not_lt.1 hNot)]
    cases k - s.receivers.length <;> simp

@[simp] theorem length_setLock (s : Signal) (receiver : Nat) (locked : Bool) :
    (s.setLock receiver locked).receivers.length = s.receivers.length := List.length_modify ..

@[simp] theorem length_takeMessage (s : Signal) (receiver : Nat) :
    (s.takeMessage receiver).receivers.length = s.receivers.length := List.length_modify ..

@[simp] theorem length_broadcast (s : Signal) :
    s.broadcast.receivers.length = s.receivers.length := List.length_map _

end Signal

/-! ## What a step can do -/

/-- A call takes a step: what was left to do of it, what is left then, and the signal behind it. -/
inductive Task.Steps (s : Signal) : Task → Task → Signal → Prop
  | again : s.raised = true → Steps s .raising .returned s
  | raise : s.raised = false → Steps s .raising .announcing s.raise
  | unheard : s.receivers = [] → Steps s .announcing .returned s
  | announce : s.receivers ≠ [] → Steps s .announcing .returned s.broadcast
  | seen {receiver : Nat} : s.raised = true → Steps s (.checking receiver) .returned s
  | pass {receiver : Nat} : s.raised = false →
      Steps s (.checking receiver) (.locking receiver) s
  | lock {receiver : Nat} : s.isLocked receiver = false →
      Steps s (.locking receiver) (.receiving receiver) (s.setLock receiver true)
  | take {receiver : Nat} : 0 < s.pending receiver →
      Steps s (.receiving receiver) .returned ((s.takeMessage receiver).setLock receiver false)
  | desert {receiver : Nat} : s.pending receiver = 0 → s.hasHandle = false →
      Steps s (.receiving receiver) .returned (s.setLock receiver false)

theorem Task.steps_of_step {s after : Signal} {task next : Task} {lines : List LogLine}
    (h : task.step s = some (next, after, lines)) : Task.Steps s task next after := by
  cases task with
  | raising =>
    simp only [step] at h
    split at h
    · next hRaised => cases h; exact .again hRaised
    · next hClear => cases h; exact .raise (Bool.not_eq_true _ ▸ hClear)
  | announcing =>
    simp only [step] at h
    split at h
    · next hNobody => cases h; exact .unheard hNobody
    · next hSome => cases h; exact .announce hSome
  | checking receiver =>
    simp only [step, Option.some.injEq, Prod.mk.injEq] at h
    obtain ⟨hNext, rfl, -⟩ := h
    split at hNext
    · next hRaised => exact hNext ▸ .seen hRaised
    · next hClear => exact hNext ▸ .pass (Bool.not_eq_true _ ▸ hClear)
  | locking receiver =>
    simp only [step] at h
    split at h
    · cases h
    · next hFree => cases h; exact .lock (Bool.not_eq_true _ ▸ hFree)
  | receiving receiver =>
    simp only [step] at h
    split at h
    · next hPending => cases h; exact .take hPending
    · next hNothing =>
      split at h
      · cases h
      · next hGone =>
        cases h
        exact .desert (Nat.eq_zero_of_not_pos hNothing) (Bool.not_eq_true _ ▸ hGone)
  | returned => cases h

/-- A session goes on by a move. -/
inductive Session.Moves (s : Session) : Move → Session → Prop
  | shutdown {handle : Nat} : s.signal.isAlive handle = true →
      Moves s (.request (.shutdown handle)) (s.call .raising)
  | wait {listener receiver : Nat} : s.signal.listeners[listener]? = some receiver →
      Moves s (.request (.wait listener)) (s.call (.checking receiver))
  | listen {handle : Nat} : s.signal.isAlive handle = true →
      Moves s (.request (.listen handle)) { s with signal := s.signal.listen }
  | cloneHandle {handle : Nat} : s.signal.isAlive handle = true →
      Moves s (.request (.cloneHandle handle)) { s with signal := s.signal.cloneHandle }
  | dropHandle {handle : Nat} : s.signal.isAlive handle = true →
      Moves s (.request (.dropHandle handle)) { s with signal := s.signal.dropHandle handle }
  | cloneListener {listener receiver : Nat} : s.signal.listeners[listener]? = some receiver →
      Moves s (.request (.cloneListener listener))
        { s with signal := s.signal.cloneListener receiver }
  | advance {index : Nat} {task next : Task} {signal : Signal} : s.calls[index]? = some task →
      Task.Steps s.signal task next signal →
      Moves s (.advance index) ⟨signal, s.calls.set index next⟩

theorem Session.moves_of_apply {s after : Session} {move : Move} (h : s.apply move = some after) :
    s.Moves move after := by
  cases move with
  | advance index =>
    simp only [apply] at h
    split at h
    · cases h
    · next task hTask =>
      obtain ⟨⟨next, signal, lines⟩, hStep, rfl⟩ := Option.map_eq_some_iff.1 h
      exact .advance hTask (Task.steps_of_step hStep)
  | request request =>
    cases request with
    | shutdown handle =>
      obtain ⟨hAlive, hSome⟩ := Option.ite_none_right_eq_some.1 h
      exact Option.some.inj hSome ▸ .shutdown hAlive
    | wait listener =>
      obtain ⟨receiver, hListener, rfl⟩ := Option.map_eq_some_iff.1 h
      exact .wait hListener
    | listen handle =>
      cases hAlive : s.signal.isAlive handle <;>
        simp [apply, Session.request, Request.serve, Request.viaHandle, hAlive] at h
      exact h ▸ .listen hAlive
    | cloneHandle handle =>
      cases hAlive : s.signal.isAlive handle <;>
        simp [apply, Session.request, Request.serve, Request.viaHandle, hAlive] at h
      exact h ▸ .cloneHandle hAlive
    | dropHandle handle =>
      cases hAlive : s.signal.isAlive handle <;>
        simp [apply, Session.request, Request.serve, Request.viaHandle, hAlive] at h
      exact h ▸ .dropHandle hAlive
    | cloneListener listener =>
      cases hListener : s.signal.listeners[listener]? <;>
        simp [apply, Session.request, Request.serve, Request.viaListener, hListener] at h
      exact h ▸ .cloneListener hListener

/-- A call stays as it is until it takes a step of its own. -/
theorem Session.Moves.call {s after : Session} {move : Move} (hMove : s.Moves move after)
    {index : Nat} {task : Task} (hTask : s.calls[index]? = some task) :
    after.calls[index]? = some task ∨ ∃ next signal,
      after = ⟨signal, s.calls.set index next⟩ ∧ Task.Steps s.signal task next signal := by
  have hIndex := (List.getElem?_eq_some_iff.1 hTask).1
  cases hMove with
  | shutdown | wait => exact .inl ((List.getElem?_append_left hIndex).trans hTask)
  | listen | cloneHandle | dropHandle | cloneListener => exact .inl hTask
  | @advance other moved next signal hMoved hStep =>
    by_cases hSame : other = index
    · subst hSame
      obtain rfl := Option.some.inj (hTask.symm.trans hMoved)
      exact .inr ⟨next, signal, rfl, hStep⟩
    · exact .inl ((List.getElem?_set_ne hSame).trans hTask)

/-! ## Who waits where -/

namespace Task

/-- The receiver of a call that waits. -/
def receiver? : Task → Option Nat
  | checking receiver | locking receiver | receiving receiver => some receiver
  | raising | announcing | returned => none

/-- The call has looked at the flag and now waits for a message at this receiver. -/
def waitsAt (receiver : Nat) (task : Task) : Bool :=
  task = .locking receiver ∨ task = .receiving receiver

theorem receiver?_of_waitsAt {task : Task} {receiver : Nat} (h : task.waitsAt receiver = true) :
    task.receiver? = some receiver := by
  have hCases : task = .locking receiver ∨ task = .receiving receiver := by
    simpa [waitsAt] using h
  rcases hCases with rfl | rfl <;> rfl

/-- A step does not lead a call to another receiver, and no receiver goes. -/
theorem Steps.receiver? {s after : Signal} {task next : Task} (h : Steps s task next after)
    {receiver : Nat} (hNext : next.receiver? = some receiver) :
    task.receiver? = some receiver := by
  cases h <;> first | exact hNext | cases hNext

theorem Steps.length {s after : Signal} {task next : Task} (h : Steps s task next after) :
    after.receivers.length = s.receivers.length := by
  cases h <;> simp [Signal.raise]

theorem Steps.listeners {s after : Signal} {task next : Task} (h : Steps s task next after) :
    after.listeners = s.listeners := by
  cases h <;> rfl

theorem Steps.handles {s after : Signal} {task next : Task} (h : Steps s task next after) :
    after.handles = s.handles := by
  cases h <;> rfl

theorem Steps.raised {s after : Signal} {task next : Task} (h : Steps s task next after)
    (hRaised : s.raised = true) : after.raised = true := by
  cases h <;> first | exact hRaised | rfl

/-- Only a call that shuts down raises the flag, and then it has yet to send the message. -/
theorem Steps.raises {s after : Signal} {task next : Task} (h : Steps s task next after)
    (hBefore : s.raised = false) (hAfter : after.raised = true) :
    task = .raising ∧ next = .announcing := by
  cases h with
  | raise => exact ⟨rfl, rfl⟩
  | again | seen | unheard | announce | pass | lock | take | desert =>
    exact absurd (hBefore.symm.trans hAfter) (by simp)

/-- Once the flag has been raised nobody begins to wait. -/
theorem Steps.waitsAt {s after : Signal} {task next : Task} (h : Steps s task next after)
    (hRaised : s.raised = true) {receiver : Nat} (hNext : next.waitsAt receiver = true) :
    task.waitsAt receiver = true := by
  cases h with
  | pass hClear => exact absurd (hRaised.symm.trans hClear) (by simp)
  | lock => simpa [Task.waitsAt] using hNext
  | again | raise | unheard | announce | seen | take | desert => cases hNext

theorem Steps.le_pending {s after : Signal} {task next : Task} (h : Steps s task next after)
    {receiver : Nat} (hRange : receiver < s.receivers.length)
    (hOther : task ≠ .receiving receiver) : s.pending receiver ≤ after.pending receiver := by
  cases h with
  | again | raise | unheard | seen | pass => exact Nat.le_refl _
  | announce => exact Signal.pending_broadcast hRange ▸ Nat.le_succ _
  | lock | desert => simp
  | @take k _ =>
    have hNe : k ≠ receiver := fun hEq ↦ hOther (by rw [hEq])
    simp [Signal.pending_takeMessage, hNe]

theorem Steps.pending_pos {s after : Signal} {next : Task} (h : Steps s .announcing next after)
    {receiver : Nat} (hRange : receiver < s.receivers.length) : 0 < after.pending receiver := by
  cases h with
  | unheard hNobody =>
    rw [hNobody] at hRange
    cases hRange
  | announce => exact Signal.pending_broadcast hRange ▸ Nat.succ_pos _

/-- Who receives and goes on has returned. -/
theorem Steps.returned_of_receiving {s after : Signal} {next : Task} {receiver : Nat}
    (h : Steps s (.receiving receiver) next after) : next = .returned := by
  cases h <;> rfl

end Task

namespace Session

/-- How many calls wait for a message at this receiver. -/
def waiting (s : Session) (receiver : Nat) : Nat := s.calls.countP (Task.waitsAt receiver)

/-- Listeners and waits have a receiver, and a lock is held by the call that receives there. -/
structure Coherent (s : Session) : Prop where
  listeners : ∀ receiver ∈ s.signal.listeners, receiver < s.signal.receivers.length
  calls : ∀ task ∈ s.calls, ∀ receiver ∈ task.receiver?, receiver < s.signal.receivers.length
  locks : ∀ receiver, s.signal.isLocked receiver = true → .receiving receiver ∈ s.calls

theorem coherent_fresh : fresh.Coherent :=
  ⟨by simp [fresh, Signal.fresh], by simp [fresh], by simp [fresh, Signal.fresh, Signal.isLocked]⟩

theorem mem_set_of_ne {calls : List Task} {index : Nat} {task other next : Task}
    (hTask : calls[index]? = some task) (hMem : other ∈ calls) (hNe : other ≠ task) :
    other ∈ calls.set index next := by
  obtain ⟨k, hk⟩ := List.mem_iff_getElem?.1 hMem
  refine List.mem_of_getElem? (i := k) ?_
  rw [List.getElem?_set_ne]
  · exact hk
  · rintro rfl
    exact hNe (Option.some.inj (hk.symm.trans hTask))

theorem mem_set_self {calls : List Task} {index : Nat} {task : Task}
    (hTask : calls[index]? = some task) (next : Task) : next ∈ calls.set index next :=
  List.mem_set (List.getElem?_eq_some_iff.1 hTask).1 next

theorem Coherent.locks_set {s : Session} (h : s.Coherent) {index : Nat} {task next : Task}
    {signal : Signal} (hTask : s.calls[index]? = some task)
    (hStep : Task.Steps s.signal task next signal) (receiver : Nat)
    (hLocked : signal.isLocked receiver = true) :
    .receiving receiver ∈ s.calls.set index next := by
  have hKept (hOld : s.signal.isLocked receiver = true) (hNe : .receiving receiver ≠ task) :
      .receiving receiver ∈ s.calls.set index next :=
    mem_set_of_ne hTask (h.locks receiver hOld) hNe
  have hRange : ∀ k ∈ task.receiver?, k < s.signal.receivers.length :=
    h.calls task (List.mem_of_getElem? hTask)
  cases hStep with
  | again | raise | unheard | seen | pass => exact hKept hLocked (by simp)
  | announce => exact hKept (by simpa using hLocked) (by simp)
  | @lock k =>
    rw [Signal.isLocked_setLock _ _ _ _ (hRange k rfl)] at hLocked
    split at hLocked
    · next hEq => exact hEq ▸ mem_set_self hTask _
    · exact hKept hLocked (by simp)
  | @take k | @desert k =>
    rw [Signal.isLocked_setLock _ _ _ _ (by simpa using hRange k rfl)] at hLocked
    split at hLocked
    · cases hLocked
    · next hNe => exact hKept (by simpa using hLocked) (by simpa using Ne.symm hNe)

theorem Coherent.moves {s after : Session} {move : Move} (h : s.Coherent)
    (hMove : s.Moves move after) : after.Coherent := by
  cases hMove with
  | shutdown =>
    refine ⟨h.listeners, ?_, fun receiver hLocked ↦ List.mem_append_left _ (h.locks _ hLocked)⟩
    intro task hMem
    rcases List.mem_append.1 hMem with hMem | hMem
    · exact h.calls task hMem
    · obtain rfl := List.mem_singleton.1 hMem
      simp [Task.receiver?]
  | @wait listener receiver hListener =>
    refine ⟨h.listeners, ?_, fun receiver hLocked ↦ List.mem_append_left _ (h.locks _ hLocked)⟩
    intro task hMem
    rcases List.mem_append.1 hMem with hMem | hMem
    · exact h.calls task hMem
    · obtain rfl := List.mem_singleton.1 hMem
      rintro _ ⟨⟩
      exact h.listeners receiver (List.mem_of_getElem? hListener)
  | listen =>
    have hLength : s.signal.listen.receivers.length = s.signal.receivers.length + 1 := by
      simp [Signal.listen]
    refine ⟨fun receiver hMem ↦ ?_, fun task hMem receiver hReceiver ↦ ?_,
      fun receiver hLocked ↦ ?_⟩
    · rcases List.mem_append.1 hMem with hMem | hMem
      · exact hLength ▸ Nat.lt_succ_of_lt (h.listeners receiver hMem)
      · obtain rfl := List.mem_singleton.1 hMem
        exact hLength ▸ Nat.lt_succ_self _
    · exact hLength ▸ Nat.lt_succ_of_lt (h.calls task hMem receiver hReceiver)
    · exact h.locks receiver (by simpa using hLocked)
  | cloneHandle | dropHandle => exact ⟨h.listeners, h.calls, h.locks⟩
  | @cloneListener listener receiver hListener =>
    refine ⟨fun k hMem ↦ ?_, h.calls, h.locks⟩
    rcases List.mem_append.1 hMem with hMem | hMem
    · exact h.listeners k hMem
    · obtain rfl := List.mem_singleton.1 hMem
      exact h.listeners _ (List.mem_of_getElem? hListener)
  | @advance index task next signal hTask hStep =>
    refine ⟨fun receiver hMem ↦ ?_, fun other hMem receiver hReceiver ↦ ?_, h.locks_set hTask hStep⟩
    · exact hStep.length ▸ h.listeners receiver (hStep.listeners ▸ hMem)
    · rw [hStep.length]
      rcases List.mem_or_eq_of_mem_set hMem with hMem | rfl
      · exact h.calls other hMem receiver hReceiver
      · exact h.calls task (List.mem_of_getElem? hTask) receiver (hStep.receiver? hReceiver)

/-! ## A receiver whose message is gone -/

/-- No message will come to this receiver as long as a handle is left: the signal has been raised
and sent, and what it brought has been taken. -/
structure IsSpent (s : Session) (receiver : Nat) : Prop where
  raised : s.signal.raised = true
  announced : .announcing ∉ s.calls
  taken : s.signal.pending receiver = 0
  handle : s.signal.hasHandle = true

theorem IsSpent.moves {s after : Session} {move : Move} {receiver : Nat} (h : s.IsSpent receiver)
    (hMove : s.Moves move after) (hKeep : ∀ handle, move ≠ .request (.dropHandle handle)) :
    after.IsSpent receiver := by
  have hAnnounced (task : Task) (hTask : task ≠ .announcing) : .announcing ∉ s.calls ++ [task] := by
    simpa [h.announced] using hTask.symm
  cases hMove with
  | shutdown => exact ⟨h.raised, hAnnounced _ (by simp), h.taken, h.handle⟩
  | wait => exact ⟨h.raised, hAnnounced _ (by simp), h.taken, h.handle⟩
  | listen => exact ⟨h.raised, h.announced, by rw [Signal.pending_listen, h.taken], h.handle⟩
  | cloneHandle =>
    exact ⟨h.raised, h.announced, h.taken, by simp [Signal.hasHandle, Signal.cloneHandle]⟩
  | dropHandle => exact absurd rfl (hKeep _)
  | cloneListener => exact ⟨h.raised, h.announced, h.taken, h.handle⟩
  | @advance index task next signal hTask hStep =>
    have hHandle : signal.hasHandle = true := by
      rw [Signal.hasHandle, hStep.handles]
      exact h.handle
    have hPending : signal.pending receiver = 0 := by
      cases hStep with
      | again | raise | unheard | seen | pass => exact h.taken
      | announce => exact absurd (List.mem_of_getElem? hTask) h.announced
      | lock | desert => rw [Signal.pending_setLock, h.taken]
      | take => rw [Signal.pending_setLock, Signal.pending_takeMessage, h.taken]; simp
    refine ⟨hStep.raised h.raised, fun hMem ↦ ?_, hPending, hHandle⟩
    rcases List.mem_or_eq_of_mem_set hMem with hMem | rfl
    · exact h.announced hMem
    · cases hStep with
      | raise hClear => exact absurd (h.raised.symm.trans hClear) (by simp)

/-- What waits at a spent receiver goes on waiting. -/
theorem IsSpent.waitsAt {s after : Session} {move : Move} {receiver : Nat}
    (h : s.IsSpent receiver) (hMove : s.Moves move after) {index : Nat} {task : Task}
    (hTask : s.calls[index]? = some task) (hWaits : task.waitsAt receiver = true) :
    ∃ next, after.calls[index]? = some next ∧ next.waitsAt receiver = true := by
  rcases hMove.call hTask with hSame | ⟨next, signal, rfl, hStep⟩
  · exact ⟨task, hSame, hWaits⟩
  · refine ⟨next, List.getElem?_set_self (List.getElem?_eq_some_iff.1 hTask).1, ?_⟩
    have hCases : task = .locking receiver ∨ task = .receiving receiver := by
      simpa [Task.waitsAt] using hWaits
    rcases hCases with rfl | rfl
    · cases hStep with
      | lock => simp [Task.waitsAt]
    · cases hStep with
      | take hPending => exact absurd h.taken (Nat.ne_of_gt hPending)
      | desert _ hGone => exact absurd (h.handle.symm.trans hGone) (by simp)

/-- Whatever happens, a wait at a spent receiver does not return before the last handle has gone. -/
theorem IsSpent.applyAll {s last : Session} {moves : List Move} {receiver : Nat}
    (h : s.IsSpent receiver) (hAll : s.applyAll moves = some last)
    (hKeep : ∀ handle, .request (.dropHandle handle) ∉ moves) {index : Nat} {task : Task}
    (hTask : s.calls[index]? = some task) (hWaits : task.waitsAt receiver = true) :
    ∃ next, last.calls[index]? = some next ∧ next.waitsAt receiver = true := by
  induction moves generalizing s task with
  | nil =>
    obtain rfl := Option.some.inj hAll
    exact ⟨task, hTask, hWaits⟩
  | cons move moves ih =>
    obtain ⟨middle, hMove, hRest⟩ := Option.bind_eq_some_iff.1 hAll
    have hMoves := moves_of_apply hMove
    obtain ⟨next, hNext, hNextWaits⟩ := h.waitsAt hMoves hTask hWaits
    have hFirst : ∀ handle, move ≠ .request (.dropHandle handle) := fun handle hEq ↦
      hKeep handle (hEq ▸ List.mem_cons_self)
    exact ih (h.moves hMoves hFirst) hRest
      (fun handle hMem ↦ hKeep handle (List.mem_cons_of_mem _ hMem)) hNext hNextWaits

/-! ## One wait at a time -/

/-- Sessions in which at no time two calls wait at one receiver. -/
inductive Orderly : Session → Prop
  | fresh : Orderly fresh
  | move {s after : Session} {move : Move} : Orderly s → s.apply move = some after →
      (∀ receiver, after.waiting receiver ≤ 1) → Orderly after

theorem Orderly.waiting_le {s : Session} (h : s.Orderly) (receiver : Nat) :
    s.waiting receiver ≤ 1 := by
  cases h with
  | fresh => simp [waiting, Session.fresh]
  | move _ _ hOne => exact hOne receiver

theorem Orderly.coherent {s : Session} (h : s.Orderly) : s.Coherent := by
  induction h with
  | fresh => exact coherent_fresh
  | move _ hMove _ ih => exact ih.moves (moves_of_apply hMove)

/-- A step takes its call out of a count and puts what is left of it back in. -/
theorem countP_set_add {calls : List Task} {index : Nat} {task : Task}
    (hTask : calls[index]? = some task) (next : Task) (p : Task → Bool) :
    (calls.set index next).countP p + (if p task = true then 1 else 0) =
      calls.countP p + (if p next = true then 1 else 0) := by
  obtain ⟨hIndex, rfl⟩ := List.getElem?_eq_some_iff.1 hTask
  have hOne := List.boole_getElem_le_countP (p := p) hIndex
  rw [List.countP_set hIndex]
  omega

theorem waiting_set {s : Session} {index : Nat} {task : Task}
    (hTask : s.calls[index]? = some task) (next : Task) (signal : Signal) (receiver : Nat) :
    waiting ⟨signal, s.calls.set index next⟩ receiver +
        (if task.waitsAt receiver = true then 1 else 0) =
      s.waiting receiver + (if next.waitsAt receiver = true then 1 else 0) :=
  countP_set_add hTask next (Task.waitsAt receiver)

/-- Whoever waits although the signal has been raised has a message or is about to get one. -/
def IsHeard (s : Session) : Prop :=
  s.signal.raised = true → ∀ receiver, 0 < s.waiting receiver →
    0 < s.signal.pending receiver ∨ .announcing ∈ s.calls

theorem Coherent.lt_length {s : Session} (h : s.Coherent) {receiver : Nat}
    (hWaiting : 0 < s.waiting receiver) : receiver < s.signal.receivers.length := by
  obtain ⟨task, hMem, hWaits⟩ := List.countP_pos_iff.1 hWaiting
  exact h.calls task hMem receiver (Task.receiver?_of_waitsAt hWaits)

theorem waiting_call (s : Session) {task : Task} (hTask : ∀ receiver, task.waitsAt receiver = false)
    (receiver : Nat) : (s.call task).waiting receiver = s.waiting receiver := by
  simp [waiting, call, List.countP_append, hTask]

/-- The message may be taken away from a receiver, but only by the one call that waited there. -/
theorem IsHeard.moves {s after : Session} {move : Move} (h : s.IsHeard) (hCoherent : s.Coherent)
    (hOne : ∀ receiver, s.waiting receiver ≤ 1) (hMove : s.Moves move after) : after.IsHeard := by
  intro hRaised receiver hWaiting
  cases hMove with
  | shutdown =>
    rw [waiting_call s fun _ ↦ rfl] at hWaiting
    exact (h hRaised receiver hWaiting).imp_right (List.mem_append_left _)
  | wait =>
    rw [waiting_call s fun _ ↦ rfl] at hWaiting
    exact (h hRaised receiver hWaiting).imp_right (List.mem_append_left _)
  | listen =>
    rw [Signal.pending_listen]
    exact h hRaised receiver hWaiting
  | cloneHandle | dropHandle | cloneListener => exact h hRaised receiver hWaiting
  | @advance index task next signal hTask hStep =>
    cases hClear : s.signal.raised with
    | false =>
      obtain ⟨rfl, rfl⟩ := hStep.raises hClear hRaised
      exact .inr (mem_set_self hTask _)
    | true =>
      have hCount := waiting_set hTask next signal receiver
      have hBefore : 0 < s.waiting receiver := by
        by_cases hNext : next.waitsAt receiver = true
        · rw [if_pos hNext, if_pos (hStep.waitsAt hClear hNext)] at hCount
          omega
        · rw [if_neg hNext] at hCount
          omega
      have hRange := hCoherent.lt_length hBefore
      by_cases hTakes : task = .receiving receiver
      · -- The only one who waits here takes the message, so nobody is left.
        subst hTakes
        obtain rfl := hStep.returned_of_receiving
        rw [if_pos (by simp [Task.waitsAt]), if_neg (by simp [Task.waitsAt])] at hCount
        have hFew := hOne receiver
        omega
      · by_cases hAnnounces : task = .announcing
        · subst hAnnounces
          exact .inl (hStep.pending_pos hRange)
        · rcases h hClear receiver hBefore with hPending | hAnnounced
          · exact .inl (Nat.lt_of_lt_of_le hPending (hStep.le_pending hRange hTakes))
          · exact .inr (mem_set_of_ne hTask hAnnounced (Ne.symm hAnnounces))

theorem Orderly.isHeard {s : Session} (h : s.Orderly) : s.IsHeard := by
  induction h with
  | fresh =>
    intro hRaised
    cases hRaised
  | move hBefore hMove _ ih =>
    exact ih.moves hBefore.coherent hBefore.waiting_le (moves_of_apply hMove)

/-- Who waits alone at a receiver finds it unlocked. -/
theorem isLocked_eq_false {s : Session} (hCoherent : s.Coherent) {receiver : Nat}
    (hOne : s.waiting receiver ≤ 1) {index : Nat}
    (hTask : s.calls[index]? = some (.locking receiver)) : s.signal.isLocked receiver = false := by
  cases hLocked : s.signal.isLocked receiver with
  | false => rfl
  | true =>
    have hCount := waiting_set hTask .returned s.signal receiver
    have hOther : .receiving receiver ∈ s.calls.set index .returned :=
      mem_set_of_ne hTask (hCoherent.locks receiver hLocked) (by simp)
    have hTwo : 0 < waiting ⟨s.signal, s.calls.set index .returned⟩ receiver :=
      List.countP_pos_iff.2 ⟨_, hOther, by simp [Task.waitsAt]⟩
    rw [if_pos (by simp [Task.waitsAt]), if_neg (by simp [Task.waitsAt])] at hCount
    omega

/-! ## Returning -/

/-- The call can return after some moves, all of them allowed. -/
def CanReturn (allowed : Move → Prop) (s : Session) (index : Nat) : Prop :=
  ∃ moves last, s.applyAll moves = some last ∧ (∀ move ∈ moves, allowed move) ∧
    last.calls[index]? = some .returned

theorem CanReturn.of_returned {allowed : Move → Prop} {s : Session} {index : Nat}
    (h : s.calls[index]? = some .returned) : s.CanReturn allowed index :=
  ⟨[], s, rfl, by simp, h⟩

theorem CanReturn.advance {allowed : Move → Prop} {s : Session} {index call : Nat}
    {task next : Task} {signal : Signal} {lines : List LogLine} (hAllowed : allowed (.advance call))
    (hTask : s.calls[call]? = some task) (hStep : task.step s.signal = some (next, signal, lines))
    (h : CanReturn allowed ⟨signal, s.calls.set call next⟩ index) : s.CanReturn allowed index := by
  obtain ⟨moves, last, hAll, hMoves, hReturned⟩ := h
  have hFirst : s.apply (.advance call) = some ⟨signal, s.calls.set call next⟩ := by
    simp [apply, hTask, hStep]
  refine ⟨.advance call :: moves, last, ?_, List.forall_mem_cons.2 ⟨hAllowed, hMoves⟩, hReturned⟩
  rw [applyAll, hFirst]
  exact hAll

theorem set_returned {calls : List Task} {index : Nat} {task : Task}
    (h : calls[index]? = some task) : (calls.set index .returned)[index]? = some .returned :=
  List.getElem?_set_self (List.getElem?_eq_some_iff.1 h).1

theorem canReturn_receiving {allowed : Move → Prop} {s : Session} {index receiver : Nat}
    (hAllowed : allowed (.advance index)) (hTask : s.calls[index]? = some (.receiving receiver))
    (hPending : 0 < s.signal.pending receiver) : s.CanReturn allowed index := by
  apply CanReturn.advance hAllowed hTask (by rw [Task.step, if_pos hPending])
  exact .of_returned (set_returned hTask)

/-- A wait that has a message returns by steps of its own. -/
theorem canReturn_of_pending {allowed : Move → Prop} {s : Session} (hCoherent : s.Coherent)
    {receiver index : Nat} {task : Task} (hAllowed : allowed (.advance index))
    (hOne : s.waiting receiver ≤ 1) (hTask : s.calls[index]? = some task)
    (hWaits : task.waitsAt receiver = true) (hPending : 0 < s.signal.pending receiver) :
    s.CanReturn allowed index := by
  have hCases : task = .locking receiver ∨ task = .receiving receiver := by
    simpa [Task.waitsAt] using hWaits
  rcases hCases with rfl | rfl
  · have hFree : ¬ s.signal.isLocked receiver = true := by
      simp [isLocked_eq_false hCoherent hOne hTask]
    apply CanReturn.advance hAllowed hTask (by rw [Task.step, if_neg hFree])
    have hNext : (s.calls.set index (.receiving receiver))[index]? = some (.receiving receiver) :=
      List.getElem?_set_self (List.getElem?_eq_some_iff.1 hTask).1
    exact canReturn_receiving hAllowed hNext (by simpa using hPending)
  · exact canReturn_receiving hAllowed hTask hPending

/-- A step of the call itself, or of one that is about to send the message. -/
def IsDue (s : Session) (index : Nat) (move : Move) : Prop :=
  move = .advance index ∨ ∃ call, move = .advance call ∧ s.calls[call]? = some .announcing

theorem canReturn_of_waitsAt {s : Session} (h : s.Orderly) (hRaised : s.signal.raised = true)
    {receiver index : Nat} {task : Task} (hTask : s.calls[index]? = some task)
    (hWaits : task.waitsAt receiver = true) : s.CanReturn (s.IsDue index) index := by
  have hWaiting : 0 < s.waiting receiver :=
    List.countP_pos_iff.2 ⟨task, List.mem_of_getElem? hTask, hWaits⟩
  have hFew := h.waiting_le receiver
  rcases h.isHeard hRaised receiver hWaiting with hPending | hAnnounced
  · exact canReturn_of_pending h.coherent (.inl rfl) hFew hTask hWaits hPending
  · obtain ⟨call, hCall⟩ := List.mem_iff_getElem?.1 hAnnounced
    have hRange := h.coherent.lt_length hWaiting
    have hSome : s.signal.receivers ≠ [] := List.ne_nil_of_length_pos (Nat.zero_lt_of_lt hRange)
    have hNe : call ≠ index := by
      rintro rfl
      obtain rfl := Option.some.inj (hTask.symm.trans hCall)
      cases hWaits
    have hMove := Moves.advance hCall (.announce hSome)
    have hCount := waiting_set hCall .returned s.signal.broadcast receiver
    rw [if_neg (by simp [Task.waitsAt]), if_neg (by simp [Task.waitsAt])] at hCount
    apply CanReturn.advance (.inr ⟨call, rfl, hCall⟩) hCall (by rw [Task.step, if_neg hSome])
    have hPending : 0 < s.signal.broadcast.pending receiver :=
      Signal.pending_broadcast hRange ▸ Nat.succ_pos _
    exact canReturn_of_pending (h.coherent.moves hMove) (.inl rfl) (by omega)
      ((List.getElem?_set_ne hNe).trans hTask) hWaits hPending

/-- Once the signal has been raised, a wait that at no time shared its receiver with another one can
return: nothing is needed but steps of its own, and at most the message that is about to be sent. -/
theorem wait_returns {s : Session} (h : s.Orderly) (hRaised : s.signal.raised = true)
    {index receiver : Nat} {task : Task} (hTask : s.calls[index]? = some task)
    (hReceiver : task.receiver? = some receiver) : s.CanReturn (s.IsDue index) index := by
  cases task with
  | checking k =>
    apply CanReturn.advance (.inl rfl) hTask (by rw [Task.step, if_pos hRaised])
    exact .of_returned (set_returned hTask)
  | locking k | receiving k =>
    obtain rfl := Option.some.inj hReceiver
    exact canReturn_of_waitsAt h hRaised hTask (show Task.waitsAt k _ = true by simp [Task.waitsAt])
  | raising | announcing | returned => cases hReceiver

theorem waiting_le_of_countP {s : Session}
    (h : s.calls.countP (fun task ↦ task.receiver?.isSome) ≤ 1) (receiver : Nat) :
    s.waiting receiver ≤ 1 := by
  refine Nat.le_trans (List.countP_mono_left fun task _ hWaits ↦ ?_) h
  simp [Task.receiver?_of_waitsAt hWaits]

/-- The flag has been raised after a wait looked at it, and the message has not been sent yet. -/
def overtaken : Session := ⟨⟨true, 0, [true], [⟨0, false⟩], [0]⟩, [.locking 0, .announcing]⟩

theorem orderly_overtaken : overtaken.Orderly := by
  have hFew (calls : List Task) (h : calls.countP (fun task ↦ task.receiver?.isSome) ≤ 1)
      (signal : Signal) : ∀ receiver, waiting ⟨signal, calls⟩ receiver ≤ 1 :=
    waiting_le_of_countP h
  have hListen : fresh.apply (.request (.listen 0)) = some ⟨Signal.fresh.listen, []⟩ := rfl
  have hWait : apply ⟨Signal.fresh.listen, []⟩ (.request (.wait 0)) =
      some ⟨Signal.fresh.listen, [.checking 0]⟩ := rfl
  have hPass : apply ⟨Signal.fresh.listen, [.checking 0]⟩ (.advance 0) =
      some ⟨Signal.fresh.listen, [.locking 0]⟩ := rfl
  have hShutdown : apply ⟨Signal.fresh.listen, [.locking 0]⟩ (.request (.shutdown 0)) =
      some ⟨Signal.fresh.listen, [.locking 0, .raising]⟩ := rfl
  have hRaise : apply ⟨Signal.fresh.listen, [.locking 0, .raising]⟩ (.advance 1) =
      some overtaken := rfl
  have hChecked := (Orderly.fresh.move hListen (hFew _ (by decide) _)).move hWait
    (hFew _ (by decide) _)
  have hCalled := (hChecked.move hPass (hFew _ (by decide) _)).move hShutdown
    (hFew _ (by decide) _)
  exact hCalled.move hRaise (hFew _ (by decide) _)

theorem wait_returns_overtaken : overtaken.Orderly ∧ overtaken.signal.raised = true ∧
    overtaken.calls[0]? = some (.locking 0) ∧ (Task.locking 0).receiver? = some 0 ∧
      overtaken.CanReturn (overtaken.IsDue 0) 0 :=
  ⟨orderly_overtaken, rfl, rfl, rfl, wait_returns orderly_overtaken rfl rfl rfl⟩

/-- Two copies of a listener look at the flag, and one of them takes the lock of the receiver they
share, before the signal is raised and its message sent and taken. -/
def twins : List Move := [
  .request (.listen 0), .request (.cloneListener 0), .request (.wait 0), .request (.wait 1),
  .advance 0, .advance 1, .advance 0, .request (.shutdown 0), .advance 2, .advance 2, .advance 0]

/-- The call that shut down has returned and the handle is still there, yet the second twin does not
return, whatever happens short of dropping handles. -/
theorem overlooked_twins : ∃ s, fresh.applyAll twins = some s ∧
    s.calls = [.returned, .locking 0, .returned] ∧ s.signal.hasHandle = true ∧
      ∀ moves last, (∀ handle, .request (.dropHandle handle) ∉ moves) →
        s.applyAll moves = some last → last.calls[1]? ≠ some .returned := by
  refine ⟨⟨⟨true, 1, [true], [⟨0, false⟩], [0, 0]⟩, [.returned, .locking 0, .returned]⟩,
    rfl, rfl, rfl, fun moves last hKeep hAll hReturned ↦ ?_⟩
  have hSpent : IsSpent ⟨⟨true, 1, [true], [⟨0, false⟩], [0, 0]⟩,
      [.returned, .locking 0, .returned]⟩ 0 := ⟨rfl, by decide, rfl, rfl⟩
  have hTwin : [Task.returned, .locking 0, .returned][1]? = some (.locking 0) := rfl
  obtain ⟨next, hNext, hWaits⟩ := hSpent.applyAll hAll hKeep hTwin rfl
  obtain rfl := Option.some.inj (hReturned.symm.trans hNext)
  cases hWaits

end Session

end StorefrontLoad.Shutdown
