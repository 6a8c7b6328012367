import StorefrontLoad.Proofs.Outcome.Snapshot

/-!
# One step ahead of another

Some steps are only tried after another one has succeeded. Recorders that keep to this keep the
successes of the one step ahead of the attempts of the other at every moment, even between two
changes of one record. A snapshot is no moment: it copies one step after the other. What it tells
lies between the counters at its beginning and those at its end, and no more can be said of it.
-/

namespace StorefrontLoad.Contention

/-! ## At every moment -/

/-- Wherever the calls are cut off, `follow` has not been attempted more often than `lead` has
succeeded. -/
def Leads (lead follow : String) (calls : List Call) : Prop :=
  ∀ first, first <+: calls → first.countP (Call.counts follow .attempted) ≤
    first.countP (Call.counts lead (.category .succeeded))

section Lead

variable {lead follow : String}

theorem Call.counts_of_ne (hNe : lead ≠ follow) {call : Call} {word other : Word}
    (h : call.counts follow word = true) : call.counts lead other = false := by
  cases call with
  | record name kind latency =>
    obtain rfl : name = follow := by
      simp only [counts, Bool.decide_and, Bool.and_eq_true, decide_eq_true_eq] at h
      exact h.1
    simp [counts, hNe.symm]
  | touch | countIteration => cases h

theorem Hand.countP_of_ne (hNe : lead ≠ follow) (hand : Hand) (word other : Word) :
    hand.calls.countP (Call.counts follow word) = 0 ∨
      hand.calls.countP (Call.counts lead other) = 0 := by
  cases hand with
  | empty => exact .inl rfl
  | seeking call | filling call made =>
    cases hCounts : call.counts follow word with
    | false => exact .inl (by simp [calls, hCounts])
    | true => exact .inr (by simp [calls, Call.counts_of_ne hNe hCounts])

/-- While the step that follows is recorded, all that it follows is done. -/
theorem Agenda.count_le_of_leads (hNe : lead ≠ follow) {g : Agenda}
    (h : Leads lead follow g.calls) :
    g.count follow .attempted ≤ g.count lead (.category .succeeded) := by
  have hHand := g.hand.count_le follow .attempted
  rcases g.hand.countP_of_ne hNe .attempted (.category .succeeded) with hFollow | hLead
  · have hDone : g.done <+: g.calls := by
      rw [calls, List.append_assoc]
      exact List.prefix_append _ _
    have hNone : g.hand.count follow .attempted = 0 := Nat.le_zero.1 (hHand.trans_eq hFollow)
    calc g.count follow .attempted
        = g.done.countP (Call.counts follow .attempted) := by
          rw [count, hNone, Nat.add_zero]
      _ ≤ g.done.countP (Call.counts lead (.category .succeeded)) := h _ hDone
      _ ≤ g.count lead (.category .succeeded) := Nat.le_add_right _ _
  · have hCalls : g.done ++ g.hand.calls <+: g.calls := List.prefix_append _ _
    calc g.count follow .attempted
        ≤ (g.done ++ g.hand.calls).countP (Call.counts follow .attempted) := by
          rw [List.countP_append]
          exact Nat.add_le_add_left hHand _
      _ ≤ (g.done ++ g.hand.calls).countP (Call.counts lead (.category .succeeded)) := h _ hCalls
      _ = g.done.countP (Call.counts lead (.category .succeeded)) := by
          rw [List.countP_append, hLead, Nat.add_zero]
      _ ≤ g.count lead (.category .succeeded) := Nat.le_add_right _ _

theorem total_le_of_leads (hNe : lead ≠ follow) {gs : List Agenda}
    (h : ∀ g ∈ gs, Leads lead follow g.calls) :
    total follow .attempted gs ≤ total lead (.category .succeeded) gs := by
  apply List.sum_le_sum
  intro g hMem
  exact Agenda.count_le_of_leads hNe (h g hMem)

end Lead

/-! ## While a snapshot is taken -/

/-- What the observer with this number would tell lies between two readings. -/
structure State.Watches (lower : String → Reading) (k : Nat) (s : State) : Prop where
  lower_le : ∀ name word, lower name word ≤ readingOf s.memory.counters name word
  between : ∀ o, s.observers[k]? = some o → ∀ name word,
    lower name word ≤ o.outlook s.memory.counters name word ∧
      o.outlook s.memory.counters name word ≤ readingOf s.memory.counters name word

section Watching

variable {s next : State} {gs : List Agenda} {lower : String → Reading} {k : Nat}

theorem State.Watches.moves (h : s.Watches lower k) (hSound : s.IsSound gs) (hFew : AreFew gs)
    (hMoves : s.Moves next) : next.Watches lower k where
  lower_le name word :=
    (h.lower_le name word).trans (hSound.tracks.reading_le hFew hMoves name word)
  between := by
    have hGrows := hSound.tracks.reading_le hFew hMoves
    have hSorted := sorted_counters hSound.tracks.holds.coherent
    cases hMoves with
    | record =>
      intro o hAt name word
      have hOrderly := hSound.orderly o (List.mem_of_getElem? hAt)
      constructor
      · exact (h.between o hAt name word).1.trans (hOrderly.outlook_le (hGrows name) word)
      · exact hOrderly.le_reading (hGrows name) (fun word ↦ (h.between o hAt name word).2) word
    | @look i o after found step =>
      intro other hAt name word
      rw [List.getElem?_set] at hAt
      split at hAt
      · next hEq =>
        subst hEq
        rw [if_pos (List.getElem?_eq_some_iff.1 found).1] at hAt
        obtain rfl := Option.some.inj hAt
        rw [Observer.outlook_step hSorted step]
        exact h.between o found name word
      · exact h.between other hAt name word
    | arrive =>
      intro o hAt name word
      by_cases hOld : k < s.observers.length
      · rw [List.getElem?_append_left hOld] at hAt
        exact h.between o hAt name word
      · obtain rfl : o = .arriving := by
          rw [List.getElem?_append_right (Nat.le_of_not_lt hOld)] at hAt
          exact List.mem_singleton.1 (List.mem_of_getElem? hAt)
        exact ⟨h.lower_le name word, Nat.le_refl _⟩

theorem State.Watches.applyAll (h : s.Watches lower k) (hSound : s.IsSound gs) (hFew : AreFew gs)
    {moves : List Move} (hMoves : s.applyAll moves = some next) : next.Watches lower k := by
  induction moves generalizing s gs with
  | nil =>
    cases hMoves
    exact h
  | cons move moves ih =>
    obtain ⟨middle, hMove, hRest⟩ := Option.bind_eq_some_iff.1 hMoves
    have hStep := State.moves_of_apply hMove
    obtain ⟨gs', hMiddle, hCalls⟩ := hSound.moves hFew hStep
    exact ih (h.moves hSound hFew hStep) hMiddle (hFew.congr hCalls) hRest

/-- An observer that has copied nothing yet will tell no less than there is now. -/
theorem State.watches_of_arriving (hNew : ∀ o, s.observers[k]? = some o → o = .arriving) :
    s.Watches (readingOf s.memory.counters) k where
  lower_le _ _ := Nat.le_refl _
  between o hAt name word := by
    rw [hNew o hAt]
    exact ⟨Nat.le_refl _, Nat.le_refl _⟩

theorem Recorder.step_of_isIdle {r : Recorder} (h : r.isIdle = true) (isTableHeld : Bool)
    (m : Memory) : r.step isTableHeld m = none := by
  unfold isIdle at h
  unfold step
  split at h
  · next hCurrent hLater => rw [hCurrent, hLater]
  · cases h

/-- Nothing changes any more when all recorders are done. -/
theorem State.memory_of_isIdle {moves : List Move} (hIdle : ∀ r ∈ s.recorders, r.isIdle = true)
    (hMoves : s.applyAll moves = some next) : next.memory = s.memory := by
  induction moves generalizing s with
  | nil =>
    cases hMoves
    rfl
  | cons move moves ih =>
    obtain ⟨middle, hMove, hRest⟩ := Option.bind_eq_some_iff.1 hMoves
    cases State.moves_of_apply hMove with
    | @look i o after => exact ih (s := { s with observers := s.observers.set i after }) hIdle hRest
    | arrive => exact ih (s := { s with observers := s.observers ++ [.arriving] }) hIdle hRest
    | record found step =>
      rw [Recorder.step_of_isIdle (hIdle _ (List.mem_of_getElem? found))] at step
      cases step

end Watching

/-! ## In a whole run -/

theorem State.applyAll_append (s : State) (first second : List Move) :
    s.applyAll (first ++ second) = (s.applyAll first).bind (·.applyAll second) := by
  induction first generalizing s with
  | nil => rfl
  | cons move moves ih =>
    rw [List.cons_append, applyAll, applyAll]
    cases s.apply move with
    | none => rfl
    | some next => exact ih next

section Run

variable {lead follow : String} {calls : List (List Call)} {before during : List Move}
  {first last : State}

/-- The agendas of recorders that started with these calls still hold them. -/
theorem State.exists_isSound (hFew : calls.flatten.countP Call.isRecord < 2 ^ 64)
    (h : (State.initial (calls.map (·.map Call.task))).applyAll before = some first) :
    ∃ gs, first.IsSound gs ∧ AreFew gs ∧ gs.map Agenda.calls = calls := by
  have hStart : AreFew (calls.map Agenda.ofCalls) := by rwa [AreFew, flatMap_calls_ofCalls]
  obtain ⟨gs, hSound, hCalls⟩ := (State.isSound_initial calls).applyAll hStart h
  refine ⟨gs, hSound, hStart.congr hCalls, ?_⟩
  rw [hCalls, List.map_map]
  exact (List.map_congr_left fun list _ ↦ Agenda.calls_ofCalls list).trans (List.map_id calls)

/-- At every moment the one step is ahead of the other. -/
theorem State.attempted_le (hNe : lead ≠ follow) (hLeads : ∀ list ∈ calls, Leads lead follow list)
    (hFew : calls.flatten.countP Call.isRecord < 2 ^ 64)
    (h : (State.initial (calls.map (·.map Call.task))).applyAll before = some first) :
    readingOf first.memory.counters follow .attempted ≤
      readingOf first.memory.counters lead (.category .succeeded) := by
  obtain ⟨gs, hSound, hGs, hCalls⟩ := State.exists_isSound hFew h
  have hHolds := hSound.tracks.holds
  rw [hHolds.readingOf_eq hGs, hHolds.readingOf_eq hGs]
  apply total_le_of_leads hNe
  intro g hMem
  exact hLeads g.calls (hCalls ▸ List.mem_map_of_mem hMem)

/-- A snapshot shows the step that follows ahead by no more than the successes that were counted
while it was taken. -/
theorem State.told_attempted_le (hNe : lead ≠ follow)
    (hLeads : ∀ list ∈ calls, Leads lead follow list)
    (hFew : calls.flatten.countP Call.isRecord < 2 ^ 64)
    (hBefore : (State.initial (calls.map (·.map Call.task))).applyAll before = some first)
    (hDuring : first.applyAll during = some last) {k : Nat} {outcome : OutcomeSummary}
    (hNew : ∀ o, first.observers[k]? = some o → o = .arriving)
    (hTold : last.observers[k]? = some (.told outcome)) :
    (outcome.stepOrEmpty follow).attempted.toNat ≤ (outcome.stepOrEmpty lead).succeeded.toNat +
      (readingOf last.memory.counters lead (.category .succeeded) -
        readingOf first.memory.counters lead (.category .succeeded)) := by
  obtain ⟨gs, hSound, hGs, _⟩ := State.exists_isSound hFew hBefore
  have hWatches := (State.watches_of_arriving hNew).applyAll hSound hGs hDuring
  have hAll : (State.initial (calls.map (·.map Call.task))).applyAll (before ++ during) =
      some last := by
    rw [State.applyAll_append, hBefore]
    exact hDuring
  have hLast := State.attempted_le hNe hLeads hFew hAll
  have hTried := (hWatches.between _ hTold follow .attempted).2
  have hChosen := (hWatches.between _ hTold lead (.category .succeeded)).1
  change (outcome.stepOrEmpty follow).attempted.toNat ≤ _ at hTried
  change _ ≤ (outcome.stepOrEmpty lead).succeeded.toNat at hChosen
  omega

end Run

end StorefrontLoad.Contention
