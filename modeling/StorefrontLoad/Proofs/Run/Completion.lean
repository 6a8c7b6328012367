import StorefrontLoad.Proofs.Run.Course

/-!
# Programs that nobody interrupts

A program that runs to its end on its own is the sequence of its parts. What it sends and logs is
what its actions do. The hooks of the scenario itself run this way.
-/

namespace StorefrontLoad.Run

open Storefront (Network)

variable {α β σ : Type}

namespace Program

/-- The second program starts in the world that the first one has left. -/
theorem complete_bind (network : Network σ) (p : Program α) (rest : α → Program β) (w : World σ) :
    (p >>= rest).complete network w =
      (p.complete network w).bind fun (a, after) ↦ (rest a).complete network after := by
  induction p generalizing w with
  | done a => rfl
  | step action next ih =>
    rw [step_bind]
    simp only [complete]
    cases w.perform network none action with
    | none => rfl
    | some taken => exact ih taken.reply taken.world

/-- A program that sends nothing adds nothing to what was sent. -/
theorem posts_of_complete {network : Network σ} {p : Program α} {w after : World σ} {a : α}
    (silent : p.IsSilent) (h : p.complete network w = some (a, after)) :
    after.posts = w.posts := by
  induction p generalizing w with
  | done b =>
    cases h
    rfl
  | step action next ih =>
    simp only [complete] at h
    split at h
    · cases h
    · next taken hTaken =>
      have hPosts := (World.performs_of_perform hTaken).posts
      have hNone := Action.request?_of_isSilent (silent.action taken.reply)
      rw [hNone, Option.toList_none, List.map_nil, List.append_nil] at hPosts
      rw [ih taken.reply (silent.next taken.reply) h, hPosts]

end Program

namespace World

/-- The lines that were logged, earliest first. -/
def lines (w : World σ) : List LogLine := w.events.filterMap Event.line?

theorem lines_note (event : Event) (w : World σ) :
    (w.note event).lines = w.lines ++ event.line?.toList := by
  cases h : event.line? <;> simp [lines, events, note, h]

@[simp] theorem lines_log (line : LogLine) (w : World σ) :
    (w.log line).lines = w.lines ++ [line] :=
  lines_note _ w

@[simp] theorem requests_log (line : LogLine) (w : World σ) :
    (w.log line).requests = w.requests :=
  congrArg (List.map Prod.snd) (Murmurs.log line w).posts

@[simp] theorem counters_log (line : LogLine) (w : World σ) :
    (w.log line).counters = w.counters := rfl

/-- The requests of a history, whoever has sent them. -/
theorem filterMap_request?_events (w : World σ) :
    w.events.filterMap Event.request? = w.requests := by
  have hEvent : Event.request? = fun event ↦ event.post?.map Prod.snd := by
    funext event
    cases event <;> rfl
  rw [requests, posts, List.map_filterMap, hEvent]

end World

/-! ## Hooks of the scenario that send nothing -/

variable {R V : Type}

theorem posts_of_callHook {network : Network σ} {config : RunConfig} {hook : Hook}
    {code : Option (ScenarioHook R)} {shared : R} {w after : World σ} {result : R × Ending}
    (silent : ∀ program, code = some program → (program config shared).IsSilent)
    (h : callHook network config hook code shared w = some (result, after)) :
    after.posts = w.posts := by
  cases code with
  | none =>
    cases h
    rfl
  | some program =>
    have hCalled : (w.note (.called hook)).posts = w.posts :=
      (World.posts_note (.called hook) w).trans (List.append_nil _)
    rw [Program.posts_of_complete (silent program rfl) h, hCalled]

theorem posts_report (reporter : Reporter) (outcome : OutcomeSummary) (w : World σ) :
    (report reporter outcome w).posts = w.posts := by
  cases reporter with
  | inMemory => exact (World.posts_note _ w).trans (List.append_nil _)
  | noop => rfl

theorem posts_store (summary : RunSummary) (path : Option String) (disk : Disk) (w : World σ) :
    (store summary path disk w).2.2.posts = w.posts := by
  unfold store
  split
  · rfl
  · split
    · exact (World.posts_note _ w).trans (List.append_nil _)
    · rfl

/-- What comes after the agents sends nothing, if the teardown hook does not. -/
theorem requests_of_finish {network : Network σ} {occasion : Occasion} {hooks : Hooks R V}
    {resolved : ResolvedScenario} {shared : R} {s : State σ V} {account : Account R V}
    (silent : ∀ program, hooks.teardown = some program →
      (program resolved.config shared).IsSilent)
    (h : finish network occasion hooks resolved shared s = some account) :
    account.requests = s.world.requests := by
  unfold finish at h
  simp only at h
  split at h
  · cases h
    exact s.world.filterMap_request?_events
  · obtain ⟨⟨⟨left, ending⟩, after⟩, hCalled, hAccount⟩ := Option.map_eq_some_iff.1 h
    have hStopped : s.world.requestStop.posts = s.world.posts := rfl
    have hPosts := (posts_of_callHook silent hCalled).trans hStopped
    simp only at hAccount
    split at hAccount
    · subst hAccount
      exact after.filterMap_request?_events.trans (congrArg (List.map Prod.snd) hPosts)
    · subst hAccount
      refine (World.filterMap_request?_events _).trans (congrArg (List.map Prod.snd) ?_)
      rw [posts_store, (World.Murmurs.log _ _).posts, posts_report,
        (World.murmurs_logAll _ after).posts, hPosts]

end StorefrontLoad.Run
