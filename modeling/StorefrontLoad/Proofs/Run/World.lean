import StorefrontLoad.Run.World

/-!
# What the history of a world tells

Of the history only two things matter here: which calls of the behaviour there were, and which
requests were handed to the network. A world that has only got more log lines or more calls of other
hooks murmurs. What an action changes is told once for all actions.
-/

namespace StorefrontLoad.Run

open Storefront (Network)

variable {σ : Type}

/-- The agent and the iteration of a call of the behaviour. -/
def Event.call? : Event → Option (Nat × Nat)
  | called (.behaviour agent iteration) => some (agent, iteration)
  | _ => none

/-- Who sent a request, with the request. -/
def Event.post? : Event → Option (Option Nat × Storefront.Request)
  | posted agent request => some (agent, request)
  | _ => none

namespace Action

def request? : Action → Option Storefront.Request
  | post _ request => some request
  | _ => none

/-- What the action does to the counters. -/
def count (action : Action) (c : Counters) : Counters :=
  match action with
  | record step kind latency => c.record step kind latency
  | _ => c

/-- Whether the action leaves a trace neither in the network nor in the counters. -/
def isSilent : Action → Bool
  | post _ _ | record _ _ _ => false
  | _ => true

theorem request?_of_isSilent {action : Action} (h : action.isSilent) : action.request? = none := by
  cases action <;> simp_all [isSilent, request?]

theorem iterations_count (action : Action) (c : Counters) :
    (action.count c).iterations = c.iterations := by
  cases action <;> rfl

end Action

namespace World

/-- The calls of the behaviour, earliest first. -/
def calls (w : World σ) : List (Nat × Nat) := w.events.filterMap Event.call?

/-- The iterations an agent has begun, earliest first. -/
def callsOf (agent : Nat) (w : World σ) : List Nat :=
  (w.calls.filter (·.1 = agent)).map Prod.snd

/-- What was handed to the network, earliest first. -/
def posts (w : World σ) : List (Option Nat × Storefront.Request) := w.events.filterMap Event.post?

def requests (w : World σ) : List Storefront.Request := w.posts.map Prod.snd

/-- What an agent has handed to the network, earliest first. -/
def requestsOf (agent : Nat) (w : World σ) : List Storefront.Request :=
  (w.posts.filter (·.1 = some agent)).map Prod.snd

theorem calls_note (event : Event) (w : World σ) :
    (w.note event).calls = w.calls ++ event.call?.toList := by
  cases h : event.call? <;> simp [calls, events, note, h]

theorem posts_note (event : Event) (w : World σ) :
    (w.note event).posts = w.posts ++ event.post?.toList := by
  cases h : event.post? <;> simp [posts, events, note, h]

theorem calls_requestStop (w : World σ) : w.requestStop.calls = w.calls := rfl

/-- Nothing has happened but log lines and calls of other hooks than the behaviour. -/
structure Murmurs (w after : World σ) : Prop where
  counters : after.counters = w.counters
  stopRequested : after.stopRequested = w.stopRequested
  calls : after.calls = w.calls
  posts : after.posts = w.posts

namespace Murmurs

theorem refl (w : World σ) : w.Murmurs w := ⟨rfl, rfl, rfl, rfl⟩

theorem trans {w after last : World σ} (h : w.Murmurs after) (h' : after.Murmurs last) :
    w.Murmurs last where
  counters := h'.counters.trans h.counters
  stopRequested := h'.stopRequested.trans h.stopRequested
  calls := h'.calls.trans h.calls
  posts := h'.posts.trans h.posts

theorem log (line : LogLine) (w : World σ) : w.Murmurs (w.log line) where
  counters := rfl
  stopRequested := rfl
  calls := by simp [World.log, calls_note, Event.call?]
  posts := by simp [World.log, posts_note, Event.post?]

theorem called {hook : Hook} (h : (Event.called hook).call? = none) (w : World σ) :
    w.Murmurs (w.note (.called hook)) where
  counters := rfl
  stopRequested := rfl
  calls := by simp [calls_note, h]
  posts := by simp [posts_note, Event.post?]

theorem callsOf {w after : World σ} (h : w.Murmurs after) (agent : Nat) :
    after.callsOf agent = w.callsOf agent := by
  rw [World.callsOf, World.callsOf, h.calls]

end Murmurs

/-- What any action changes. -/
structure Performs (agent : Option Nat) (action : Action) (w after : World σ) : Prop where
  counters : after.counters = action.count w.counters
  stopRequested : w.stopRequested = true → after.stopRequested = true
  calls : after.calls = w.calls
  posts : after.posts = w.posts ++ action.request?.toList.map (agent, ·)

theorem performs_of_perform {network : Network σ} {agent : Option Nat} {w : World σ}
    {action : Action} {taken : Step σ action.Reply}
    (h : w.perform network agent action = some taken) : w.Performs agent action taken.world := by
  cases action with
  | post target request =>
    cases h
    exact ⟨rfl, id, (calls_note _ _).trans (List.append_nil _), posts_note _ _⟩
  | log line =>
    cases h
    have hLog := Murmurs.log line w
    exact ⟨rfl, id, hLog.calls, by simpa [Action.request?] using hLog.posts⟩
  | requestStop =>
    cases h
    exact ⟨rfl, fun _ ↦ rfl, rfl, by simp [Action.request?, posts, events, World.requestStop]⟩
  | awaitStop =>
    simp only [perform] at h
    split at h
    · cases h
      exact ⟨rfl, id, rfl, by simp [Action.request?]⟩
    · cases h
  | record step kind latency =>
    cases h
    exact ⟨rfl, id, rfl, by simp [Action.request?, posts, events]⟩
  | pause length | isStopRequested | readOutcome =>
    cases h
    exact ⟨rfl, id, rfl, by simp [Action.request?]⟩

end World

end StorefrontLoad.Run
