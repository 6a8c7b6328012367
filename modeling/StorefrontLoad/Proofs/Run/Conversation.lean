import StorefrontLoad.Proofs.Run.World
import StorefrontLoad.Run.Agent

/-!
# Conversations

A conversation lists what a program did together with what it was told each time. A program that is
cut off somewhere leaves a conversation behind and a rest to go on with. Nothing else of the world
reaches a program, so what holds of all its conversations holds under every interleaving with
others.
-/

namespace StorefrontLoad.Run

/-- An action and what it gave back. -/
structure Exchange where
  action : Action
  reply : action.Reply

namespace Program

variable {α β V : Type}

/-- After the talk the rest of the program is still to be done. -/
inductive Yields : Program α → List Exchange → Program α → Prop
  | refl (p : Program α) : Yields p [] p
  | cons {action : Action} {next : action.Reply → Program α} (reply : action.Reply)
      {talk : List Exchange} {rest : Program α} (tail : Yields (next reply) talk rest) :
      Yields (step action next) (⟨action, reply⟩ :: talk) rest

theorem yields_done_iff {a : α} {talk : List Exchange} {rest : Program α} :
    Yields (done a) talk rest ↔ talk = [] ∧ rest = done a := by
  constructor
  · intro h
    cases h
    exact ⟨rfl, rfl⟩
  · rintro ⟨rfl, rfl⟩
    exact .refl _

theorem yields_step_iff {action : Action} {next : action.Reply → Program α}
    {talk : List Exchange} {rest : Program α} :
    Yields (step action next) talk rest ↔ (talk = [] ∧ rest = step action next) ∨
      ∃ reply tail, talk = ⟨action, reply⟩ :: tail ∧ Yields (next reply) tail rest := by
  constructor
  · intro h
    cases h with
    | refl => exact .inl ⟨rfl, rfl⟩
    | cons reply tail => exact .inr ⟨reply, _, rfl, tail⟩
  · rintro (⟨rfl, rfl⟩ | ⟨reply, tail, rfl, h⟩)
    · exact .refl _
    · exact .cons reply h

/-- A program that has come to its end has had its first action answered. -/
theorem yields_step_done_iff {action : Action} {next : action.Reply → Program α}
    {talk : List Exchange} {a : α} :
    Yields (step action next) talk (done a) ↔
      ∃ reply tail, talk = ⟨action, reply⟩ :: tail ∧ Yields (next reply) tail (done a) := by
  simp [yields_step_iff]

theorem Yields.snoc {p : Program α} {talk : List Exchange} {action : Action}
    {next : action.Reply → Program α} (h : Yields p talk (step action next))
    (reply : action.Reply) : Yields p (talk ++ [⟨action, reply⟩]) (next reply) := by
  generalize hRest : step action next = rest at h
  induction h with
  | refl p =>
    subst hRest
    exact .cons reply (.refl _)
  | cons first tail ih => exact .cons first (ih hRest)

theorem Yields.trans {p now rest : Program α} {first second : List Exchange}
    (h : Yields p first now) (h' : Yields now second rest) : Yields p (first ++ second) rest := by
  induction h with
  | refl p => exact h'
  | cons reply tail ih => exact .cons reply (ih h')

theorem nonempty_reply (action : Action) : Nonempty action.Reply := by
  cases action with
  | post target request => exact ⟨⟨.ok "", .zero⟩⟩
  | isStopRequested => exact ⟨false⟩
  | readOutcome => exact ⟨⟨0, []⟩⟩
  | record | log | pause | requestStop | awaitStop => exact ⟨()⟩

/-- With suitable replies every program comes to an end. -/
theorem exists_yields_done (p : Program α) : ∃ talk a, Yields p talk (done a) := by
  induction p with
  | done a => exact ⟨[], a, .refl _⟩
  | step action next ih =>
    obtain ⟨reply⟩ := nonempty_reply action
    obtain ⟨talk, a, hTalk⟩ := ih reply
    exact ⟨⟨action, reply⟩ :: talk, a, .cons reply hTalk⟩

/-- A sequence of two programs comes to its end where the second one does. -/
theorem yields_bind_done {p : Program α} {rest : α → Program β} {talk : List Exchange} {b : β}
    (h : Yields (p >>= rest) talk (done b)) :
    ∃ first second a, talk = first ++ second ∧ Yields p first (done a) ∧
      Yields (rest a) second (done b) := by
  induction p generalizing talk with
  | done a => exact ⟨[], talk, a, rfl, .refl _, h⟩
  | step action next ih =>
    rw [step_bind, yields_step_done_iff] at h
    obtain ⟨reply, tail, rfl, hTail⟩ := h
    obtain ⟨first, second, a, rfl, hFirst, hSecond⟩ := ih reply hTail
    exact ⟨⟨action, reply⟩ :: first, second, a, rfl, .cons reply hFirst, hSecond⟩

/-- A sequence of two programs is cut off in the first one, or in the second one after the end of
the first. -/
theorem yields_bind {p : Program α} {rest : α → Program β} {talk : List Exchange}
    {last : Program β} (h : Yields (p >>= rest) talk last) :
    (∃ now, Yields p talk now) ∨ ∃ first second a, talk = first ++ second ∧
      Yields p first (done a) ∧ Yields (rest a) second last := by
  induction p generalizing talk with
  | done a => exact .inr ⟨[], talk, a, rfl, .refl _, h⟩
  | step action next ih =>
    rw [step_bind, yields_step_iff] at h
    rcases h with ⟨rfl, _⟩ | ⟨reply, tail, rfl, hTail⟩
    · exact .inl ⟨_, .refl _⟩
    · rcases ih reply hTail with ⟨now, hNow⟩ | ⟨first, second, a, rfl, hFirst, hSecond⟩
      · exact .inl ⟨now, .cons reply hNow⟩
      · exact .inr ⟨⟨action, reply⟩ :: first, second, a, rfl, .cons reply hFirst, hSecond⟩

theorem exists_yields_bind {p : Program α} {talk : List Exchange}
    (h : ∃ rest, Yields p talk rest) (next : α → Program β) :
    ∃ rest, Yields (p >>= next) talk rest := by
  obtain ⟨rest, h⟩ := h
  refine ⟨rest >>= next, ?_⟩
  induction h with
  | refl p => exact .refl _
  | cons reply tail ih => exact .cons reply ih

theorem Yields.bind {p : Program α} {first second : List Exchange} {a : α}
    (h : Yields p first (done a)) {next : α → Program β} {rest : Program β}
    (hNext : Yields (next a) second rest) : Yields (p >>= next) (first ++ second) rest := by
  generalize hDone : done a = last at h
  induction h with
  | refl p =>
    subst hDone
    exact hNext
  | cons reply tail ih => exact .cons reply (ih hDone)

/-- A program of one action. -/
theorem yields_perform_done_iff {action : Action} {talk : List Exchange} {reply : action.Reply} :
    Yields (perform action) talk (done reply) ↔ talk = [⟨action, reply⟩] := by
  unfold perform
  rw [yields_step_done_iff]
  constructor
  · rintro ⟨reply', tail, rfl, h⟩
    obtain ⟨rfl, hReply⟩ := yields_done_iff.1 h
    rw [done.inj hReply]
  · rintro rfl
    exact ⟨reply, [], rfl, .refl _⟩

/-! ## Programs of hooks -/

/-- However the program goes, it ends this way. -/
def EndsIn (ending : Ending) (p : Program (V × Ending)) : Prop :=
  ∀ talk result, Yields p talk (done result) → result.2 = ending

theorem EndsIn.next {ending : Ending} {action : Action}
    {next : action.Reply → Program (V × Ending)} (h : EndsIn ending (step action next))
    (reply : action.Reply) : EndsIn ending (next reply) :=
  fun talk result hTalk ↦ h (⟨action, reply⟩ :: talk) result (.cons reply hTalk)

theorem EndsIn.eq {ending : Ending} {result : V × Ending} (h : EndsIn ending (done result)) :
    result.2 = ending :=
  h [] result (.refl _)

end Program

/-- However the program goes, it sends nothing and counts nothing. -/
def Program.IsSilent {α : Type} (p : Program α) : Prop :=
  ∀ talk rest, Yields p talk rest → ∀ exchange ∈ talk, exchange.action.isSilent

theorem Program.IsSilent.action {α : Type} {action : Action} {next : action.Reply → Program α}
    (h : (Program.step action next).IsSilent) (reply : action.Reply) : action.isSilent :=
  h [⟨action, reply⟩] (next reply) (.cons reply (.refl _)) ⟨action, reply⟩ List.mem_cons_self

theorem Program.IsSilent.next {α : Type} {action : Action} {next : action.Reply → Program α}
    (h : (Program.step action next).IsSilent) (reply : action.Reply) : (next reply).IsSilent :=
  fun talk rest hTalk exchange hMem ↦
    h (⟨action, reply⟩ :: talk) rest (.cons reply hTalk) exchange (List.mem_cons_of_mem _ hMem)

theorem Program.isSilent_step {α : Type} {action : Action} {next : action.Reply → Program α}
    (hAction : action.isSilent) (h : ∀ reply, (next reply).IsSilent) :
    (Program.step action next).IsSilent := by
  intro talk rest hTalk exchange hMem
  rcases Program.yields_step_iff.1 hTalk with ⟨rfl, _⟩ | ⟨reply, tail, rfl, hTail⟩
  · cases hMem
  · rcases List.mem_cons.1 hMem with rfl | hMem
    · exact hAction
    · exact h reply tail rest hTail exchange hMem

theorem Program.isSilent_done {α : Type} (a : α) : (Program.done a).IsSilent := by
  intro talk rest hTalk exchange hMem
  rw [(Program.yields_done_iff.1 hTalk).1] at hMem
  cases hMem

end StorefrontLoad.Run
