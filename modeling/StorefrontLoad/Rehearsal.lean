import StorefrontLoad.Run.Execution

/-!
# Rehearsals

A rehearsal is a scenario whose hooks follow a script and take notes, so that a run can be watched
from the inside. Every hook notes its call before it does what the script says.
-/

namespace StorefrontLoad.Rehearsal

open Run

/-- What a script tells a hook to do. -/
inductive Cue
  | nothing
  | fail (trouble : Trouble)
  | panic (message : Option String)
  | record (step : String) (kind : OutcomeKind)
  /-- Work out the next number. -/
  | increment (n : Int)
  | stop
  | awaitStop

inductive Note
  | setup (targetUrl channel : String)
  | agentSetup (agent : String) (iteration : Nat)
  | call (iteration calls : Nat) (greeting : String)
  | number (n : Int)
  | stopped (isStopRequested : Bool)
  | stopCame
  | agentTeardown (iteration calls : Nat)
  | teardown (greeting : String) (outcome : OutcomeSummary)

/-- What all agents share, with the notes of the scenario's own hooks. -/
structure Stage where
  greeting : String
  notes : List Note

/-- What belongs to an agent. -/
structure Player where
  calls : Nat
  notes : List Note

def Stage.note (note : Note) (s : Stage) : Stage := { s with notes := s.notes ++ [note] }

def Player.note (note : Note) (p : Player) : Player := { p with notes := p.notes ++ [note] }

/-- A hook without cues is not installed. -/
structure Script where
  setup : Option Cue
  agentSetup : Option (List Cue)
  /-- For each agent the cues of each iteration. -/
  behaviour : Option (List (List (List Cue)))
  agentTeardown : Option (List Cue)
  teardown : Option Cue

/-- The entry at a position, the last one standing for all behind it. -/
def turn? {α : Type} (entries : List α) (i : Nat) : Option α := entries[i]? <|> entries.getLast?

/-- Follows a cue; what it notes comes first in the result. -/
def follow : Cue → Program (Option Note × Ending)
  | .nothing => pure (none, .ok)
  | .fail trouble => pure (none, .failed trouble)
  | .panic message => pure (none, .panicked message)
  | .record step kind => do
    Program.record step kind .zero
    return (none, .ok)
  | .increment n => pure (some (.number (n + 1)), .ok)
  | .stop => do
    Program.requestStop
    let isRequested ← Program.isStopRequested
    return (some (.stopped isRequested), .ok)
  | .awaitStop => do
    Program.awaitStop
    return (some .stopCame, .ok)

/-- Follows cues up to the first that does not end well. -/
def followAll : List Cue → Player → Program (Player × Ending)
  | [], player => pure (player, .ok)
  | cue :: cues, player => do
    let (note, ending) ← follow cue
    let player := match note with
      | some note => player.note note
      | none => player
    match ending with
    | .ok => followAll cues player
    | ending => return (player, ending)

def followHook (cue : Option Cue) : Program Ending := do
  let (_, ending) ← follow (cue.getD .nothing)
  return ending

def setupHook (cue : Cue) : ScenarioHook Stage := fun config stage ↦ do
  let stage := { stage with greeting := "hello " ++ config.channel }
  let ending ← followHook cue
  return (stage.note (.setup config.targetUrl config.channel), ending)

def teardownHook (cue : Cue) : ScenarioHook Stage := fun _ stage ↦ do
  let outcome ← Program.readOutcome
  let ending ← followHook cue
  return (stage.note (.teardown stage.greeting outcome), ending)

def agentSetupHook (cues : List Cue) : AgentHook Stage Player := fun context player ↦ do
  let note := .agentSetup (Agent.name context.index) context.iteration
  let ending ← followHook (turn? cues context.index)
  return (player.note note, ending)

def agentTeardownHook (cues : List Cue) : AgentHook Stage Player := fun context player ↦ do
  let ending ← followHook (turn? cues context.index)
  return (player.note (.agentTeardown context.iteration player.calls), ending)

def behaviourHook (cues : List (List (List Cue))) : AgentHook Stage Player := fun context player ↦
  let calls := player.calls + 1
  let player := { player with calls := calls }
  let iterations := (turn? cues context.index).getD []
  followAll ((turn? iterations context.iteration).getD [])
    (player.note (.call context.iteration calls context.shared.greeting))

def Script.hooks (script : Script) : Hooks Stage Player where
  shared := ⟨"", []⟩
  own := ⟨0, []⟩
  setup := script.setup.map setupHook
  teardown := script.teardown.map teardownHook
  agent := {
    setup := script.agentSetup.map agentSetupHook
    behaviour := script.behaviour.map behaviourHook
    teardown := script.agentTeardown.map agentTeardownHook }

end StorefrontLoad.Rehearsal
