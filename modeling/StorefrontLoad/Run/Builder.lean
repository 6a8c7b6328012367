import StorefrontLoad.Run.Execution

/-!
# Putting a scenario together

A scenario is put together call by call. Some calls set a default for what the command line may
leave open, the others install a hook. A call replaces what an earlier one has set for the same
part.
-/

namespace StorefrontLoad.Run

/-- A scenario that is being put together. -/
structure Builder (R V : Type) where
  definition : ScenarioDefinition
  hooks : Hooks R V

namespace Builder

variable {R V : Type}

/-- Without a default and without a hook. -/
def ofSource (name : String) (source : ConfigSource) (shared : R) (own : V) : Builder R V where
  definition := .ofSource name source
  hooks := ⟨shared, own, none, none, ⟨none, none, none⟩⟩

inductive Call (R V : Type)
  | defaultConcurrency (count : Nat)
  | defaultIterations (count : Nat)
  | defaultSeconds (seconds : Nat)
  | setup (hook : ScenarioHook R)
  | agentSetup (hook : AgentHook R V)
  | agentBehaviour (hook : AgentHook R V)
  | agentTeardown (hook : AgentHook R V)
  | teardown (hook : ScenarioHook R)

def apply (b : Builder R V) : Call R V → Builder R V
  | .defaultConcurrency count =>
    { b with definition := b.definition.withDefaultConcurrency count }
  | .defaultIterations count => { b with definition := b.definition.withDefaultIterations count }
  | .defaultSeconds seconds => { b with definition := b.definition.withDefaultSeconds seconds }
  | .setup hook => { b with hooks.setup := some hook }
  | .agentSetup hook => { b with hooks.agent.setup := some hook }
  | .agentBehaviour hook => { b with hooks.agent.behaviour := some hook }
  | .agentTeardown hook => { b with hooks.agent.teardown := some hook }
  | .teardown hook => { b with hooks.teardown := some hook }

def applyAll (b : Builder R V) (calls : List (Call R V)) : Builder R V := calls.foldl apply b

/-- The scenario with the hooks it is run with. -/
def build (b : Builder R V) :
    Except ScenarioDefinition.BuildError (ResolvedScenario × Hooks R V) :=
  b.definition.build.map fun resolved ↦ (resolved, b.hooks)

end Builder

end StorefrontLoad.Run
