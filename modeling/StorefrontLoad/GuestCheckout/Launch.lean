import StorefrontLoad.GuestCheckout
import StorefrontLoad.Run.Builder

/-!
# Launching the guest checkout from a command line
-/

namespace StorefrontLoad.GuestCheckout

open Run (Occasion Conclusion Account Builder)
open Storefront (Network)

def name : String := "guest_checkout"

/-- Without other settings a thousand agents make five iterations each. -/
def builder (entropy : UInt64) (arguments : CommandLine.Arguments) : Builder Shop Guest :=
  Builder.applyAll ⟨.ofArguments name arguments, hooks entropy⟩
    [.defaultConcurrency 1000, .defaultIterations 5]

/-- What a launch leaves behind. -/
structure Launch where
  exitCode : UInt8
  /-- What went to the standard output. -/
  printed : String
  /-- What went to the log. -/
  lines : List LogLine
  /-- What went to the standard error beside the log. -/
  complaint : Option String
  disk : Disk

/-- The last line of the log, after a run that came to its end. -/
def closingLine (summary : RunSummary) : LogLine :=
  let checkout := summary.outcome.stepOrEmpty Storefront.Client.checkoutStep
  let counts := s!"{checkout.succeeded} of {checkout.attempted} attempted checkouts"
  .info s!"Created {counts} over {summary.outcome.iterations} iterations"

def Launch.ofAccount (account : Account Shop Guest) : Launch :=
  let after (exitCode : UInt8) (more : List LogLine) (complaint : Option String) : Launch :=
    ⟨exitCode, account.printed, account.lines ++ more, complaint, account.disk⟩
  match account.conclusion with
  | .finished summary => after 0 [closingLine summary] none
  | .failed trouble => after 1 [] (some ("Error: " ++ trouble.report))
  | .panicked message => after 101 [] message

/-- Reads the command line and runs the scenario; `none` when the run needs too many moves. -/
def launch {σ : Type} (network : Network σ) (state : σ) (occasion : Occasion) (entropy : UInt64)
    (environment : Option String) (args : List String) :
    Except CommandLine.ErrorKind (Option Launch) :=
  (CommandLine.parse environment args).map fun arguments ↦
    let scenario := builder entropy arguments
    (Run.execute network state occasion scenario.hooks scenario.definition).map Launch.ofAccount

end StorefrontLoad.GuestCheckout
