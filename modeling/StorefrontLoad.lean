import StorefrontLoad.Main
import StorefrontLoad.Outcome.Contention
import StorefrontLoad.Rehearsal
import StorefrontLoad.Shutdown.Session
import StorefrontLoad.Proofs.Run.Conversation
import StorefrontLoad.Proofs.Run.Turn
import StorefrontLoad.Proofs.Run.Course
import StorefrontLoad.Proofs.Run.Iteration
import StorefrontLoad.Proofs.Run.Shutdown
import StorefrontLoad.Proofs.Run.Quota
import StorefrontLoad.Proofs.Dictionary
import StorefrontLoad.Proofs.Outcome.Tally
import StorefrontLoad.Proofs.Run.Ledger
import StorefrontLoad.Proofs.Run.Life
import StorefrontLoad.Proofs.Storefront.Client
import StorefrontLoad.Proofs.GuestCheckout.Iteration
import StorefrontLoad.Proofs.GuestCheckout.Accounting
import StorefrontLoad.Proofs.GuestCheckout.Replay
import StorefrontLoad.Proofs.Run.Completion
import StorefrontLoad.Proofs.GuestCheckout.Effects
import StorefrontLoad.Proofs.GuestCheckout.Guests
import StorefrontLoad.Proofs.Run.Performance
import StorefrontLoad.Proofs.Run.Trace
import StorefrontLoad.Proofs.Run.Standing
import StorefrontLoad.Proofs.Run.Law
import StorefrontLoad.Proofs.Run.LifeCycle
import StorefrontLoad.Proofs.Run.Return
import StorefrontLoad.Proofs.Run.Containment
import StorefrontLoad.Proofs.Text.Utf8
import StorefrontLoad.Proofs.Run.Fingerprint
import StorefrontLoad.Proofs.Json.Token
import StorefrontLoad.Proofs.Json.Printer
import StorefrontLoad.Proofs.Json.Decoder
import StorefrontLoad.Proofs.Run.Summary
import StorefrontLoad.Proofs.Run.Archive
import StorefrontLoad.Proofs.Shutdown.Session
import StorefrontLoad.Proofs.Json.Value
import StorefrontLoad.Proofs.GuestCheckout.Wire
import StorefrontLoad.Proofs.Outcome.Recorders
import StorefrontLoad.Proofs.Outcome.Snapshot
import StorefrontLoad.Proofs.Json.Trailing
import StorefrontLoad.Proofs.Run.Lines
import StorefrontLoad.Proofs.Outcome.Lead
import StorefrontLoad.Proofs.GuestCheckout.Live
import StorefrontLoad.Proofs.Json.Path
import StorefrontLoad.Proofs.Random.Source
import StorefrontLoad.Proofs.Storefront.Choice
import StorefrontLoad.Proofs.Storefront.Catalog
import StorefrontLoad.Proofs.Storefront.Checkout
import StorefrontLoad.Proofs.Outcome.Order
import StorefrontLoad.Proofs.Outcome.Latency
import StorefrontLoad.Proofs.Run.StopCondition
import StorefrontLoad.Proofs.Json.Address
import StorefrontLoad.Proofs.Shutdown.Latch
import StorefrontLoad.Proofs.Run.Definition
import StorefrontLoad.Run.Builder
import StorefrontLoad.Proofs.Run.Builder
