import OrderKeeper.Dictionary
import OrderKeeper.Text.Blank
import OrderKeeper.Text.Case
import OrderKeeper.Text.Digits
import OrderKeeper.Text.Mark
import OrderKeeper.Text.Quoted
import OrderKeeper.Decimal.Basic
import OrderKeeper.Decimal.Arithmetic
import OrderKeeper.Binary64.Basic
import OrderKeeper.Decimal.OfBinary
import OrderKeeper.Decimal.Text
import OrderKeeper.Binary64.Shortest
import OrderKeeper.Binary64.Text
import OrderKeeper.Time.Calendar
import OrderKeeper.Time.Instant
import OrderKeeper.Time.Timestamp
import OrderKeeper.Json.Document
import OrderKeeper.Json.Value
import OrderKeeper.Json.Access
import OrderKeeper.Json.Decoder
import OrderKeeper.Order.Symbol
import OrderKeeper.Order.Terms
import OrderKeeper.Order.Basic
import OrderKeeper.Order.Interchange
import OrderKeeper.Order.Ledger
import OrderKeeper.Order.Ticket
import OrderKeeper.Venue.Capability
import OrderKeeper.Venue.ListedOrder
import OrderKeeper.Venue.Gateway
import OrderKeeper.Venue.Broker
import OrderKeeper.Venue.Directory
import OrderKeeper.Reconcile.Adoption
import OrderKeeper.Reconcile.Policy
import OrderKeeper.Reconcile.Alignment
import OrderKeeper.Reconcile.Pass
import OrderKeeper.Pair.Linked
import OrderKeeper.Pair.Watch
import OrderKeeper.Trailing.Offset
import OrderKeeper.Trailing.Trail
import OrderKeeper.Trailing.Book
import OrderKeeper.Trailing.Interchange
import OrderKeeper.Trailing.Tick
import OrderKeeper.Signal.Basic
import OrderKeeper.Signal.Queue
import OrderKeeper.Signal.Dispatcher
import OrderKeeper.Throttle
import OrderKeeper.Settings
import OrderKeeper.Monitoring.Counters
import OrderKeeper.Monitoring.Endpoint
import OrderKeeper.Monitoring.HealthReport
import OrderKeeper.Core.Daemon
import OrderKeeper.Core.Basic
import OrderKeeper.Core.Lifecycle
import OrderKeeper.CommandLine.Options
import OrderKeeper.CommandLine.Values
import OrderKeeper.CommandLine.Invocation
import OrderKeeper.Paper.Exchange
import OrderKeeper.Paper.Broker
import OrderKeeper.Paper.Drift
import OrderKeeper.Paper.Market
import OrderKeeper.Paper.Core
import OrderKeeper.Periodic
import OrderKeeper.Proofs.Periodic.Beat
import OrderKeeper.Proofs.Periodic.Schedule
import OrderKeeper.Simulation.Script
import OrderKeeper.Simulation.World
import OrderKeeper.Simulation.Session
import OrderKeeper.Main
import OrderKeeper.Proofs.Dictionary
import OrderKeeper.Proofs.Order.Symbol
import OrderKeeper.Proofs.Ledger.Contents
import OrderKeeper.Proofs.Ledger.Evolution
import OrderKeeper.Proofs.Core.Passes
import OrderKeeper.Proofs.Core.Permanence
import OrderKeeper.Proofs.Reconcile.Listing
import OrderKeeper.Proofs.Reconcile.Matching
import OrderKeeper.Proofs.Reconcile.Adoption
import OrderKeeper.Proofs.Reconcile.Writes
import OrderKeeper.Proofs.Reconcile.Alignment
import OrderKeeper.Proofs.Reconcile.Accounting
import OrderKeeper.Proofs.Reconcile.VenueRuns
import OrderKeeper.Proofs.Reconcile.Stability
import OrderKeeper.Proofs.Reconcile.Idempotence
import OrderKeeper.Proofs.Pair.Siblings
import OrderKeeper.Proofs.Pair.Cancels
import OrderKeeper.Proofs.Decimal.Quotient
import OrderKeeper.Proofs.Trailing.PercentTrail
import OrderKeeper.Proofs.Trailing.Book
import OrderKeeper.Proofs.Trailing.Desk
import OrderKeeper.Proofs.Trailing.Firing
import OrderKeeper.Proofs.Paper.Placements
import OrderKeeper.Proofs.Paper.InFlight
import OrderKeeper.Proofs.Paper.Recovery
import OrderKeeper.Proofs.Paper.Settlement
import OrderKeeper.Proofs.Pair.FirstClosing
import OrderKeeper.Proofs.Signal.Calls
import OrderKeeper.Proofs.Signal.Departures
import OrderKeeper.Proofs.Core.Shutdown
import OrderKeeper.Proofs.Reconcile.Territory
import OrderKeeper.Proofs.Reconcile.Isolation
import OrderKeeper.Proofs.Paper.InStep
import OrderKeeper.Proofs.Paper.Listings
import OrderKeeper.Proofs.Paper.Lockstep
import OrderKeeper.Proofs.Paper.Resolution
import OrderKeeper.Proofs.Decimal.Rounding
import OrderKeeper.Proofs.Decimal.Results
import OrderKeeper.Proofs.Periodic.Stopping
import OrderKeeper.Proofs.Trailing.Breakdown
import OrderKeeper.Proofs.Trailing.Reference
import OrderKeeper.Proofs.Trailing.StopLevel
import OrderKeeper.Proofs.Trailing.Ratchet
import OrderKeeper.Proofs.Pair.Linking
import OrderKeeper.Proofs.Reconcile.SymbolReading
import OrderKeeper.Proofs.Reconcile.Enumeration
import OrderKeeper.Proofs.Signal.EqualPriorities
import OrderKeeper.Proofs.Paper.Quotes
import OrderKeeper.Proofs.Json.Legible
import OrderKeeper.Proofs.Json.Record
import OrderKeeper.Proofs.Venue.ListedRows
import OrderKeeper.Proofs.Throttle
