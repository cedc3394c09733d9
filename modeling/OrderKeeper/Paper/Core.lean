import OrderKeeper.Core.Lifecycle
import OrderKeeper.Paper.Drift
import OrderKeeper.Paper.Market

/-!
Contract: the core on paper venues.

Owns: the core that settings describe, with one paper venue per configured name, the
prices that its venues start from and their moves, and the output of a single
reconciliation pass.
-/

set_option autoImplicit false

namespace OrderKeeper

namespace PaperCore

def create (ids : Nat → OrderId) (settings : Settings) : Core PaperMarket :=
  .create settings (PaperMarket.directory settings.paperVenues)
    (PaperMarket.broker ids settings.paperVenues).toBroker
    (.ofNames settings.paperVenues)

/-- Ids under one origin that tell placed orders apart by their number. -/
def numberedId (origin : String) (number : Nat) : OrderId :=
  ⟨origin ++ ":" ++ String.ofList (Text.numeral (number + 1))⟩

/-- Sets first prices on every venue. -/
def seedPrices (seeds : List (String × Decimal)) (market : PaperMarket) : PaperMarket :=
  let seed := fun venue : PaperExchange =>
    seeds.foldl (fun venue (symbol, price) => venue.quote symbol price) venue
  { market with
    venues := .ofList (market.venues.entries.map fun (label, venue) => (label, seed venue)) }

/-- Moves the prices of every venue; one whose arithmetic has no result is left where its
walk stopped. -/
def driftPrices (bound : Binary64) (word : Nat → UInt64) (market : PaperMarket) :
    PaperMarket :=
  { market with
    venues := .ofList (market.venues.entries.map fun (label, venue) =>
      (label, (venue.drift bound word).1)) }

/-- Prices move, then the passes that are due before a time of the clock run, then the
dispatcher. -/
def advance (bound : Binary64) (word : Nat → UInt64) (now : Instant) (limit : Nat)
    (core : Core PaperMarket) : Core PaperMarket :=
  let state := core.state
  let core := { core with state := { state with world := driftPrices bound word state.world } }
  ((core.runUntil now [] limit).dispatch now).1

/-- What one reconciliation pass over a new core prints. -/
def singlePassOutput (settings : Settings) (now : Instant) : String :=
  ((create (numberedId "paper") settings).reconcile now).2.render ++ "\n"

end PaperCore

end OrderKeeper
