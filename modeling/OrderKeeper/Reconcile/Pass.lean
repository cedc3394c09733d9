import OrderKeeper.Json.Value
import OrderKeeper.Reconcile.Alignment
import OrderKeeper.Venue.Broker
import OrderKeeper.Venue.Directory

/-!
Contract: one reconciliation pass over all venues.

Owns: the visit of one venue, the summary of a pass, and its text.  A venue that fails
or cannot list is passed over; the pass goes on with the next one.
-/

set_option autoImplicit false

namespace OrderKeeper

/-- What a pass met at one venue. -/
inductive VenueVisit where
  /-- The venue cannot list its open orders. -/
  | skipped
  | failed (fault : VenueFault)
  | checked (delta : ListingDelta)
deriving DecidableEq, Repr

structure ReconcileSummary where
  imported : Nat
  closed : Nat
  venuesChecked : Nat
  venuesSkipped : Nat
  venuesFailed : List String
  malformed : Nat
deriving DecidableEq, Repr

namespace ReconcileSummary

def empty : ReconcileSummary := ⟨0, 0, 0, 0, [], 0⟩

def add (summary : ReconcileSummary) (venue : String) : VenueVisit → ReconcileSummary
  | .skipped => { summary with venuesSkipped := summary.venuesSkipped + 1 }
  | .failed _ => { summary with venuesFailed := summary.venuesFailed ++ [venue] }
  | .checked delta =>
      { summary with
        imported := summary.imported + delta.imported
        closed := summary.closed + delta.closed
        malformed := summary.malformed + delta.malformed
        venuesChecked := summary.venuesChecked + 1 }

/-- Whether the pass changed nothing. -/
def changedNothing (summary : ReconcileSummary) : Bool :=
  summary.imported == 0 && summary.closed == 0

/-- The summary as indented JSON. -/
def render (summary : ReconcileSummary) : String :=
  let count := fun n : Nat => String.ofList (Text.numeral n)
  let failed :=
    if summary.venuesFailed.isEmpty then "[]"
    else
      "[\n" ++ String.intercalate ",\n"
        (summary.venuesFailed.map fun venue => "    " ++ Json.quote venue) ++ "\n  ]"
  "\x7b\n  \"imported\": " ++ count summary.imported
    ++ ",\n  \"closed\": " ++ count summary.closed
    ++ ",\n  \"venues_checked\": " ++ count summary.venuesChecked
    ++ ",\n  \"venues_skipped\": " ++ count summary.venuesSkipped
    ++ ",\n  \"venues_failed\": " ++ failed
    ++ ",\n  \"malformed\": " ++ count summary.malformed ++ "\n\x7d"

end ReconcileSummary

variable {World : Type}

/-- Applies a venue's answer to the ledger as it stands when the answer arrives. -/
def applyListing (policy : AbsencePolicy) (now : Instant) (venue : String)
    (answer : Except VenueFault (List ListedOrder)) (ledger : Ledger) :
    Ledger × VenueVisit :=
  match answer with
  | .ok rows =>
      let (ledger, delta) := alignWithListing policy now venue rows ledger
      (ledger, .checked delta)
  | .error (.unsupported _) => (ledger, .skipped)
  | .error fault => (ledger, .failed fault)

/-- Fetches the listing of one venue and applies it. -/
def visitVenue (directory : VenueDirectory World) (policy : AbsencePolicy) (now : Instant)
    (venue : String) (state : State World) : State World × VenueVisit :=
  match directory.gatewayFor venue .listOpenOrders with
  | .error _ => (state, .skipped)
  | .ok gateway =>
      let (answer, world) := gateway.listOpenOrders state.world
      let (ledger, visit) := applyListing policy now venue answer state.ledger
      ({ ledger, world }, visit)

/-- One pass over all venues, in the order of their keys. -/
def reconcileAll (directory : VenueDirectory World) (policy : AbsencePolicy)
    (now : Instant) (state : State World) : State World × ReconcileSummary :=
  directory.keys.foldl
    (fun (state, summary) venue =>
      let (state, visit) := visitVenue directory policy now venue state
      (state, summary.add venue visit))
    (state, .empty)

end OrderKeeper
