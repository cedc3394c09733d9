import OrderKeeper.Venue.Broker
import OrderKeeper.Venue.Directory

/-!
Contract: once one leg of a pair is filled, the other is canceled.

Owns: the pairs that call for a cancel, the cancel of one sibling, what its answer
does to the ledger, and the summary of a pass over all groups.  A group of any
size but two is left alone.
-/

set_option autoImplicit false

namespace OrderKeeper

/-- A pair with one leg filled and the other still open. -/
structure BrokenPair where
  filled : Order
  sibling : Order
deriving DecidableEq

/-- What a group of the ledger calls for. -/
inductive GroupState where
  /-- Nothing is open, or no leg is filled. -/
  | settled
  | notAPair
  | broken (pair : BrokenPair)
deriving DecidableEq

def groupState (members : List Order) : GroupState :=
  if !members.any Order.isOpen then .settled
  else
    match members with
    | [a, b] =>
        if a.status = .filled then
          if b.isOpen then .broken ⟨a, b⟩ else .settled
        else if b.status = .filled then
          if a.isOpen then .broken ⟨b, a⟩ else .settled
        else .settled
    | _ => .notAPair

/-- What became of a broken pair. -/
inductive CancelOutcome where
  /-- The venue of the sibling is unknown or cannot cancel. -/
  | unsupported
  | canceled
  | failed (fault : VenueFault)
deriving DecidableEq, Repr

structure PairSummary where
  triggered : Nat
  resolved : Nat
  cancelFailures : Nat
  unsupported : Nat
  ignoredGroups : Nat
deriving DecidableEq, Repr

namespace PairSummary

def empty : PairSummary := ⟨0, 0, 0, 0, 0⟩

def addOutcome (summary : PairSummary) (outcome : CancelOutcome) : PairSummary :=
  let summary := { summary with triggered := summary.triggered + 1 }
  match outcome with
  | .unsupported => { summary with unsupported := summary.unsupported + 1 }
  | .canceled => { summary with resolved := summary.resolved + 1 }
  | .failed _ => { summary with cancelFailures := summary.cancelFailures + 1 }

end PairSummary

variable {World : Type}

/-- Asks the venue of a sibling to cancel it.  A sibling without a venue order id cannot
be asked for. -/
def requestCancel (gateway : VenueGateway World) (sibling : Order) (world : World) :
    Except VenueFault Unit × World :=
  match sibling.venueOrderId with
  | some id => gateway.cancel id (Symbol.base sibling.symbol) world
  | none => (.error (.api "sibling has no venue order id"), world)

/-- Applies the answer to a cancel to the ledger as it stands when the answer arrives. -/
def settleCancel (now : Instant) (pair : BrokenPair) (answer : Except VenueFault Unit)
    (ledger : Ledger) : Ledger × CancelOutcome :=
  match answer with
  | .ok () =>
      let (ledger, _) := ledger.close now pair.sibling.id .canceled
      let (ledger, _) := ledger.close now pair.filled.id .filled
      (ledger, .canceled)
  | .error fault =>
      let (ledger, _) := ledger.close now pair.filled.id .filled
      (ledger, .failed fault)

def cancelSibling (directory : VenueDirectory World) (now : Instant) (pair : BrokenPair)
    (state : State World) : State World × CancelOutcome :=
  match directory.gatewayFor (pair.sibling.venue?.getD "") .cancel with
  | .error _ => (state, .unsupported)
  | .ok gateway =>
      let (answer, world) := requestCancel gateway pair.sibling state.world
      let (ledger, outcome) := settleCancel now pair answer state.ledger
      ({ ledger, world }, outcome)

/-- One pass over groups as they stood at its start. -/
def watchGroups (directory : VenueDirectory World) (now : Instant) :
    List (List Order) → State World × PairSummary → State World × PairSummary
  | [], state => state
  | members :: rest, (state, summary) =>
      match groupState members with
      | .settled => watchGroups directory now rest (state, summary)
      | .notAPair =>
          watchGroups directory now rest
            (state, { summary with ignoredGroups := summary.ignoredGroups + 1 })
      | .broken pair =>
          let (state, outcome) := cancelSibling directory now pair state
          watchGroups directory now rest (state, summary.addOutcome outcome)

/-- One pass over all groups, in the order of their ids. -/
def watchOnce (directory : VenueDirectory World) (now : Instant) (state : State World) :
    State World × PairSummary :=
  watchGroups directory now
    (state.ledger.groupIds.map state.ledger.groupMembers) (state, .empty)

end OrderKeeper
