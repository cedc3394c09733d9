import OrderKeeper.Venue.Broker

/-!
Contract: one-cancels-other pairs.

Owns: the creation of a pair.  Both legs are submitted whatever becomes of the first;
they are tagged with a group only when both were placed and both are in the ledger.
-/

set_option autoImplicit false

namespace OrderKeeper

inductive PairLeg where
  | first
  | second
deriving DecidableEq, Repr

def PairLeg.name : PairLeg → String
  | .first => "first"
  | .second => "second"

inductive PairFailure where
  | legFailed (leg : PairLeg) (cause : Refusal)
  /-- The broker gave a receipt for an id that is not in the ledger. -/
  | notInLedger (id : OrderId)
deriving DecidableEq, Repr

namespace PairFailure

def kind : PairFailure → String
  | .legFailed _ _ => "LegFailed"
  | .notInLedger _ => "RecordMissing"

def message : PairFailure → String
  | .legFailed leg cause => "OCO " ++ leg.name ++ " leg placement failed: " ++ cause.message
  | .notInLedger id => "Placed order " ++ id.text ++ " has no local record"

end PairFailure

structure LinkedPair where
  group : String
  first : Receipt
  second : Receipt
deriving DecidableEq, Repr

/-- Tags two placed orders with a group, or names the first that is not in the ledger. -/
def linkPair (now : Instant) (group : String) (first second : Receipt)
    (ledger : Ledger) : Except PairFailure LinkedPair × Ledger :=
  if (ledger.get? first.id).isNone then (.error (.notInLedger first.id), ledger)
  else if (ledger.get? second.id).isNone then (.error (.notInLedger second.id), ledger)
  else
    let (ledger, _) := ledger.joinGroup now first.id group
    let (ledger, _) := ledger.joinGroup now second.id group
    (.ok { group, first, second }, ledger)

/-- Submits both legs in turn and links them under a group id that is not in use. -/
def placePair {World : Type} (broker : Broker World) (now : Instant) (group : String)
    (first second : OrderTicket) (state : State World) :
    Except PairFailure LinkedPair × State World :=
  let (firstAnswer, state) := broker.place now first state
  let (secondAnswer, state) := broker.place now second state
  match firstAnswer, secondAnswer with
  | .error cause, _ => (.error (.legFailed .first cause), state)
  | _, .error cause => (.error (.legFailed .second cause), state)
  | .ok first, .ok second =>
      let (answer, ledger) := linkPair now group first second state.ledger
      (answer, { state with ledger })

end OrderKeeper
