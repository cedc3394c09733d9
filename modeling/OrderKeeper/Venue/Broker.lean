import OrderKeeper.Order.Ledger
import OrderKeeper.Order.Ticket
import OrderKeeper.Venue.Gateway

/-!
Contract: placing orders.

Owns: the answers to a ticket, the state that a placement changes, and the broker that
carries tickets out.  A broker writes a placed order into the ledger itself.
-/

set_option autoImplicit false

namespace OrderKeeper

/-- The ids of an order that was placed. -/
structure Receipt where
  id : OrderId
  venueOrderId : Option String
deriving DecidableEq, Repr

inductive Refusal where
  | rejected (text : String)
  | venue (fault : VenueFault)
deriving DecidableEq, Repr

namespace Refusal

def kind : Refusal → String
  | .rejected _ => "Rejected"
  | .venue fault => fault.kind

def message : Refusal → String
  | .rejected text => "Order rejected: " ++ text
  | .venue fault => fault.message

end Refusal

/-- The ledger together with the world that venues and brokers act on. -/
structure State (World : Type) where
  ledger : Ledger
  world : World

/-- Carries out tickets.  A broker that answers with a receipt has written the order. -/
structure Broker (World : Type) where
  place : Instant → OrderTicket → State World → Except Refusal Receipt × State World

end OrderKeeper
