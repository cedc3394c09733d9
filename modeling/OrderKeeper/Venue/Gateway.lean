import OrderKeeper.Venue.Capability
import OrderKeeper.Venue.ListedOrder

/-!
Contract: the operations of a venue.

Owns: the faults of venue calls and the gateway through which a venue is reached.  A
gateway acts on a world outside the core, so each operation is a transition of that
world with an answer.
-/

set_option autoImplicit false

namespace OrderKeeper

inductive VenueFault where
  /-- The venue has no such operation. -/
  | unsupported (capability : Capability)
  | unknownVenue (name : String)
  | network (text : String)
  /-- The venue answered with an error of its own. -/
  | api (text : String)
deriving DecidableEq, Repr

namespace VenueFault

def kind : VenueFault → String
  | .unsupported _ => "Unsupported"
  | .unknownVenue _ => "UnknownVenue"
  | .network _ => "Network"
  | .api _ => "Api"

def message : VenueFault → String
  | .unsupported capability => "Capability not supported: " ++ capability.name
  | .unknownVenue name => "Unknown venue: " ++ name
  | .network text => "Network error: " ++ text
  | .api text => "Venue API error: " ++ text

end VenueFault

/-- A venue as the core reaches it.  An operation that a venue lacks says so. -/
structure VenueGateway (World : Type) where
  capabilities : CapabilitySet
  listOpenOrders : World → Except VenueFault (List ListedOrder) × World :=
    fun world => (.error (.unsupported .listOpenOrders), world)
  cancel : (venueOrderId symbol : String) → World → Except VenueFault Unit × World :=
    fun _ _ world => (.error (.unsupported .cancel), world)
  lastPrice : (symbol : String) → World → Except VenueFault (Option Decimal) × World :=
    fun _ world => (.error (.unsupported .lastPrice), world)

end OrderKeeper
