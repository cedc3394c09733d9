import OrderKeeper.Dictionary
import OrderKeeper.Venue.Broker

/-!
Contract: venues and placements that answer from a script.

Owns: the answers written down for a venue, their look-up, the calls that are noted, and
the outcomes written down for placements.
-/

set_option autoImplicit false

namespace OrderKeeper.Simulation

/-- The key under which an answer stands for every other key. -/
def wildcard : String := "*"

/-- Written answers; what is not written down has the answer of a venue that lacks the
operation. -/
structure ScriptedVenue where
  capabilities : CapabilitySet
  listing : Option (Except VenueFault (List ListedOrder))
  cancels : Dictionary (Except VenueFault Unit)
  prices : Dictionary (Except VenueFault (Option Decimal))

namespace ScriptedVenue

def silent (capabilities : CapabilitySet) : ScriptedVenue :=
  ⟨capabilities, none, .empty, .empty⟩

instance : Inhabited ScriptedVenue := ⟨silent .none⟩

def answerFor? {α : Type} (answers : Dictionary α) (key : String) : Option α :=
  (answers.get? key).or (answers.get? wildcard)

def answerListing (venue : ScriptedVenue) : Except VenueFault (List ListedOrder) :=
  venue.listing.getD (.error (.unsupported .listOpenOrders))

def answerCancel (venue : ScriptedVenue) (id : String) : Except VenueFault Unit :=
  (answerFor? venue.cancels id).getD (.error (.unsupported .cancel))

def answerPrice (venue : ScriptedVenue) (symbol : String) :
    Except VenueFault (Option Decimal) :=
  (answerFor? venue.prices symbol).getD (.error (.unsupported .lastPrice))

end ScriptedVenue

/-- A call to a scripted venue that is noted. -/
inductive VenueCall where
  | cancel (venue id symbol : String)
  | price (venue symbol : String)
deriving DecidableEq, Repr

def VenueCall.render : VenueCall → String
  | .cancel venue id symbol => venue ++ " cancel " ++ id ++ " " ++ symbol
  | .price venue symbol => venue ++ " price " ++ symbol

/-- What becomes of one placement. -/
inductive PlacementScript where
  | fail (cause : Refusal)
  /-- A receipt for an id that is not written into the ledger. -/
  | ghost (id : OrderId)
  /-- A receipt for a plain order in the ledger. -/
  | written (id : OrderId) (venueOrderId : Option String)
  /-- Left to the paper venues. -/
  | paper
deriving DecidableEq, Repr

/-- A placement that was attempted, with its answer. -/
structure Placement where
  ticket : OrderTicket
  answer : Except Refusal Receipt

end OrderKeeper.Simulation
