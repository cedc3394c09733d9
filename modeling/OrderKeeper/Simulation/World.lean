import OrderKeeper.Paper.Market
import OrderKeeper.Simulation.Script

/-!
Contract: the world of a simulation.

Owns: paper venues beside scripted ones, the scripts of placements to come, what has
been noted, and the gateways and the broker that act on it.
-/

set_option autoImplicit false

namespace OrderKeeper.Simulation

structure World where
  market : PaperMarket
  /-- Scripted venues by name. -/
  scripts : Dictionary ScriptedVenue
  calls : List VenueCall
  /-- Outcomes of the placements to come. -/
  outcomes : List PlacementScript
  placements : List Placement

namespace World

def empty : World where
  market := { venues := .empty, ordersPlaced := 0 }
  scripts := .empty
  calls := []
  outcomes := []
  placements := []

instance : Inhabited World := ⟨empty⟩

/-- Forgets what has been noted. -/
def clearNotes (world : World) : World :=
  { world with calls := [], placements := [] }

/-! ## Venues -/

def paperSlot (label : String) : PaperSlot World where
  read := fun world => world.market.venueAt label
  write := fun venue world => { world with market := world.market.setVenue label venue }

def scriptOf (world : World) (name : String) : ScriptedVenue :=
  (world.scripts.get? name).getD default

def note (world : World) (call : VenueCall) : World :=
  { world with calls := world.calls ++ [call] }

def scriptedGateway (name : String) (capabilities : CapabilitySet) : VenueGateway World where
  capabilities := capabilities
  listOpenOrders := fun world => ((world.scriptOf name).answerListing, world)
  cancel := fun id symbol world =>
    ((world.scriptOf name).answerCancel id, world.note (.cancel name id symbol))
  lastPrice := fun symbol world =>
    ((world.scriptOf name).answerPrice symbol, world.note (.price name symbol))

/-! ## Placements -/

/-- The id of the order that is placed on paper after `placed` others. -/
def orderIdAt (placed : Nat) : OrderId :=
  ⟨"order#" ++ String.ofList (Text.numeral (placed + 1))⟩

def drawId (world : World) : OrderId × World :=
  (orderIdAt world.market.ordersPlaced,
    { world with
      market := { world.market with ordersPlaced := world.market.ordersPlaced + 1 } })

/-- Takes the outcome of the next placement; without one it is left to the paper venues. -/
def takeOutcome (world : World) : PlacementScript × World :=
  match world.outcomes with
  | [] => (.paper, world)
  | outcome :: rest => (outcome, { world with outcomes := rest })

/-- Carries out a ticket as a script says. -/
def carryOut (paper : PaperBroker World) (now : Instant) (ticket : OrderTicket)
    (script : PlacementScript) (state : State World) :
    Except Refusal Receipt × State World :=
  match script with
  | .fail cause => (.error cause, state)
  | .ghost id => (.ok { id, venueOrderId := none }, state)
  | .written id venueOrderId =>
      let order := Order.create now id ticket.clientKey ticket.symbol ticket.side
        ticket.orderKind ticket.quantity
      (.ok { id, venueOrderId },
        { state with ledger := (state.ledger.write now order).1 })
  | .paper => paper.place now ticket state

/-- Carries out each ticket as the next script says, and notes it. -/
def broker (paper : PaperBroker World) : Broker World where
  place := fun now ticket state =>
    let (script, world) := state.world.takeOutcome
    let (answer, state) := carryOut paper now ticket script { state with world }
    let world := state.world
    (answer,
      { state with
        world := { world with placements := world.placements ++ [⟨ticket, answer⟩] } })

end World

end OrderKeeper.Simulation
