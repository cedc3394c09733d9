import OrderKeeper.Paper.Exchange
import OrderKeeper.Venue.Broker

/-!
Contract: placing orders on paper venues.

Owns: the checks of a ticket, the row that a placed order has in the book of the venue its
symbol names, and the order as it enters the ledger.  A refused ticket changes nothing.
-/

set_option autoImplicit false

namespace OrderKeeper

/-- Paper venues by name, and the supply of local order ids. -/
structure PaperBroker (World : Type) where
  venues : Dictionary (PaperSlot World)
  drawId : World → OrderId × World

namespace PaperBroker

variable {World : Type}

/-- The row of a new order. -/
def rowOf (ticket : OrderTicket) (venueOrderId : String) : ListedOrder where
  orderId := some venueOrderId
  symbol := some (Symbol.base ticket.symbol)
  side := some ticket.side.name
  orderKind := some ticket.orderKind.name
  orderedQuantity := some ticket.quantity
  executedQuantity := some .zero
  price := ticket.price
  stopPrice := ticket.stopPrice
  timeInForce := some ticket.timeInForce.name
  status := some Status.new.name

/-- A new order as it enters the ledger. -/
def orderOf (now : Instant) (ticket : OrderTicket) (id : OrderId) (venueOrderId : String) :
    Order :=
  { Order.create now id ticket.clientKey ticket.symbol ticket.side
      ticket.orderKind ticket.quantity with
    venueOrderId := some venueOrderId
    price := ticket.price
    stopPrice := ticket.stopPrice
    timeInForce := ticket.timeInForce
    strategyId := ticket.strategyId }

/-- The place of the venue that a ticket is for, unless the ticket is refused. -/
def route (broker : PaperBroker World) (ticket : OrderTicket) (world : World) :
    Except Refusal (PaperSlot World) :=
  if ticket.quantity ≤ .zero then
    .error (.rejected ("quantity must be positive, got " ++ ticket.quantity.render))
  else
    match Symbol.venue? ticket.symbol with
    | none => .error (.rejected ("symbol " ++ ticket.symbol ++ " has no venue suffix"))
    | some suffix =>
        let name := Text.upper suffix
        match broker.venues.get? name with
        | none => .error (.venue (.unknownVenue name))
        | some slot =>
            if (slot.read world).failing then .error (.venue (PaperExchange.unreachable name))
            else .ok slot

/-- Lists an order on the venue at a place and writes it into the ledger. -/
def submit (broker : PaperBroker World) (slot : PaperSlot World) (now : Instant)
    (ticket : OrderTicket) (state : State World) : Receipt × State World :=
  let (venue, venueOrderId) := (slot.read state.world).takeOrderId
  let world := slot.write (venue.listOrder (rowOf ticket venueOrderId)) state.world
  let (id, world) := broker.drawId world
  let (ledger, _) := state.ledger.write now (orderOf now ticket id venueOrderId)
  ({ id, venueOrderId := some venueOrderId }, { ledger, world })

def place (broker : PaperBroker World) (now : Instant) (ticket : OrderTicket)
    (state : State World) : Except Refusal Receipt × State World :=
  match broker.route ticket state.world with
  | .error cause => (.error cause, state)
  | .ok slot =>
      let (receipt, state) := broker.submit slot now ticket state
      (.ok receipt, state)

def toBroker (broker : PaperBroker World) : Broker World where
  place := broker.place

end PaperBroker

end OrderKeeper
