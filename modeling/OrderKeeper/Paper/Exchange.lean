import OrderKeeper.Dictionary
import OrderKeeper.Order.Symbol
import OrderKeeper.Text.Digits
import OrderKeeper.Venue.Gateway

/-!
Contract: a venue on paper.

Owns: the book of open orders and the last prices of a simulated venue, the ids it
assigns, its answers, and the gateway to it inside a world.  Symbols may be
composite or bare; prices go by the base part, in upper case.
-/

set_option autoImplicit false

namespace OrderKeeper

structure PaperExchange where
  name : String
  /-- Open orders by venue order id. -/
  book : Dictionary ListedOrder
  /-- Last prices by base symbol. -/
  prices : Dictionary Decimal
  nextNumber : Nat
  /-- While set, every call fails. -/
  failing : Bool
deriving Inhabited

namespace PaperExchange

def create (name : String) : PaperExchange where
  name := Text.upper name
  book := .empty
  prices := .empty
  nextNumber := 1
  failing := false

/-! ## Book -/

/-- Lists an order as open; one without an id is ignored. -/
def listOrder (venue : PaperExchange) (row : ListedOrder) : PaperExchange :=
  match row.orderId with
  | some id => { venue with book := venue.book.insert id row }
  | none => venue

def delist (venue : PaperExchange) (id : String) : PaperExchange × Option ListedOrder :=
  ({ venue with book := venue.book.erase id }, venue.book.get? id)

/-- The rows of the open orders, by venue order id. -/
def listing (venue : PaperExchange) : List ListedOrder :=
  venue.book.values

def orderIdAt (venue : PaperExchange) (number : Nat) : String :=
  venue.name ++ "-" ++ String.ofList (Text.numeral number)

/-- Assigns the next venue order id. -/
def takeOrderId (venue : PaperExchange) : PaperExchange × String :=
  ({ venue with nextNumber := venue.nextNumber + 1 }, venue.orderIdAt venue.nextNumber)

/-! ## Prices -/

def priceKey (symbol : String) : String :=
  Text.upper (Symbol.base symbol)

def quote (venue : PaperExchange) (symbol : String) (price : Decimal) : PaperExchange :=
  { venue with prices := venue.prices.insert (priceKey symbol) price }

def unquote (venue : PaperExchange) (symbol : String) : PaperExchange :=
  { venue with prices := venue.prices.erase (priceKey symbol) }

def lastQuote? (venue : PaperExchange) (symbol : String) : Option Decimal :=
  venue.prices.get? (priceKey symbol)

/-! ## Answers -/

def withFailing (venue : PaperExchange) (failing : Bool) : PaperExchange :=
  { venue with failing }

/-- The fault of a venue that fails. -/
def unreachable (name : String) : VenueFault :=
  .network (name ++ " unreachable (simulated)")

def answerListing (venue : PaperExchange) : Except VenueFault (List ListedOrder) :=
  if venue.failing then .error (unreachable venue.name) else .ok venue.listing

def answerCancel (venue : PaperExchange) (id : String) : PaperExchange × Except VenueFault Unit :=
  if venue.failing then (venue, .error (unreachable venue.name))
  else
    match venue.delist id with
    | (venue, some _) => (venue, .ok ())
    | (venue, none) => (venue, .error (.api ("unknown order " ++ id)))

def answerPrice (venue : PaperExchange) (symbol : String) : Except VenueFault (Option Decimal) :=
  if venue.failing then .error (unreachable venue.name) else .ok (venue.lastQuote? symbol)

end PaperExchange

/-- The place of one paper venue in a world. -/
structure PaperSlot (World : Type) where
  read : World → PaperExchange
  write : PaperExchange → World → World

/-- Reaches the venue at a place; it has every capability. -/
def PaperSlot.gateway {World : Type} (slot : PaperSlot World) : VenueGateway World where
  capabilities := .all
  listOpenOrders := fun world => ((slot.read world).answerListing, world)
  cancel := fun id _ world =>
    let (venue, answer) := (slot.read world).answerCancel id
    (answer, slot.write venue world)
  lastPrice := fun symbol world => ((slot.read world).answerPrice symbol, world)

end OrderKeeper
