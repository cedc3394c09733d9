import OrderKeeper.Decimal.Arithmetic
import OrderKeeper.Order.Symbol
import OrderKeeper.Order.Terms
import OrderKeeper.Time.Instant

/-!
Contract: one order of the ledger.

Owns: local order ids, the order, and what can be read off an order alone.
-/

set_option autoImplicit false

namespace OrderKeeper

/-- The local identity of an order, kept apart from the ids that venues assign. -/
structure OrderId where
  text : String
deriving DecidableEq, Repr, Inhabited

namespace OrderId

/-- A new id must not be empty. -/
inductive CreationError where
  | empty
deriving DecidableEq, Repr

def CreationError.message : CreationError → String
  | .empty => "OrderId cannot be empty"

def create (text : String) : Except CreationError OrderId :=
  if text.isEmpty then .error .empty else .ok ⟨text⟩

/-- The id under which an order listed by a venue is imported. -/
def imported (venue venueOrderId : String) : OrderId :=
  ⟨"imported:" ++ venue ++ ":" ++ venueOrderId⟩

end OrderId

structure Order where
  id : OrderId
  /-- Tag of the writer, `imported` for orders taken over from a venue. -/
  clientKey : String
  symbol : String
  side : Side
  orderKind : OrderKind
  quantity : Decimal
  price : Option Decimal
  stopPrice : Option Decimal
  timeInForce : TimeInForce
  status : Status
  venueOrderId : Option String
  filledQuantity : Decimal
  averageFillPrice : Option Decimal
  error : Option String
  strategyId : Option String
  pairGroup : Option String
  createdAt : Instant
  updatedAt : Instant
deriving DecidableEq

namespace Order

/-- A new order of which nothing is filled. -/
def create (now : Instant) (id : OrderId) (clientKey symbol : String) (side : Side)
    (orderKind : OrderKind) (quantity : Decimal) : Order where
  id := id
  clientKey := clientKey
  symbol := symbol
  side := side
  orderKind := orderKind
  quantity := quantity
  price := none
  stopPrice := none
  timeInForce := .goodTillCanceled
  status := .new
  venueOrderId := none
  filledQuantity := .zero
  averageFillPrice := none
  error := none
  strategyId := none
  pairGroup := none
  createdAt := now
  updatedAt := now

def venue? (order : Order) : Option String :=
  Symbol.venue? order.symbol

def isOpen (order : Order) : Bool :=
  order.status.isOpen

/-- Equality up to the forms of the decimals. -/
def agrees (order other : Order) : Bool :=
  let sameAmount? : Option Decimal → Option Decimal → Bool
    | some x, some y => x.sameValue y
    | none, none => true
    | _, _ => false
  let recast :=
    { order with
      quantity := other.quantity
      price := other.price
      stopPrice := other.stopPrice
      filledQuantity := other.filledQuantity
      averageFillPrice := other.averageFillPrice }
  decide (recast = other)
    && order.quantity.sameValue other.quantity
    && order.filledQuantity.sameValue other.filledQuantity
    && sameAmount? order.price other.price
    && sameAmount? order.stopPrice other.stopPrice
    && sameAmount? order.averageFillPrice other.averageFillPrice

/-- What is left to fill, never less than zero. -/
def unfilled (order : Order) : Except ArithmeticError Decimal :=
  (order.quantity.sub order.filledQuantity).map (Decimal.larger · .zero)

end Order

end OrderKeeper
