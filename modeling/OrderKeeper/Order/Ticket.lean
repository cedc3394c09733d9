import OrderKeeper.Decimal.Basic
import OrderKeeper.Order.Terms

/-!
Contract: what a new order is asked for with.

Owns: the ticket and the usual kinds of tickets, good till canceled and of no strategy.
-/

set_option autoImplicit false

namespace OrderKeeper

structure OrderTicket where
  clientKey : String
  symbol : String
  side : Side
  orderKind : OrderKind
  quantity : Decimal
  price : Option Decimal
  stopPrice : Option Decimal
  timeInForce : TimeInForce
  strategyId : Option String
deriving DecidableEq

namespace OrderTicket

def limit (clientKey symbol : String) (side : Side) (quantity price : Decimal) :
    OrderTicket where
  clientKey := clientKey
  symbol := symbol
  side := side
  orderKind := .limit
  quantity := quantity
  price := some price
  stopPrice := none
  timeInForce := .goodTillCanceled
  strategyId := none

def stopMarket (clientKey symbol : String) (side : Side) (quantity stopPrice : Decimal) :
    OrderTicket where
  clientKey := clientKey
  symbol := symbol
  side := side
  orderKind := .stopMarket
  quantity := quantity
  price := none
  stopPrice := some stopPrice
  timeInForce := .goodTillCanceled
  strategyId := none

end OrderTicket

end OrderKeeper
