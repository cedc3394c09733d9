import OrderKeeper.Order.Basic
import OrderKeeper.Venue.ListedOrder

/-!
Contract: taking over orders that only a venue knows.

Owns: the order that a listed row stands for and the causes for which a row is refused.
A row needs an id, a symbol and quantities that are not negative; everything else has a
default.
-/

set_option autoImplicit false

namespace OrderKeeper

inductive ImportRefusal where
  | missingField (field : String)
  | invalidField (field value : String)
deriving DecidableEq, Repr

namespace ImportRefusal

def kind : ImportRefusal → String
  | .missingField _ => "MissingField"
  | .invalidField _ _ => "InvalidField"

def message : ImportRefusal → String
  | .missingField field => "Remote order missing required field '" ++ field ++ "'"
  | .invalidField field value =>
      "Remote order field '" ++ field ++ "' has unrecognized value '" ++ value ++ "'"

end ImportRefusal

/-- The tag of orders taken over from a venue. -/
def importTag : String := "imported"

/-- Refuses a value below zero. -/
def refuseNegative (field : String) (value : Option Decimal) :
    Except ImportRefusal (Option Decimal) :=
  match value with
  | some x =>
      if x.negative && !x.isZero then .error (.invalidField field x.render) else .ok (some x)
  | none => .ok none

/-- The order that a listed row stands for.  An unknown side is a buy, an unknown status is
new, since the venue lists the order as open, and an absent quantity is what has been
executed. -/
def importedOrder (now : Instant) (venue : String) (row : ListedOrder) :
    Except ImportRefusal Order :=
  match row.orderId, row.symbol with
  | none, _ => .error (.missingField "order_id")
  | _, none => .error (.missingField "symbol")
  | some venueOrderId, some symbol =>
      match refuseNegative "executedQty" row.executedQuantity,
          refuseNegative "origQty" row.orderedQuantity with
      | .error cause, _ => .error cause
      | _, .error cause => .error cause
      | .ok executed, .ok orderedQuantity =>
          let filled := executed.getD .zero
          .ok
            { id := .imported venue venueOrderId
              clientKey := importTag
              symbol := Symbol.composite symbol venue
              side := (row.side.bind Side.ofVendor?).getD .buy
              orderKind := .ofVendor row.orderKind
              quantity := orderedQuantity.getD filled
              price := row.price
              stopPrice := row.stopPrice
              timeInForce := .ofVendor row.timeInForce
              status := (row.status.bind Status.ofVendor?).getD .new
              venueOrderId := some venueOrderId
              filledQuantity := filled
              averageFillPrice := none
              error := none
              strategyId := none
              pairGroup := none
              createdAt := now
              updatedAt := now }

end OrderKeeper
