import OrderKeeper.Decimal.Text
import OrderKeeper.Json.Access
import OrderKeeper.Json.Decoder
import OrderKeeper.Order.Basic
import OrderKeeper.Time.Timestamp

/-!
Contract: orders as JSON.

Owns: the field names of an order, its reader and its writer.
-/

set_option autoImplicit false

namespace OrderKeeper

open Json (Document Fields Value)

/-- A decimal written as a string, as an integer, or as a float in plain digits. -/
def Decimal.ofDocument? : Document → Option Decimal
  | .string pieces =>
      (Json.decodeString? pieces).bind fun text => (Decimal.parse text).toOption
  | .numeral text =>
      match Json.Number.ofText? text with
      | some (.integer value) =>
          (Decimal.ofNumeral (Text.signedNumeral value)).toOption
      | some (.float value) => (Decimal.parse value.renderPositional).toOption
      | none => none
  | _ => none

def Instant.ofDocument? (document : Document) : Option Instant :=
  document.text?.bind Timestamp.parse?

namespace Order

def fieldNames : List String :=
  ["id", "client_key", "symbol", "side", "order_type", "quantity", "price", "stop_price",
    "time_in_force", "status", "venue_order_id", "filled_qty", "avg_fill_price", "error",
    "strategy_id", "oco_group_id", "created_at", "updated_at"]

def ofDocument? (document : Document) : Option Order := do
  let fields ← document.fields? (fieldNames.map fun name => [name])
  let id ← fields.required? 0 Document.text?
  let clientKey ← fields.required? 1 Document.text?
  let symbol ← fields.required? 2 Document.text?
  let side ← fields.required? 3 (Document.word? Side.ofName?)
  let orderKind ← fields.required? 4 (Document.word? OrderKind.ofName?)
  let quantity ← fields.required? 5 Decimal.ofDocument?
  let price ← fields.optional? 6 Decimal.ofDocument?
  let stopPrice ← fields.optional? 7 Decimal.ofDocument?
  let timeInForce ← fields.required? 8 (Document.word? TimeInForce.ofName?)
  let status ← fields.required? 9 (Document.word? Status.ofName?)
  let venueOrderId ← fields.optional? 10 Document.text?
  let filledQuantity ← fields.required? 11 Decimal.ofDocument?
  let averageFillPrice ← fields.optional? 12 Decimal.ofDocument?
  let error ← fields.optional? 13 Document.text?
  let strategyId ← fields.optional? 14 Document.text?
  let pairGroup ← fields.optional? 15 Document.text?
  let createdAt ← fields.required? 16 Instant.ofDocument?
  let updatedAt ← fields.required? 17 Instant.ofDocument?
  some
    { id := ⟨id⟩, clientKey, symbol, side, orderKind, quantity, price, stopPrice,
      timeInForce, status, venueOrderId, filledQuantity, averageFillPrice, error,
      strategyId, pairGroup, createdAt, updatedAt }

def parse? (text : String) : Option Order :=
  (Document.parse? text).bind ofDocument?

/-- The members of an order but for its times. -/
def members (order : Order) : List (String × Value) :=
  let text := Value.string
  let decimal := fun x : Decimal => Value.string x.render
  [("id", text order.id.text),
    ("client_key", text order.clientKey),
    ("symbol", text order.symbol),
    ("side", text order.side.name),
    ("order_type", text order.orderKind.name),
    ("quantity", decimal order.quantity),
    ("price", .optional decimal order.price),
    ("stop_price", .optional decimal order.stopPrice),
    ("time_in_force", text order.timeInForce.name),
    ("status", text order.status.name),
    ("venue_order_id", .optional text order.venueOrderId),
    ("filled_qty", decimal order.filledQuantity),
    ("avg_fill_price", .optional decimal order.averageFillPrice),
    ("error", .optional text order.error),
    ("strategy_id", .optional text order.strategyId),
    ("oco_group_id", .optional text order.pairGroup)]

def toValue (order : Order) : Value :=
  .ofMembers (order.members
    ++ [("created_at", .string (Timestamp.render order.createdAt)),
      ("updated_at", .string (Timestamp.render order.updatedAt))])

end Order

end OrderKeeper
