import OrderKeeper.Json.Access
import OrderKeeper.Time.Timestamp
import OrderKeeper.Trailing.Trail

/-!
Contract: trails as JSON.

Owns: the field names of a trail and its writer.
-/

set_option autoImplicit false

namespace OrderKeeper.Trail

open Json (Value)

/-- The members of a trail but for the time at which it was made. -/
def members (trail : Trail) : List (String × Value) :=
  let decimal := fun x : Decimal => Value.string x.render
  [("trail_id", .string trail.id),
    ("symbol", .string trail.symbol),
    ("side", .string trail.side.name),
    ("trail_pct", .optional decimal trail.percent),
    ("trail_usd", .optional decimal trail.absolute),
    ("quantity", decimal trail.quantity),
    ("linked_order_id",
      .optional (fun id : OrderId => .string id.text) trail.linkedOrder),
    ("triggered", .bool trail.triggered),
    ("ref_price", .optional decimal trail.reference),
    ("current_stop_price", .optional decimal trail.currentStop)]

def toValue (trail : Trail) : Value :=
  .ofMembers (trail.members ++ [("created_at", .string (Timestamp.render trail.createdAt))])

end OrderKeeper.Trail
