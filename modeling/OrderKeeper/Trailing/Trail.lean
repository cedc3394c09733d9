import OrderKeeper.Order.Basic
import OrderKeeper.Trailing.Offset

/-!
Contract: one trailing stop and what a price does to it.

Owns: the trail and its reaction to a price.  The first price sets the reference.  Later
ones lift it when they are better by more than the least move; then the stop follows
the reference, and a price at or past the stop triggers the trail for good.

A reaction whose arithmetic has no result keeps what it had set by then.
-/

set_option autoImplicit false

namespace OrderKeeper

/-- What one price did to a trail. -/
inductive TrailReaction where
  | warmUp
  | holding (stop : Decimal)
  | ratcheted (reference stop : Decimal)
  | triggered (stop : Decimal)
  /-- The trail had triggered before; the price is ignored. -/
  | spent
deriving DecidableEq

structure Trail where
  id : String
  symbol : String
  /-- Side of the protected position: a buy is a long one. -/
  side : Side
  percent : Option Decimal
  absolute : Option Decimal
  quantity : Decimal
  linkedOrder : Option OrderId
  triggered : Bool
  reference : Option Decimal
  currentStop : Option Decimal
  createdAt : Instant
deriving DecidableEq

namespace Trail

def create (now : Instant) (id symbol : String) (side : Side) (offset : TrailOffset)
    (quantity : Decimal) (linkedOrder : Option OrderId) : Trail where
  id := id
  symbol := symbol
  side := side
  percent := match offset with
    | .percent fraction => some fraction
    | .absolute _ => none
  absolute := match offset with
    | .percent _ => none
    | .absolute amount => some amount
  quantity := quantity
  linkedOrder := linkedOrder
  triggered := false
  reference := none
  currentStop := none
  createdAt := now

/-- The fraction when there is one, else the amount, else nothing at all. -/
def offset (trail : Trail) : TrailOffset :=
  match trail.percent, trail.absolute with
  | some fraction, _ => .percent fraction
  | none, some amount => .absolute amount
  | none, none => .absolute .zero

/-- Side of the order that protects the position. -/
def closingSide (trail : Trail) : Side :=
  trail.side.flip

/-- How far a price has moved in favour of the position, as a fraction of the reference. -/
def favourableMove (side : Side) (reference price : Decimal) :
    Except ArithmeticError Decimal :=
  match side with
  | .buy => do (← price.sub reference).div reference
  | .sell => do (← reference.sub price).div reference

/-- Whether a price is at or past the stop. -/
def crosses (side : Side) (price stop : Decimal) : Bool :=
  match side with
  | .buy => decide (price ≤ stop)
  | .sell => decide (stop ≤ price)

/-- Whether a price lifts the reference. -/
def ratchets (trail : Trail) (reference price : Decimal) : Except ArithmeticError Bool := do
  let move ← favourableMove trail.side reference price
  let least ← trail.offset.leastMove price
  return decide (least < move)

/-- Sets the stop that follows from a reference, and triggers the trail if a price has
reached it. -/
def applyStop (trail : Trail) (reference price : Decimal) (ratcheted : Bool) :
    Trail × Except ArithmeticError TrailReaction :=
  match trail.offset.stopBehind reference trail.side with
  | .error cause => (trail, .error cause)
  | .ok stop =>
      let trail := { trail with currentStop := some stop }
      if crosses trail.side price stop then
        ({ trail with triggered := true }, .ok (.triggered stop))
      else if ratcheted then (trail, .ok (.ratcheted reference stop))
      else (trail, .ok (.holding stop))

/-- Sets the reference from the first price. -/
def warmUp (trail : Trail) (price : Decimal) : Trail × Except ArithmeticError TrailReaction :=
  let trail := { trail with reference := some price }
  match trail.offset.stopBehind price trail.side with
  | .error cause => (trail, .error cause)
  | .ok stop => ({ trail with currentStop := some stop }, .ok .warmUp)

/-- Feeds one price to a trail. -/
def feed (trail : Trail) (price : Decimal) : Trail × Except ArithmeticError TrailReaction :=
  if trail.triggered then (trail, .ok .spent)
  else
    match trail.reference with
    | none => trail.warmUp price
    | some reference =>
        match trail.ratchets reference price with
        | .error cause => (trail, .error cause)
        | .ok true => ({ trail with reference := some price }).applyStop price price true
        | .ok false => trail.applyStop reference price false

end Trail

end OrderKeeper
