import OrderKeeper.Decimal.Arithmetic
import OrderKeeper.Decimal.Text
import OrderKeeper.Order.Terms

/-!
Contract: how far a trailing stop stays behind its reference price.

Owns: an offset as a fraction of the reference or as an amount, its validation, the move
that lifts the reference, and the stop that follows from a reference.
-/

set_option autoImplicit false

namespace OrderKeeper

/-- Why a trail is refused. -/
inductive TrailRefusal where
  | noParameter
  | bothParameters
  | nonPositive (field : String) (value : Decimal)
deriving DecidableEq

namespace TrailRefusal

def kind : TrailRefusal → String
  | .noParameter => "NoTrailParameter"
  | .bothParameters => "BothTrailParameters"
  | .nonPositive _ _ => "NonPositive"

def message : TrailRefusal → String
  | .noParameter => "Exactly one of trail_pct or trail_usd is required, got neither"
  | .bothParameters => "Exactly one of trail_pct or trail_usd is required, got both"
  | .nonPositive field value => field ++ " must be positive, got " ++ value.render

end TrailRefusal

def requirePositive (field : String) (value : Decimal) : Except TrailRefusal Unit :=
  if Decimal.zero < value then .ok () else .error (.nonPositive field value)

inductive TrailOffset where
  /-- A fraction of the reference price. -/
  | percent (fraction : Decimal)
  /-- An amount in quote currency. -/
  | absolute (amount : Decimal)
deriving DecidableEq

namespace TrailOffset

/-- The offset of exactly one positive parameter. -/
def ofParameters (percent absolute : Option Decimal) : Except TrailRefusal TrailOffset :=
  match percent, absolute with
  | none, none => .error .noParameter
  | some _, some _ => .error .bothParameters
  | some fraction, none => (requirePositive "trail_pct" fraction).map fun _ => .percent fraction
  | none, some amount => (requirePositive "trail_usd" amount).map fun _ => .absolute amount

/-- The least favourable move, as a fraction, that lifts the reference. -/
def leastMove (offset : TrailOffset) (price : Decimal) : Except ArithmeticError Decimal :=
  match offset with
  | .percent fraction => .ok fraction
  | .absolute amount => amount.div price

/-- The stop below the reference of a long position, above that of a short one. -/
def stopBehind (offset : TrailOffset) (reference : Decimal) (side : Side) :
    Except ArithmeticError Decimal :=
  match offset, side with
  | .percent fraction, .buy => do reference.mul (← Decimal.one.sub fraction)
  | .percent fraction, .sell => do reference.mul (← Decimal.one.add fraction)
  | .absolute amount, .buy => reference.sub amount
  | .absolute amount, .sell => reference.add amount

def describe : TrailOffset → String
  | .percent fraction => "pct=" ++ fraction.normalize.render
  | .absolute amount => "usd=" ++ amount.normalize.render

end TrailOffset

end OrderKeeper
