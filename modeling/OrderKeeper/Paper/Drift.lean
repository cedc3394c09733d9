import OrderKeeper.Decimal.OfBinary
import OrderKeeper.Paper.Exchange

/-!
Contract: random moves of paper prices.

Owns: the uniform draw from a symmetric range that a random word stands for, the price
it leads to, and the walk over all prices of a venue.

A walk stops at a price whose arithmetic has no result; the moves before it stand.
-/

set_option autoImplicit false

namespace OrderKeeper

-- Powers are those of the core library, also beside a library that has its own.
attribute [local instance (high)] instPowNat

/-- Why a walk stops. -/
inductive DriftError where
  | rangeOverflow
  | arithmetic (cause : ArithmeticError)
deriving DecidableEq, Repr

def DriftError.message : DriftError → String
  | .rangeOverflow => "Uniform::new_inclusive: range overflow"
  | .arithmetic cause => cause.message

namespace Drift

/-- The largest fraction that a word of 52 bits stands for, `1 - 2 ^ (-52)`. -/
def largestFraction : Binary64 :=
  .ofFraction false (2 ^ (52 : Nat) - 1) (2 ^ (52 : Nat))

/-- The fraction that the upper 52 bits of a word stand for. -/
def fractionOf (word : UInt64) : Binary64 :=
  .ofFraction false (word.toNat / 2 ^ (12 : Nat)) (2 ^ (52 : Nat))

/-- The largest scale, of at most a given magnitude, with which no draw from `-bound` on
passes `bound`. -/
def fittingScale (bound : Binary64) : Nat → Binary64
  | 0 => .zero
  | magnitude + 1 =>
      let scale := Binary64.ofMagnitude false (magnitude + 1)
      if bound.below ((scale.mul largestFraction).add bound.negate) then
        fittingScale bound magnitude
      else scale

/-- A draw from `-bound` to `bound`, for a positive finite bound. -/
def draw (bound : Binary64) (word : UInt64) : Except DriftError Binary64 :=
  let widest := (bound.sub bound.negate).div largestFraction
  if widest.isFinite then
    let scale := fittingScale bound widest.magnitude
    .ok (((fractionOf word).mul scale).add bound.negate)
  else .error .rangeOverflow

/-- Fraction digits of a moved price. -/
abbrev priceDigits : Nat := 8

/-- A price times a factor.  A factor that no decimal stands for, or a result that is not
positive, leaves it as it was. -/
def movePrice (price : Decimal) (factor : Binary64) : Except DriftError Decimal :=
  match Decimal.ofBinary? factor with
  | none => .ok price
  | some factor =>
      match price.mul factor with
      | .error cause => .error (.arithmetic cause)
      | .ok product =>
          let next := product.roundTo priceDigits
          .ok (if Decimal.zero < next then next else price)

/-- A price after one step of at most `bound`. -/
def step (bound : Binary64) (price : Decimal) (word : UInt64) : Except DriftError Decimal := do
  movePrice price (Binary64.one.add (← draw bound word))

/-- Moves prices in turn, one word each. -/
def moveAll (bound : Binary64) (word : Nat → UInt64) :
    Nat → List (String × Decimal) → Dictionary Decimal →
      Dictionary Decimal × Except DriftError Unit
  | _, [], prices => (prices, .ok ())
  | index, (key, price) :: rest, prices =>
      match step bound price (word index) with
      | .error cause => (prices, .error cause)
      | .ok next => moveAll bound word (index + 1) rest (prices.insert key next)

end Drift

/-- Moves every price by at most a fraction.  A bound that is not positive and finite
moves nothing. -/
def PaperExchange.drift (venue : PaperExchange) (bound : Binary64) (word : Nat → UInt64) :
    PaperExchange × Except DriftError Unit :=
  if bound.isFinite && Binary64.zero.below bound then
    let (prices, result) := Drift.moveAll bound word 0 venue.prices.entries venue.prices
    ({ venue with prices }, result)
  else (venue, .ok ())

end OrderKeeper
