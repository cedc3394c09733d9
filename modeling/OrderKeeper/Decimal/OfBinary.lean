import OrderKeeper.Binary64.Basic
import OrderKeeper.Decimal.Basic

/-!
Contract: decimals near binary floating-point numbers.

Owns: the decimal that stands for a finite number.  A large integer is taken as it is.
Any other number is brought from a power of two to a power of ten by factors of two and
five, as long as 96 bits hold them, then to 28 fraction digits, and last to the digits
that 52 bits account for.
-/

set_option autoImplicit false

namespace OrderKeeper.Decimal

-- Powers are those of the core library, also beside a library that has its own.
attribute [local instance (high)] instPowNat

/-- A value `mantissa · 10 ^ exponent` on its way to a decimal. -/
structure Scaled where
  mantissa : Nat
  exponent : Int
deriving DecidableEq, Repr

namespace Scaled

/-- The mantissa without its last digit, rounded half up. -/
def tenth (mantissa : Nat) : Nat :=
  if 5 ≤ mantissa % 10 then mantissa / 10 + 1 else mantissa / 10

/-- Divides by two `steps` times: by five and ten where the mantissa is odd and has room,
else by dropping its last bit. -/
def halve : Nat → Scaled → Scaled
  | 0, x => x
  | steps + 1, x =>
      if x.mantissa % 2 = 1 ∧ 5 * x.mantissa < mantissaLimit then
        halve steps { x with mantissa := 5 * x.mantissa }
      else halve steps ⟨x.mantissa / 2, x.exponent + 1⟩

/-- Drops `steps` digits; a mantissa of which nothing is left is plain zero. -/
def drop : Nat → Scaled → Scaled
  | 0, x => x
  | steps + 1, x =>
      if x.mantissa / 10 = 0 then ⟨0, 0⟩ else drop steps ⟨tenth x.mantissa, x.exponent + 1⟩

/-- The mantissas that a binary number accounts for in full. -/
abbrev accountedLimit : Nat := 2 ^ (52 : Nat)

/-- Drops up to `steps` fraction digits while the mantissa says more than it accounts
for. -/
def trim : Nat → Scaled → Scaled
  | 0, x => x
  | steps + 1, x =>
      if x.exponent < 0 ∧ accountedLimit ≤ x.mantissa then
        trim steps ⟨tenth x.mantissa, x.exponent + 1⟩
      else x

/-- The decimal of a value with between none and 28 fraction digits. -/
def toDecimal? (negative : Bool) (x : Scaled) : Option Decimal :=
  let (mantissa, scale) := stripZeros x.mantissa x.exponent.natAbs
  if inRange : x.exponent ≤ 0 ∧ mantissa < 2 ^ (96 : Nat) ∧ scale ≤ 28 then
    some (ofParts negative mantissa scale inRange.2.1 inRange.2.2)
  else none

end Scaled

/-- The decimal near a finite number whose magnitude is below `2 ^ 96`. -/
def ofBinary? (x : Binary64) : Option Decimal :=
  if !x.isFinite then none
  else if x.isZero then some ⟨x.isNegative, 0, 0, zero.mantissa_lt, zero.scale_le⟩
  else if x.exponent ≤ 0 then
    let whole := Scaled.halve x.exponent.natAbs ⟨x.significand, x.exponent⟩
    let fitted := whole.drop (-(maxScale : Int) - whole.exponent).toNat
    (fitted.trim maxScale).toDecimal? x.isNegative
  else
    let magnitude := x.significand * 2 ^ x.exponent.natAbs
    if fits : magnitude < 2 ^ (96 : Nat) then
      some (ofParts x.isNegative magnitude 0 fits zero.scale_le)
    else none

end OrderKeeper.Decimal
