import OrderKeeper.Decimal.Basic

/-!
Contract: sums, products and quotients of decimals.

Owns: the rounding that brings an exact result into 96 bits and 28 fraction
digits, the four operations, and the causes for which they have no result.

A sum or a product is computed exactly and loses as few fraction digits as it
must; a quotient keeps as many as fit.  Each rounding goes to the nearest
decimal, a tie to the even digit.
-/

set_option autoImplicit false

namespace OrderKeeper

-- Powers are those of the core library, also beside a library that has its own.
attribute [local instance (high)] instPowNat

/-- Why an operation on decimals has no result. -/
inductive ArithmeticError where
  | additionOverflow
  | subtractionOverflow
  | multiplicationOverflow
  | divisionOverflow
  | divisionByZero
deriving DecidableEq, Repr

def ArithmeticError.message : ArithmeticError → String
  | .additionOverflow => "Addition overflowed"
  | .subtractionOverflow => "Subtraction overflowed"
  | .multiplicationOverflow => "Multiplication overflowed"
  | .divisionOverflow => "Division overflowed"
  | .divisionByZero => "Division by zero"

namespace Decimal

/-- The least number of digits to drop so that the rest is below the mantissa limit. -/
def excessDigits (magnitude : Nat) : Nat :=
  if magnitude < mantissaLimit then 0 else excessDigits (magnitude / 10) + 1
termination_by magnitude
decreasing_by
  rename_i large
  have : ¬ magnitude < 2 ^ (96 : Nat) := large
  omega

/-- The mantissa just above the limit, once rounded to one digit less. -/
abbrev carriedMantissa : Nat := 7922816251426433759354395034

theorem carriedMantissa_lt : carriedMantissa < 2 ^ (96 : Nat) := by decide

/-- The decimal nearest to `magnitude · 10 ^ (-scale)` with the fewest digits dropped, or
nothing when even the integer part does not fit.  What is rounded to zero keeps its sign. -/
def fit? (negative : Bool) (magnitude scale : Nat) : Option Decimal :=
  let dropped := max (excessDigits magnitude) (scale - maxScale)
  if tooMany : scale < dropped then none
  else
    let mantissa := divHalfEven magnitude (10 ^ dropped)
    if fits : mantissa < 2 ^ (96 : Nat) then
      some ⟨negative, mantissa, scale - dropped, fits,
        by have : maxScale = 28 := rfl; omega⟩
    else if scale = dropped then none
    else
      some ⟨negative, carriedMantissa, scale - dropped - 1, carriedMantissa_lt,
        by have : maxScale = 28 := rfl; omega⟩

/-- The signed mantissa of `x` written with `scale` fraction digits. -/
def coefficientAt (x : Decimal) (scale : Nat) : Int :=
  x.coefficient * 10 ^ (scale - x.scale)

/-- The sum of two numbers that are not zero. -/
def sumOfNonzero? (x y : Decimal) : Option Decimal :=
  let scale := max x.scale y.scale
  let total := x.coefficientAt scale + y.coefficientAt scale
  fit? (total < 0) total.natAbs scale

/-- A sum with a zero is the other number as it stands. -/
def add (x y : Decimal) : Except ArithmeticError Decimal :=
  if x.isZero then .ok y
  else if y.isZero then .ok x
  else
    match sumOfNonzero? x y with
    | some total => .ok total
    | none => .error .additionOverflow

def sub (x y : Decimal) : Except ArithmeticError Decimal :=
  if x.isZero then .ok y.opposite
  else if y.isZero then .ok x
  else
    match sumOfNonzero? x y.opposite with
    | some difference => .ok difference
    | none => .error .subtractionOverflow

/-- Mantissas below which a number is small. -/
abbrev smallMantissa : Nat := 2 ^ (32 : Nat)

/-- Fraction digits that a product of two small numbers may have before nothing of it is
left. -/
abbrev smallProductScale : Nat := 47

/-- A product with a zero is plain zero.  A product of two small numbers that is rounded to
zero has no sign, any other keeps its own. -/
def mul (x y : Decimal) : Except ArithmeticError Decimal :=
  let small := decide (x.mantissa < smallMantissa) && decide (y.mantissa < smallMantissa)
  if x.isZero || y.isZero then .ok zero
  else if small && decide (smallProductScale < x.scale + y.scale) then .ok zero
  else
    match fit? (x.negative != y.negative) (x.mantissa * y.mantissa) (x.scale + y.scale) with
    | some product => .ok (if small then product.plainZero else product)
    | none => .error .multiplicationOverflow

/-- `mantissa / divisor · 10 ^ shift` for a shift that may be negative, as a fraction. -/
def scaledFraction (numerator denominator : Nat) (shift : Int) : Nat × Nat :=
  if shift < 0 then (numerator, denominator * 10 ^ shift.natAbs)
  else (numerator * 10 ^ shift.natAbs, denominator)

/-- The most fraction digits, at most `scale`, with which a quotient fits. -/
def quotientScale? (numerator denominator : Nat) (shift : Int) : Nat → Option Nat
  | 0 =>
      let (n, d) := scaledFraction numerator denominator shift
      if n / d < mantissaLimit then some 0 else none
  | scale + 1 =>
      let (n, d) := scaledFraction numerator denominator (shift + (scale + 1))
      if n / d < mantissaLimit then some (scale + 1)
      else quotientScale? numerator denominator shift scale

theorem quotientScale?_le {numerator denominator : Nat} {shift : Int} {bound scale : Nat}
    (found : quotientScale? numerator denominator shift bound = some scale) :
    scale ≤ bound := by
  induction bound with
  | zero =>
    simp only [quotientScale?] at found
    split at found <;> simp_all
  | succ bound ih =>
    simp only [quotientScale?] at found
    split at found
    · simp at found; omega
    · exact Nat.le_succ_of_le (ih found)

/-- The quotient rounded at the largest scale at which it fits. -/
def quotient? (x y : Decimal) : Option Decimal :=
  let shift : Int := y.scale - x.scale
  match found : quotientScale? x.mantissa y.mantissa shift maxScale with
  | none => none
  | some scale =>
      let (n, d) := scaledFraction x.mantissa y.mantissa (shift + scale)
      let mantissa := divHalfEven n d
      if fits : mantissa < 2 ^ (96 : Nat) then
        some (ofParts (x.negative != y.negative) mantissa scale fits
          (quotientScale?_le found))
      else if scale = 0 then none
      else
        some (ofParts (x.negative != y.negative) carriedMantissa (scale - 1) (by decide)
          (by have := quotientScale?_le found; have : maxScale = 28 := rfl; omega))

def div (x y : Decimal) : Except ArithmeticError Decimal :=
  if y.isZero then .error .divisionByZero
  else if x.isZero then .ok zero
  else
    match quotient? x y with
    | some quotient => .ok quotient
    | none => .error .divisionOverflow

end Decimal

end OrderKeeper
