/-!
Contract: 64-bit binary floating-point numbers.

Owns: the number as its bit pattern, the exact value of a finite one, rounding of an
exact fraction to the nearest number, and the arithmetic that follows from it.

A finite number is `± significand · 2 ^ exponent`; every operation computes that
value exactly and rounds once, a tie to the even significand.
-/

set_option autoImplicit false

namespace OrderKeeper

-- Powers are those of the core library, also beside a library that has its own.
attribute [local instance (high)] instPowNat

structure Binary64 where
  bits : UInt64
deriving DecidableEq, Repr

namespace Binary64

def isNegative (x : Binary64) : Bool :=
  2 ^ (63 : Nat) ≤ x.bits.toNat

/-- The pattern without its sign. -/
def magnitude (x : Binary64) : Nat :=
  x.bits.toNat % 2 ^ (63 : Nat)

/-- The magnitude of the two infinities; every larger one is a NaN. -/
abbrev infinityMagnitude : Nat := 0x7FF0000000000000

def ofMagnitude (negative : Bool) (magnitude : Nat) : Binary64 :=
  ⟨UInt64.ofNat ((if negative then 2 ^ (63 : Nat) else 0) + magnitude)⟩

def zero : Binary64 := ⟨0⟩

def one : Binary64 := ⟨0x3FF0000000000000⟩

def infinity (negative : Bool) : Binary64 :=
  ofMagnitude negative infinityMagnitude

def nan : Binary64 := ⟨0x7FF8000000000000⟩

instance : Inhabited Binary64 := ⟨zero⟩

def isNaN (x : Binary64) : Bool :=
  infinityMagnitude < x.magnitude

def isFinite (x : Binary64) : Bool :=
  x.magnitude < infinityMagnitude

def isZero (x : Binary64) : Bool :=
  x.magnitude == 0

def negate (x : Binary64) : Binary64 :=
  ofMagnitude (!x.isNegative) x.magnitude

/-! ## Exact values -/

def significand (x : Binary64) : Nat :=
  if x.magnitude / 2 ^ (52 : Nat) = 0 then x.magnitude
  else 2 ^ (52 : Nat) + x.magnitude % 2 ^ (52 : Nat)

def exponent (x : Binary64) : Int :=
  if x.magnitude / 2 ^ (52 : Nat) = 0 then -1074 else (x.magnitude / 2 ^ (52 : Nat) : Nat) - 1075

def signedSignificand (x : Binary64) : Int :=
  if x.isNegative then -(x.significand : Int) else x.significand

/-- The power of two that an exact value is counted in; no finite number has a finer one. -/
abbrev finestExponent : Nat := 1074

/-- The value of a finite number in units of `2 ^ (-1074)`. -/
def units (x : Binary64) : Int :=
  x.signedSignificand * 2 ^ (x.exponent + finestExponent).toNat

/-! ## Rounding -/

/-- Division rounded to the nearest natural number, a tie to the even one. -/
def nearestQuotient (numerator denominator : Nat) : Nat :=
  let quotient := numerator / denominator
  let twice := 2 * (numerator % denominator)
  if denominator < twice ∨ (twice = denominator ∧ quotient % 2 = 1) then quotient + 1
  else quotient

/-- `numerator / (denominator · 2 ^ exponent)` as a fraction. -/
def scaleDown (numerator denominator : Nat) (exponent : Int) : Nat × Nat :=
  if exponent < 0 then (numerator * 2 ^ exponent.natAbs, denominator)
  else (numerator, denominator * 2 ^ exponent.natAbs)

/-- The exponent at which a positive fraction has a significand of 53 bits, or the least
exponent when it has fewer there. -/
def exponentOf (numerator denominator : Nat) : Int :=
  let guess : Int := (numerator.log2 : Int) - denominator.log2 - 52
  let (n, d) := scaleDown numerator denominator guess
  let exponent := if n / d < 2 ^ (52 : Nat) then guess - 1 else guess
  max exponent (-1074)

/-- The number nearest to a fraction, an infinity when it is too large. -/
def ofFraction (negative : Bool) (numerator denominator : Nat) : Binary64 :=
  if numerator = 0 then ofMagnitude negative 0
  else
    let exponent := exponentOf numerator denominator
    let (n, d) := scaleDown numerator denominator exponent
    let magnitude := (exponent + 1074).toNat * 2 ^ (52 : Nat) + nearestQuotient n d
    ofMagnitude negative (min magnitude infinityMagnitude)

def ofNat (n : Nat) : Binary64 :=
  ofFraction false n 1

def ofInt (i : Int) : Binary64 :=
  ofFraction (i < 0) i.natAbs 1

/-- The number nearest to `coefficient · 10 ^ exponent`. -/
def ofDecimal (negative : Bool) (coefficient : Nat) (exponent : Int) : Binary64 :=
  if exponent < 0 then ofFraction negative coefficient (10 ^ exponent.natAbs)
  else ofFraction negative (coefficient * 10 ^ exponent.natAbs) 1

/-! ## Arithmetic -/

/-- The number nearest to `units · 2 ^ (-1074)`. -/
def ofUnits (units : Int) : Binary64 :=
  ofFraction (units < 0) units.natAbs (2 ^ finestExponent)

def add (x y : Binary64) : Binary64 :=
  if x.isNaN || y.isNaN then nan
  else if !x.isFinite then
    if !y.isFinite && x.isNegative != y.isNegative then nan else x
  else if !y.isFinite then y
  else if x.units + y.units = 0 then
    ofMagnitude (x.isNegative && y.isNegative) 0
  else ofUnits (x.units + y.units)

def sub (x y : Binary64) : Binary64 :=
  add x y.negate

def mul (x y : Binary64) : Binary64 :=
  let negative := x.isNegative != y.isNegative
  if x.isNaN || y.isNaN then nan
  else if !x.isFinite || !y.isFinite then
    if x.isZero || y.isZero then nan else infinity negative
  else
    ofFraction negative (x.units.natAbs * y.units.natAbs) (2 ^ (2 * finestExponent))

def div (x y : Binary64) : Binary64 :=
  let negative := x.isNegative != y.isNegative
  if x.isNaN || y.isNaN then nan
  else if !x.isFinite then if y.isFinite then infinity negative else nan
  else if !y.isFinite then ofMagnitude negative 0
  else if y.isZero then if x.isZero then nan else infinity negative
  else ofFraction negative x.units.natAbs y.units.natAbs

/-! ## Order -/

/-- Order by value.  A NaN is below nothing and above nothing; the two zeros are equal. -/
def below (x y : Binary64) : Bool :=
  if x.isNaN || y.isNaN then false
  else
    let value := fun z : Binary64 => if z.isNegative then -(z.magnitude : Int) else z.magnitude
    value x < value y

/-- The place of a number in the order of all patterns: negative NaNs, then the numbers by
value with `-0` before `0`, then the positive NaNs. -/
def rank (x : Binary64) : Int :=
  if x.isNegative then -(x.magnitude : Int) - 1 else x.magnitude

end Binary64

end OrderKeeper
