/-!
Contract: decimal numbers of 96 bits.

Owns: the number type, its order, and the changes of form that keep or round one
number.  A decimal is a sign, a mantissa below `2 ^ 96` and a scale of at most 28
fraction digits.  The scale is part of the number's form: `1.50` and `1.5` are
different decimals of one value, and order looks at values only.
-/

set_option autoImplicit false

namespace OrderKeeper

-- Powers are those of the core library, also beside a library that has its own.
attribute [local instance (high)] instPowNat

/-- The number `mantissa · 10 ^ (-scale)`, negated when `negative`. -/
structure Decimal where
  negative : Bool
  mantissa : Nat
  scale : Nat
  mantissa_lt : mantissa < 2 ^ (96 : Nat)
  scale_le : scale ≤ 28
deriving DecidableEq

namespace Decimal

/-- One more than the largest mantissa. -/
abbrev mantissaLimit : Nat := 2 ^ (96 : Nat)

/-- The largest number of fraction digits. -/
abbrev maxScale : Nat := 28

def zero : Decimal := ⟨false, 0, 0, by decide, by decide⟩

def one : Decimal := ⟨false, 1, 0, by decide, by decide⟩

instance : Inhabited Decimal := ⟨zero⟩

def isZero (x : Decimal) : Bool :=
  x.mantissa == 0

/-- The signed mantissa. -/
def coefficient (x : Decimal) : Int :=
  if x.negative then -(x.mantissa : Int) else x.mantissa

/-- A decimal with a plain zero: a zero mantissa carries no sign. -/
def ofParts (negative : Bool) (mantissa scale : Nat) (mantissa_lt : mantissa < 2 ^ (96 : Nat))
    (scale_le : scale ≤ 28) : Decimal :=
  ⟨negative && mantissa != 0, mantissa, scale, mantissa_lt, scale_le⟩

/-- The number itself, but a zero without a sign. -/
def plainZero (x : Decimal) : Decimal :=
  ofParts x.negative x.mantissa x.scale x.mantissa_lt x.scale_le

/-- Order by value: both sides are brought to the sum of the scales. -/
instance : LT Decimal :=
  ⟨fun x y => x.coefficient * 10 ^ y.scale < y.coefficient * 10 ^ x.scale⟩

instance : LE Decimal :=
  ⟨fun x y => x.coefficient * 10 ^ y.scale ≤ y.coefficient * 10 ^ x.scale⟩

instance (x y : Decimal) : Decidable (x < y) :=
  inferInstanceAs
    (Decidable (x.coefficient * 10 ^ y.scale < y.coefficient * 10 ^ x.scale))

instance (x y : Decimal) : Decidable (x ≤ y) :=
  inferInstanceAs
    (Decidable (x.coefficient * 10 ^ y.scale ≤ y.coefficient * 10 ^ x.scale))

/-- Whether two decimals have one value, whatever their forms. -/
def sameValue (x y : Decimal) : Bool :=
  decide (x ≤ y) && decide (y ≤ x)

/-- The larger value; of two equal ones the first, in its own form. -/
def larger (x y : Decimal) : Decimal :=
  if x < y then y else x

/-- The opposite number; zero is kept as it stands. -/
def opposite (x : Decimal) : Decimal :=
  if x.isZero then x else { x with negative := !x.negative }

/-- Division rounded to the nearest natural number, a tie to the even one. -/
def divHalfEven (numerator denominator : Nat) : Nat :=
  let quotient := numerator / denominator
  let twice := 2 * (numerator % denominator)
  if denominator < twice ∨ (twice = denominator ∧ quotient % 2 = 1) then quotient + 1
  else quotient

/-- Drops trailing zeros of the fraction from a mantissa and a scale. -/
def stripZeros (mantissa : Nat) : Nat → Nat × Nat
  | 0 => (mantissa, 0)
  | scale + 1 =>
      if mantissa % 10 = 0 then stripZeros (mantissa / 10) scale else (mantissa, scale + 1)

theorem stripZeros_fst_le (mantissa scale : Nat) :
    (stripZeros mantissa scale).1 ≤ mantissa := by
  induction scale generalizing mantissa with
  | zero => exact Nat.le_refl _
  | succ scale ih =>
    rw [stripZeros]
    split
    · exact Nat.le_trans (ih _) (Nat.div_le_self _ _)
    · exact Nat.le_refl _

theorem stripZeros_snd_le (mantissa scale : Nat) :
    (stripZeros mantissa scale).2 ≤ scale := by
  induction scale generalizing mantissa with
  | zero => exact Nat.le_refl _
  | succ scale ih =>
    rw [stripZeros]
    split
    · exact Nat.le_succ_of_le (ih _)
    · exact Nat.le_refl _

/-- The same value without trailing zeros in the fraction; zero becomes plain `0`. -/
def normalize (x : Decimal) : Decimal :=
  ofParts x.negative (stripZeros x.mantissa x.scale).1 (stripZeros x.mantissa x.scale).2
    (Nat.lt_of_le_of_lt (stripZeros_fst_le _ _) x.mantissa_lt)
    (Nat.le_trans (stripZeros_snd_le _ _) x.scale_le)

theorem divHalfEven_le (numerator denominator : Nat) :
    divHalfEven numerator denominator ≤ numerator / denominator + 1 := by
  unfold divHalfEven
  dsimp only
  split <;> omega

/-- At most `places` fraction digits, a tie rounded to the even digit. -/
def roundTo (x : Decimal) (places : Nat) : Decimal :=
  if fits : x.scale ≤ places then x
  else
    ofParts x.negative (divHalfEven x.mantissa (10 ^ (x.scale - places))) places
      (by
        have bound := divHalfEven_le x.mantissa (10 ^ (x.scale - places))
        have tenth : x.mantissa / 10 ^ (x.scale - places) ≤ x.mantissa / 10 :=
          Nat.div_le_div_left
            (by
              calc 10 = 10 ^ (1 : Nat) := rfl
                _ ≤ 10 ^ (x.scale - places) := Nat.pow_le_pow_right (by decide) (by omega))
            (by decide)
        have := x.mantissa_lt
        omega)
      (by have := x.scale_le; omega)

end Decimal

end OrderKeeper
