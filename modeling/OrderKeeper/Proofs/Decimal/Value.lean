import Mathlib.Algebra.Order.Field.Basic
import Mathlib.Algebra.Order.Field.Rat
import Mathlib.Tactic.FieldSimp
import Mathlib.Tactic.Linarith
import Mathlib.Tactic.NormNum
import Mathlib.Tactic.Positivity
import Mathlib.Tactic.Ring
import OrderKeeper.Decimal.Arithmetic

/-!
Contract: the rational number that a decimal stands for.

Owns: the value of a decimal, its agreement with order, sign and form, and the
exactness of sums, differences and products whose exact result is the value of
some decimal.

Does not own: the rounding of quotients.
-/

set_option autoImplicit false

namespace OrderKeeper.Decimal

/-- The number that a decimal stands for. -/
def value (x : Decimal) : ℚ :=
  x.coefficient / 10 ^ x.scale

theorem value_lt_iff {x y : Decimal} : x < y ↔ x.value < y.value := by
  have order : x.value < y.value ↔
      (x.coefficient : ℚ) * 10 ^ y.scale < y.coefficient * 10 ^ x.scale :=
    div_lt_div_iff₀ (by positivity) (by positivity)
  rw [order]
  exact_mod_cast Iff.rfl

theorem value_le_iff {x y : Decimal} : x ≤ y ↔ x.value ≤ y.value := by
  have order : x.value ≤ y.value ↔
      (x.coefficient : ℚ) * 10 ^ y.scale ≤ y.coefficient * 10 ^ x.scale :=
    div_le_div_iff₀ (by positivity) (by positivity)
  rw [order]
  exact_mod_cast Iff.rfl

@[simp] theorem value_zero : zero.value = 0 := by
  simp [value, zero, coefficient]

@[simp] theorem value_one : one.value = 1 := by
  simp [value, one, coefficient]

/-- A sign on a magnitude. -/
def signed (negative : Bool) (magnitude : ℚ) : ℚ :=
  if negative then -magnitude else magnitude

theorem abs_signed {negative : Bool} {magnitude : ℚ} (nonneg : 0 ≤ magnitude) :
    |signed negative magnitude| = magnitude := by
  cases negative <;> simp [signed, abs_of_nonneg nonneg]

theorem value_eq_signed (x : Decimal) :
    x.value = signed x.negative (x.mantissa / 10 ^ x.scale) := by
  unfold value coefficient signed
  cases x.negative <;> simp [neg_div]

theorem abs_value (x : Decimal) : |x.value| = x.mantissa / 10 ^ x.scale := by
  rw [value_eq_signed]
  exact abs_signed (by positivity)

theorem isZero_iff {x : Decimal} : x.isZero = true ↔ x.value = 0 := by
  rw [← abs_eq_zero, abs_value]
  simp [isZero]

@[simp] theorem value_opposite (x : Decimal) : x.opposite.value = -x.value := by
  by_cases empty : x.isZero = true
  · rw [opposite, if_pos empty, isZero_iff.mp empty, neg_zero]
  · rw [opposite, if_neg empty, value_eq_signed, value_eq_signed x]
    cases x.negative <;> simp [signed]

theorem value_ofParts {negative : Bool} {mantissa scale : Nat} {mantissa_lt : mantissa < 2 ^ 96}
    {scale_le : scale ≤ 28} :
    (ofParts negative mantissa scale mantissa_lt scale_le).value =
      signed negative (mantissa / 10 ^ scale) := by
  rw [value_eq_signed]
  by_cases empty : mantissa = 0
  · simp [ofParts, empty, signed]
  · have carried : (mantissa != 0) = true := bne_iff_ne.mpr empty
    simp only [ofParts, carried, Bool.and_true]

@[simp] theorem value_plainZero (x : Decimal) : x.plainZero.value = x.value := by
  rw [plainZero, value_ofParts, ← value_eq_signed]

/-! ## Numbers that decimals stand for -/

/-- Whether some decimal stands for a number. -/
def Representable (number : ℚ) : Prop :=
  ∃ x : Decimal, x.value = number

/-- At most so many fraction digits, whatever the form. -/
def HasDigits (places : Nat) (number : ℚ) : Prop :=
  ∃ units : ℤ, number = units / 10 ^ places

namespace HasDigits

variable {places otherPlaces : Nat} {first second number : ℚ}

theorem ofInt (places : Nat) (whole : ℤ) : HasDigits places whole :=
  ⟨whole * 10 ^ places, by push_cast; field_simp⟩

theorem add (firstDigits : HasDigits places first) (secondDigits : HasDigits places second) :
    HasDigits places (first + second) := by
  obtain ⟨firstUnits, rfl⟩ := firstDigits
  obtain ⟨secondUnits, rfl⟩ := secondDigits
  exact ⟨firstUnits + secondUnits, by push_cast; ring⟩

theorem sub (firstDigits : HasDigits places first) (secondDigits : HasDigits places second) :
    HasDigits places (first - second) := by
  obtain ⟨firstUnits, rfl⟩ := firstDigits
  obtain ⟨secondUnits, rfl⟩ := secondDigits
  exact ⟨firstUnits - secondUnits, by push_cast; ring⟩

theorem mul (firstDigits : HasDigits places first)
    (secondDigits : HasDigits otherPlaces second) :
    HasDigits (places + otherPlaces) (first * second) := by
  obtain ⟨firstUnits, rfl⟩ := firstDigits
  obtain ⟨secondUnits, rfl⟩ := secondDigits
  exact ⟨firstUnits * secondUnits, by push_cast; rw [pow_add]; field_simp⟩

/-- Two numbers of so many digits differ by a unit of the last one, if at all. -/
theorem add_unit_le_of_lt (firstDigits : HasDigits places first)
    (secondDigits : HasDigits places second) (less : first < second) :
    first + 1 / 10 ^ places ≤ second := by
  obtain ⟨firstUnits, rfl⟩ := firstDigits
  obtain ⟨secondUnits, rfl⟩ := secondDigits
  rw [div_lt_div_iff_of_pos_right (by positivity)] at less
  rw [← add_div, div_le_div_iff_of_pos_right (by positivity)]
  have step : firstUnits + 1 ≤ secondUnits := by exact_mod_cast less
  exact_mod_cast step

theorem representable (digits : HasDigits places number) (places_le : places ≤ 28)
    (small : |number| * 10 ^ places < 2 ^ 96) : Representable number := by
  obtain ⟨units, rfl⟩ := digits
  have fits : units.natAbs < 2 ^ 96 := by
    rw [abs_div, abs_of_pos (show (0 : ℚ) < 10 ^ places by positivity),
      div_mul_cancel₀ _ (by positivity), ← Int.cast_abs, Int.abs_eq_natAbs] at small
    exact_mod_cast small
  refine ⟨⟨decide (units < 0), units.natAbs, places, fits, places_le⟩, ?_⟩
  unfold value coefficient
  by_cases below : units < 0
  · have opposite : -(units.natAbs : ℤ) = units := by omega
    simp only [below, decide_true, if_true, opposite]
  · have same : (units.natAbs : ℤ) = units := by omega
    simp only [below, decide_false, Bool.false_eq_true, if_false, same]

end HasDigits

/-! ## Exact results -/

theorem excessDigits_le_iff (magnitude digits : Nat) :
    excessDigits magnitude ≤ digits ↔ magnitude / 10 ^ digits < mantissaLimit := by
  induction digits generalizing magnitude with
  | zero =>
    rw [excessDigits]
    split <;> simp_all
  | succ digits inductionHypothesis =>
    rw [excessDigits]
    split
    · rename_i small
      have smaller : magnitude / 10 ^ (digits + 1) ≤ magnitude := Nat.div_le_self _ _
      exact iff_of_true (Nat.zero_le _) (smaller.trans_lt small)
    · rw [Nat.add_le_add_iff_right, inductionHypothesis, Nat.div_div_eq_div_mul, Nat.pow_succ,
        Nat.mul_comm 10]

/-- A division without a remainder is not rounded. -/
theorem divHalfEven_mul_right {quotient divisor : Nat} (positive : 0 < divisor) :
    divHalfEven (quotient * divisor) divisor = quotient := by
  have noRemainder : ¬(divisor < 2 * 0 ∨ 2 * 0 = divisor ∧ quotient % 2 = 1) := by omega
  simp only [divHalfEven, Nat.mul_mod_left, Nat.mul_div_cancel _ positive]
  rw [if_neg noRemainder]

/-- What ends in enough zeros to be shortened loses nothing when it is fitted. -/
theorem fit?_of_trailing_zeros (negative : Bool) {kept zeros scale : Nat}
    (keptFits : kept < mantissaLimit) (zerosInFraction : zeros ≤ scale)
    (scaleFits : scale - maxScale ≤ zeros) :
    ∃ x, fit? negative (kept * 10 ^ zeros) scale = some x ∧
      x.value = signed negative ((kept * 10 ^ zeros : Nat) / 10 ^ scale) := by
  set magnitude := kept * 10 ^ zeros with magnitude_eq
  have droppable : magnitude / 10 ^ zeros < mantissaLimit := by
    rwa [magnitude_eq, Nat.mul_div_cancel _ (by positivity)]
  set dropped := max (excessDigits magnitude) (scale - maxScale) with dropped_eq
  have droppedZeros : dropped ≤ zeros :=
    max_le ((excessDigits_le_iff _ _).mpr droppable) scaleFits
  -- Only zeros are dropped, so the division leaves no remainder.
  set mantissa := kept * 10 ^ (zeros - dropped) with mantissa_eq
  have whole : magnitude = mantissa * 10 ^ dropped := by
    rw [mantissa_eq, Nat.mul_assoc, ← Nat.pow_add, Nat.sub_add_cancel droppedZeros]
  have rounded : divHalfEven magnitude (10 ^ dropped) = mantissa := by
    rw [whole]
    exact divHalfEven_mul_right (by positivity)
  have mantissaFits : mantissa < 2 ^ 96 := by
    have enough := (excessDigits_le_iff magnitude dropped).mp (le_max_left _ _)
    rwa [whole, Nat.mul_div_cancel _ (by positivity)] at enough
  have inFraction : ¬scale < dropped := by omega
  refine ⟨⟨negative, mantissa, scale - dropped, mantissaFits, ?_⟩, ?_, ?_⟩
  · have : maxScale = 28 := rfl
    omega
  · unfold fit?
    simp only [← dropped_eq, dif_neg inFraction, rounded, dif_pos mantissaFits]
  · rw [value_eq_signed, whole]
    congr 1
    have split : (10 : ℚ) ^ scale = 10 ^ (scale - dropped) * 10 ^ dropped := by
      rw [← pow_add, Nat.sub_add_cancel (by omega)]
    rw [split]
    push_cast
    field_simp

/-- A magnitude that is the value of a decimal is fitted exactly. -/
theorem fit?_exact (negative : Bool) {magnitude scale : Nat} {target : Decimal}
    (exact : (magnitude : ℚ) / 10 ^ scale = |target.value|) :
    ∃ x, fit? negative magnitude scale = some x ∧
      x.value = signed negative (magnitude / 10 ^ scale) := by
  have crossed : magnitude * 10 ^ target.scale = target.mantissa * 10 ^ scale := by
    rw [abs_value, div_eq_div_iff (by positivity) (by positivity)] at exact
    exact_mod_cast exact
  have scale_le := target.scale_le
  have maxScale_eq : maxScale = 28 := rfl
  by_cases longer : target.scale ≤ scale
  · -- The magnitude is the target's mantissa followed by zeros.
    have shape : magnitude = target.mantissa * 10 ^ (scale - target.scale) := by
      have : magnitude * 10 ^ target.scale =
          target.mantissa * 10 ^ (scale - target.scale) * 10 ^ target.scale := by
        rw [crossed, Nat.mul_assoc, ← Nat.pow_add, Nat.sub_add_cancel longer]
      exact Nat.eq_of_mul_eq_mul_right (by positivity) this
    rw [shape]
    exact fit?_of_trailing_zeros negative target.mantissa_lt (by omega) (by omega)
  · have small : magnitude < mantissaLimit := by
      have : magnitude ≤ target.mantissa := by
        have : magnitude * 10 ^ scale ≤ target.mantissa * 10 ^ scale := by
          rw [← crossed]
          exact Nat.mul_le_mul_left _ (Nat.pow_le_pow_right (by decide) (by omega))
        exact Nat.le_of_mul_le_mul_right this (by positivity)
      exact this.trans_lt target.mantissa_lt
    have noExcess : scale - maxScale ≤ 0 := by omega
    simpa using fit?_of_trailing_zeros negative small (Nat.zero_le scale) noExcess

theorem coefficientAt_div {x : Decimal} {scale : Nat} (enough : x.scale ≤ scale) :
    (x.coefficientAt scale : ℚ) / 10 ^ scale = x.value := by
  have split : (10 : ℚ) ^ scale = 10 ^ (scale - x.scale) * 10 ^ x.scale := by
    rw [← pow_add, Nat.sub_add_cancel enough]
  unfold coefficientAt value
  rw [split]
  push_cast
  field_simp

theorem sumOfNonzero?_exact {x y : Decimal} (representable : Representable (x.value + y.value)) :
    ∃ z, sumOfNonzero? x y = some z ∧ z.value = x.value + y.value := by
  obtain ⟨target, exact⟩ := representable
  rw [← exact]
  set scale := max x.scale y.scale
  set total := x.coefficientAt scale + y.coefficientAt scale with total_eq
  have total_div : (total : ℚ) / 10 ^ scale = target.value := by
    rw [exact, total_eq, ← coefficientAt_div (le_max_left x.scale y.scale),
      ← coefficientAt_div (le_max_right x.scale y.scale)]
    push_cast
    ring
  have magnitude_div : (total.natAbs : ℚ) / 10 ^ scale = |target.value| := by
    rw [← total_div, abs_div, abs_of_pos (show (0 : ℚ) < 10 ^ scale by positivity),
      Nat.cast_natAbs, Int.cast_abs]
  obtain ⟨z, fitted, z_value⟩ := fit?_exact (decide (total < 0)) magnitude_div
  refine ⟨z, fitted, ?_⟩
  rw [z_value, magnitude_div]
  -- The sign given to the sum is that of the total.
  have sign : (total < 0) ↔ target.value < 0 := by
    rw [← total_div, div_neg_iff]
    have : (0 : ℚ) < 10 ^ scale := by positivity
    simp [this, not_lt.mpr this.le]
  by_cases negative : total < 0
  · simp [signed, negative, abs_of_neg (sign.mp negative)]
  · have nonneg : 0 ≤ target.value := not_lt.mp fun below => negative (sign.mpr below)
    simp [signed, negative, abs_of_nonneg nonneg]

/-- A sum that is the value of some decimal is computed exactly. -/
theorem add_exact {x y : Decimal} (representable : Representable (x.value + y.value)) :
    ∃ z, x.add y = .ok z ∧ z.value = x.value + y.value := by
  unfold add
  by_cases xZero : x.isZero = true
  · refine ⟨y, if_pos xZero, ?_⟩
    rw [isZero_iff.mp xZero, zero_add]
  by_cases yZero : y.isZero = true
  · refine ⟨x, by rw [if_neg xZero, if_pos yZero], ?_⟩
    rw [isZero_iff.mp yZero, add_zero]
  obtain ⟨z, total, z_value⟩ := sumOfNonzero?_exact representable
  exact ⟨z, by rw [if_neg xZero, if_neg yZero, total], z_value⟩

/-- A difference that is the value of some decimal is computed exactly. -/
theorem sub_exact {x y : Decimal} (representable : Representable (x.value - y.value)) :
    ∃ z, x.sub y = .ok z ∧ z.value = x.value - y.value := by
  unfold sub
  by_cases xZero : x.isZero = true
  · refine ⟨y.opposite, if_pos xZero, ?_⟩
    rw [isZero_iff.mp xZero, value_opposite, zero_sub]
  by_cases yZero : y.isZero = true
  · refine ⟨x, by rw [if_neg xZero, if_pos yZero], ?_⟩
    rw [isZero_iff.mp yZero, sub_zero]
  have asSum : x.value - y.value = x.value + y.opposite.value := by
    rw [value_opposite, sub_eq_add_neg]
  rw [asSum] at representable ⊢
  obtain ⟨z, difference, z_value⟩ := sumOfNonzero?_exact representable
  exact ⟨z, by rw [if_neg xZero, if_neg yZero, difference], z_value⟩

/-- The product of two small numbers has too many fraction digits to be the value of a
decimal, if it has so many that it is given up. -/
theorem scale_add_le_of_small {x y target : Decimal}
    (exact : target.value = x.value * y.value) (xNonzero : x.mantissa ≠ 0)
    (yNonzero : y.mantissa ≠ 0) (xSmall : x.mantissa < smallMantissa)
    (ySmall : y.mantissa < smallMantissa) : x.scale + y.scale ≤ smallProductScale := by
  have magnitudes : |target.value| = |x.value| * |y.value| := by rw [exact, abs_mul]
  simp only [abs_value, div_mul_div_comm, ← pow_add] at magnitudes
  rw [div_eq_div_iff (by positivity) (by positivity)] at magnitudes
  have crossed : target.mantissa * 10 ^ (x.scale + y.scale) =
      x.mantissa * y.mantissa * 10 ^ target.scale := by exact_mod_cast magnitudes
  have product_pos : 0 < x.mantissa * y.mantissa :=
    Nat.mul_pos (Nat.pos_of_ne_zero xNonzero) (Nat.pos_of_ne_zero yNonzero)
  have target_pos : 0 < target.mantissa := by
    refine Nat.pos_of_ne_zero fun empty => ?_
    rw [empty, Nat.zero_mul] at crossed
    have : 0 < x.mantissa * y.mantissa * 10 ^ target.scale := by positivity
    omega
  have product_lt : x.mantissa * y.mantissa < 2 ^ 32 * 2 ^ 32 :=
    Nat.mul_lt_mul'' xSmall ySmall
  by_contra longer
  have smallProductScale_eq : smallProductScale = 47 := rfl
  have bound : 10 ^ 48 ≤ x.mantissa * y.mantissa * 10 ^ 28 := by
    calc 10 ^ 48 ≤ 10 ^ (x.scale + y.scale) := Nat.pow_le_pow_right (by decide) (by omega)
      _ ≤ target.mantissa * 10 ^ (x.scale + y.scale) := Nat.le_mul_of_pos_left _ target_pos
      _ = x.mantissa * y.mantissa * 10 ^ target.scale := crossed
      _ ≤ x.mantissa * y.mantissa * 10 ^ 28 :=
        Nat.mul_le_mul_left _ (Nat.pow_le_pow_right (by decide) target.scale_le)
  omega

/-- A product that is the value of some decimal is computed exactly. -/
theorem mul_exact {x y : Decimal} (representable : Representable (x.value * y.value)) :
    ∃ z, x.mul y = .ok z ∧ z.value = x.value * y.value := by
  obtain ⟨target, exact⟩ := representable
  rw [← exact]
  unfold mul
  dsimp only
  by_cases anyZero : (x.isZero || y.isZero) = true
  · refine ⟨zero, if_pos anyZero, ?_⟩
    rw [exact, value_zero]
    rcases Bool.or_eq_true_iff.mp anyZero with xZero | yZero
    · rw [isZero_iff.mp xZero, zero_mul]
    · rw [isZero_iff.mp yZero, mul_zero]
  rw [if_neg anyZero]
  obtain ⟨xNonzero, yNonzero⟩ : x.mantissa ≠ 0 ∧ y.mantissa ≠ 0 := by
    simpa [isZero] using anyZero
  have kept : ¬(decide (x.mantissa < smallMantissa) && decide (y.mantissa < smallMantissa) &&
      decide (smallProductScale < x.scale + y.scale)) = true := by
    simp only [Bool.and_eq_true, decide_eq_true_eq]
    rintro ⟨⟨xSmall, ySmall⟩, lost⟩
    exact absurd (scale_add_le_of_small exact xNonzero yNonzero xSmall ySmall) (not_le.mpr lost)
  rw [if_neg kept]
  have magnitude : ((x.mantissa * y.mantissa : Nat) : ℚ) / 10 ^ (x.scale + y.scale) =
      |target.value| := by
    rw [exact, abs_mul, abs_value, abs_value, div_mul_div_comm, pow_add, Nat.cast_mul]
  obtain ⟨z, fitted, z_value⟩ := fit?_exact (x.negative != y.negative) magnitude
  rw [fitted]
  have product : z.value = target.value := by
    rw [z_value, magnitude, exact, abs_mul, abs_value, abs_value, value_eq_signed x,
      value_eq_signed y]
    cases x.negative <;> cases y.negative <;> simp [signed]
  refine ⟨_, rfl, ?_⟩
  split
  · rw [value_plainZero, product]
  · exact product

end OrderKeeper.Decimal
