import OrderKeeper.Proofs.Decimal.Value

/-!
Contract: what the rounding of a quotient can change.

Owns: when a division has a result, the size of that result, and the comparison of
a rounded quotient with a bound below one.

A quotient of at most one is rounded at 28 fraction digits, a larger one may keep
fewer.  A bound that the exact quotient passes by a unit of the last digit, if at
all, is passed by the rounded quotient in the same cases.
-/

set_option autoImplicit false

namespace OrderKeeper.Decimal

/-! ## Rounding to a whole number -/

section Rounding

variable {numerator denominator bound : Nat}

theorem divHalfEven_le_of_le_mul (positive : 0 < denominator)
    (below : numerator ≤ bound * denominator) : divHalfEven numerator denominator ≤ bound := by
  have parts := Nat.div_add_mod numerator denominator
  have remainder := Nat.mod_lt numerator positive
  have whole : numerator / denominator ≤ bound := Nat.div_le_of_le_mul (by rwa [Nat.mul_comm])
  unfold divHalfEven
  dsimp only
  split
  · -- A quotient that reaches the bound has no remainder, so it is not rounded up.
    rename_i up
    refine Nat.lt_of_le_of_ne whole fun reached => ?_
    rw [reached, Nat.mul_comm] at parts
    omega
  · exact whole

theorem le_divHalfEven_of_mul_le (positive : 0 < denominator)
    (above : bound * denominator ≤ numerator) : bound ≤ divHalfEven numerator denominator := by
  have whole : bound ≤ numerator / denominator := (Nat.le_div_iff_mul_le positive).mpr above
  unfold divHalfEven
  dsimp only
  split <;> omega

end Rounding

/-! ## The fraction that is rounded -/

theorem scaledFraction_pos {numerator denominator : Nat} {shift : Int}
    (positive : 0 < denominator) : 0 < (scaledFraction numerator denominator shift).2 := by
  unfold scaledFraction
  split
  · exact Nat.mul_pos positive (by positivity)
  · exact positive

theorem scaledFraction_div (numerator denominator : Nat) (shift : Int) :
    ((scaledFraction numerator denominator shift).1 : ℚ) /
        (scaledFraction numerator denominator shift).2 =
      numerator / denominator * (10 : ℚ) ^ shift := by
  unfold scaledFraction
  split
  · rename_i below
    have opposite : shift = -(shift.natAbs : Int) := by omega
    rw [opposite, Int.natAbs_neg, Int.natAbs_natCast, zpow_neg, zpow_natCast]
    push_cast
    rw [← div_div, div_eq_mul_inv (_ / _)]
  · rename_i nonneg
    have same : shift = (shift.natAbs : Int) := by omega
    rw [same, Int.natAbs_natCast, zpow_natCast]
    push_cast
    ring

/-- The quotient of two magnitudes, with so many of its digits moved before the point. -/
abbrev quotientFraction (x y : Decimal) (scale : Nat) : Nat × Nat :=
  scaledFraction x.mantissa y.mantissa ((y.scale : Int) - x.scale + scale)

theorem quotientFraction_div (x y : Decimal) (scale : Nat) :
    ((quotientFraction x y scale).1 : ℚ) / (quotientFraction x y scale).2 =
      |x.value| / |y.value| * 10 ^ scale := by
  rw [scaledFraction_div, zpow_add₀ (by norm_num), zpow_sub₀ (by norm_num), zpow_natCast,
    zpow_natCast, zpow_natCast, abs_value, abs_value]
  field_simp

section Quotient

variable {x y : Decimal}

theorem mantissa_pos_of_ne_zero (nonzero : x.value ≠ 0) : 0 < x.mantissa := by
  refine Nat.pos_of_ne_zero fun empty => nonzero (isZero_iff.mp ?_)
  rw [isZero, empty]
  rfl

theorem quotientFraction_le_mul {scale bound : Nat} (yNonzero : y.value ≠ 0) :
    (quotientFraction x y scale).1 ≤ bound * (quotientFraction x y scale).2 ↔
      |x.value| / |y.value| * 10 ^ scale ≤ bound := by
  have positive : (0 : ℚ) < (quotientFraction x y scale).2 := by
    exact_mod_cast scaledFraction_pos (mantissa_pos_of_ne_zero yNonzero)
  rw [← quotientFraction_div, div_le_iff₀ positive]
  exact_mod_cast Iff.rfl

theorem mul_le_quotientFraction {scale bound : Nat} (yNonzero : y.value ≠ 0) :
    bound * (quotientFraction x y scale).2 ≤ (quotientFraction x y scale).1 ↔
      bound ≤ |x.value| / |y.value| * 10 ^ scale := by
  have positive : (0 : ℚ) < (quotientFraction x y scale).2 := by
    exact_mod_cast scaledFraction_pos (mantissa_pos_of_ne_zero yNonzero)
  rw [← quotientFraction_div, le_div_iff₀ positive]
  exact_mod_cast Iff.rfl

/-- The search for a scale succeeds when the integer part fits. -/
theorem quotientScale?_of_whole_fits {numerator denominator bound : Nat} {shift : Int}
    (fits : (scaledFraction numerator denominator shift).1 /
      (scaledFraction numerator denominator shift).2 < mantissaLimit) :
    ∃ scale, quotientScale? numerator denominator shift bound = some scale := by
  induction bound with
  | zero => exact ⟨0, by simp only [quotientScale?]; rw [if_pos fits]⟩
  | succ bound inductionHypothesis =>
    simp only [quotientScale?]
    split
    · exact ⟨bound + 1, rfl⟩
    · exact inductionHypothesis

/-- The sign of a quotient. -/
abbrev quotientNegative (x y : Decimal) : Bool :=
  x.negative != y.negative

/-- A quotient of magnitudes at most one is rounded at the last fraction digit. -/
theorem quotient?_of_le_one (yNonzero : y.value ≠ 0) (atMostOne : |x.value| ≤ |y.value|) :
    ∃ r, quotient? x y = some r ∧
      r.value = signed (quotientNegative x y)
        (divHalfEven (quotientFraction x y 28).1 (quotientFraction x y 28).2 / 10 ^ 28) := by
  have yPositive : 0 < |y.value| := abs_pos.mpr yNonzero
  have small : (quotientFraction x y 28).1 ≤ 10 ^ 28 * (quotientFraction x y 28).2 := by
    rw [quotientFraction_le_mul yNonzero, Nat.cast_pow, Nat.cast_ofNat]
    exact mul_le_of_le_one_left (by positivity) ((div_le_one yPositive).mpr atMostOne)
  have denominatorPositive : 0 < (quotientFraction x y 28).2 :=
    scaledFraction_pos (mantissa_pos_of_ne_zero yNonzero)
  have wholeFits : (quotientFraction x y 28).1 / (quotientFraction x y 28).2 < mantissaLimit := by
    have : (quotientFraction x y 28).1 / (quotientFraction x y 28).2 ≤ 10 ^ 28 :=
      Nat.div_le_of_le_mul (by rwa [Nat.mul_comm])
    exact this.trans_lt (by decide)
  have rounded := divHalfEven_le_of_le_mul denominatorPositive small
  have fits : divHalfEven (quotientFraction x y 28).1 (quotientFraction x y 28).2 < 2 ^ 96 :=
    rounded.trans_lt (by decide)
  have found : quotientScale? x.mantissa y.mantissa ((y.scale : Int) - x.scale) maxScale =
      some 28 := by
    change quotientScale? _ _ _ (27 + 1) = _
    simp only [quotientScale?]
    exact if_pos wholeFits
  refine ⟨ofParts (quotientNegative x y) _ 28 fits (by decide), ?_, value_ofParts⟩
  unfold quotient?
  dsimp only
  split
  · rename_i missing
    rw [found] at missing
    cases missing
  · rename_i scale other
    obtain rfl : 28 = scale := Option.some.inj (found.symm.trans other)
    exact dif_pos fits

/-- The integer part of a quotient of at most `2 ^ 95` is as small. -/
theorem whole_le_of_bounded (yNonzero : y.value ≠ 0) (bounded : |x.value| ≤ 2 ^ 95 * |y.value|) :
    (quotientFraction x y 0).1 ≤ 2 ^ 95 * (quotientFraction x y 0).2 := by
  rw [quotientFraction_le_mul yNonzero, pow_zero, mul_one, Nat.cast_pow, Nat.cast_ofNat]
  exact (div_le_iff₀ (abs_pos.mpr yNonzero)).mpr bounded

theorem quotientScale?_of_bounded (yNonzero : y.value ≠ 0)
    (bounded : |x.value| ≤ 2 ^ 95 * |y.value|) :
    ∃ scale, quotientScale? x.mantissa y.mantissa ((y.scale : Int) - x.scale) maxScale =
      some scale := by
  have whole_le : (quotientFraction x y 0).1 / (quotientFraction x y 0).2 ≤ 2 ^ 95 := by
    apply Nat.div_le_of_le_mul
    rw [Nat.mul_comm]
    exact whole_le_of_bounded yNonzero bounded
  have wholeFits : (quotientFraction x y 0).1 / (quotientFraction x y 0).2 < mantissaLimit :=
    whole_le.trans_lt (by decide)
  rw [quotientFraction, Nat.cast_zero, Int.add_zero] at wholeFits
  exact quotientScale?_of_whole_fits wholeFits

/-- A quotient of magnitudes at least one stays so. -/
theorem quotient?_of_one_le (yNonzero : y.value ≠ 0) (atLeastOne : |y.value| ≤ |x.value|)
    (bounded : |x.value| ≤ 2 ^ 95 * |y.value|) :
    ∃ r magnitude, quotient? x y = some r ∧ 1 ≤ magnitude ∧
      r.value = signed (quotientNegative x y) magnitude := by
  have yPositive : 0 < |y.value| := abs_pos.mpr yNonzero
  have denominatorPositive (scale : Nat) : 0 < (quotientFraction x y scale).2 :=
    scaledFraction_pos (mantissa_pos_of_ne_zero yNonzero)
  obtain ⟨scale, found⟩ := quotientScale?_of_bounded yNonzero bounded
  have scale_le : scale ≤ 28 := quotientScale?_le found
  have large : 10 ^ scale ≤ divHalfEven (quotientFraction x y scale).1
      (quotientFraction x y scale).2 := by
    refine le_divHalfEven_of_mul_le (denominatorPositive scale) ?_
    rw [mul_le_quotientFraction yNonzero, Nat.cast_pow, Nat.cast_ofNat]
    exact le_mul_of_one_le_left (by positivity) ((one_le_div yPositive).mpr atLeastOne)
  unfold quotient?
  dsimp only
  split
  · rename_i missing
    rw [found] at missing
    cases missing
  rename_i otherScale other
  obtain rfl : scale = otherScale := Option.some.inj (found.symm.trans other)
  split
  · refine ⟨_, _, rfl, ?_, value_ofParts⟩
    rw [one_le_div (by positivity)]
    simpa only [Nat.cast_pow, Nat.cast_ofNat] using (Nat.cast_le (α := ℚ)).mpr large
  · rename_i overflows
    -- At scale zero the quotient is far from the limit, so a digit can be given up.
    have digitLeft : scale ≠ 0 := by
      rintro rfl
      have rounded_le := divHalfEven_le_of_le_mul (denominatorPositive 0)
        (whole_le_of_bounded yNonzero bounded)
      exact overflows (rounded_le.trans_lt (by decide))
    rw [if_neg digitLeft]
    refine ⟨_, _, rfl, ?_, value_ofParts⟩
    rw [one_le_div (by positivity)]
    have digits : 10 ^ (scale - 1) ≤ carriedMantissa := by
      calc 10 ^ (scale - 1) ≤ 10 ^ 27 := Nat.pow_le_pow_right (by decide) (by omega)
        _ ≤ carriedMantissa := by decide
    exact_mod_cast digits

/-! ## Comparing a rounded quotient with a bound -/

theorem negative_of_value_neg (below : x.value < 0) : x.negative = true := by
  by_contra plain
  rw [value_eq_signed, signed, if_neg plain] at below
  exact absurd below (not_lt.mpr (by positivity))

theorem negative_of_value_pos (above : 0 < x.value) : x.negative = false := by
  by_contra marked
  rw [value_eq_signed, signed, if_pos (Bool.eq_true_of_not_eq_false marked)] at above
  have : (0 : ℚ) ≤ x.mantissa / 10 ^ x.scale := by positivity
  linarith

/-- Division by something of a magnitude that is not too small has a result. -/
theorem quotient?_bounded (yNonzero : y.value ≠ 0) (bounded : |x.value| ≤ 2 ^ 95 * |y.value|) :
    ∃ r magnitude, quotient? x y = some r ∧ 0 ≤ magnitude ∧
      r.value = signed (quotientNegative x y) magnitude := by
  rcases le_total |x.value| |y.value| with atMostOne | atLeastOne
  · obtain ⟨r, found, r_value⟩ := quotient?_of_le_one yNonzero atMostOne
    exact ⟨r, _, found, by positivity, r_value⟩
  · obtain ⟨r, magnitude, found, large, r_value⟩ :=
      quotient?_of_one_le yNonzero atLeastOne bounded
    exact ⟨r, magnitude, found, by linarith, r_value⟩

/-- A number without a sign is a whole number of units of the last digit. -/
theorem value_eq_units {bound : Decimal} (nonneg : 0 ≤ bound.value) :
    bound.value = (bound.mantissa * 10 ^ (28 - bound.scale) : Nat) / 10 ^ 28 := by
  have split : (10 : ℚ) ^ 28 = 10 ^ (28 - bound.scale) * 10 ^ bound.scale := by
    rw [← pow_add, Nat.sub_add_cancel bound.scale_le]
  rw [← abs_of_nonneg nonneg, abs_value, split]
  push_cast
  field_simp

/-- A quotient that is rounded at the last digit passes a whole number of units exactly when
the exact one does, if the exact one cannot pass it by less than a unit. -/
theorem lt_divHalfEven_iff {units : Nat} (yNonzero : y.value ≠ 0)
    (gap : units / 10 ^ 28 * |y.value| < |x.value| →
      (units / 10 ^ 28 + 1 / 10 ^ 28) * |y.value| ≤ |x.value|) :
    units < divHalfEven (quotientFraction x y 28).1 (quotientFraction x y 28).2 ↔
      units / 10 ^ 28 * |y.value| < |x.value| := by
  have yPositive : 0 < |y.value| := abs_pos.mpr yNonzero
  have denominatorPositive : 0 < (quotientFraction x y 28).2 :=
    scaledFraction_pos (mantissa_pos_of_ne_zero yNonzero)
  constructor
  · intro passed
    by_contra notPassed
    refine absurd passed (not_lt.mpr (divHalfEven_le_of_le_mul denominatorPositive ?_))
    rw [quotientFraction_le_mul yNonzero, ← le_div_iff₀ (by positivity), div_le_iff₀ yPositive]
    exact not_lt.mp notPassed
  · intro passed
    have wide := gap passed
    refine le_divHalfEven_of_mul_le denominatorPositive ?_
    rw [mul_le_quotientFraction yNonzero, ← div_le_iff₀ (by positivity), le_div_iff₀ yPositive]
    push_cast
    rwa [add_div]

/-- Two positive numbers: the rounded quotient passes a bound below one exactly when the
exact one does, if the exact one cannot pass it by less than the last digit. -/
theorem lt_quotient?_iff {bound : Decimal} (xPositive : 0 < x.value) (yPositive : 0 < y.value)
    (bounded : x.value ≤ 2 ^ 95 * y.value) (boundNonneg : 0 ≤ bound.value)
    (boundBelowOne : bound.value < 1)
    (gap : bound.value * y.value < x.value →
      (bound.value + 1 / 10 ^ 28) * y.value ≤ x.value) :
    ∃ r, quotient? x y = some r ∧
      (bound.value < r.value ↔ bound.value * y.value < x.value) := by
  have xAbs : |x.value| = x.value := abs_of_pos xPositive
  have yAbs : |y.value| = y.value := abs_of_pos yPositive
  have plainSign : quotientNegative x y = false := by
    rw [quotientNegative, negative_of_value_pos xPositive, negative_of_value_pos yPositive]
    rfl
  rcases le_total x.value y.value with atMostOne | atLeastOne
  · obtain ⟨r, found, r_value⟩ :=
      quotient?_of_le_one yPositive.ne' (by rwa [xAbs, yAbs])
    refine ⟨r, found, ?_⟩
    rw [plainSign, signed, if_neg (by decide)] at r_value
    rw [value_eq_units boundNonneg] at gap ⊢
    rw [r_value, div_lt_div_iff_of_pos_right (by positivity), Nat.cast_lt,
      lt_divHalfEven_iff yPositive.ne' (by rwa [xAbs, yAbs]), xAbs, yAbs]
  · obtain ⟨r, magnitude, found, large, r_value⟩ :=
      quotient?_of_one_le yPositive.ne' (by rwa [xAbs, yAbs]) (by rwa [xAbs, yAbs])
    refine ⟨r, found, iff_of_true ?_ ?_⟩
    · rw [r_value, plainSign, signed, if_neg (by decide)]
      linarith
    · calc bound.value * y.value < 1 * y.value := mul_lt_mul_of_pos_right boundBelowOne yPositive
        _ ≤ x.value := by rwa [one_mul]

/-- Rounding a quotient does not change how it compares with a bound below one, if the exact
quotient cannot pass that bound by less than the last digit. -/
theorem lt_div_iff {bound : Decimal} (yPositive : 0 < y.value)
    (bounded : |x.value| ≤ 2 ^ 95 * y.value) (boundNonneg : 0 ≤ bound.value)
    (boundBelowOne : bound.value < 1)
    (gap : bound.value * y.value < x.value →
      (bound.value + 1 / 10 ^ 28) * y.value ≤ x.value) :
    ∃ r, x.div y = .ok r ∧ (bound.value < r.value ↔ bound.value * y.value < x.value) := by
  have yNonzero : ¬y.isZero = true := fun empty => yPositive.ne' (isZero_iff.mp empty)
  have product_nonneg : 0 ≤ bound.value * y.value := mul_nonneg boundNonneg yPositive.le
  unfold div
  rw [if_neg yNonzero]
  rcases lt_trichotomy x.value 0 with below | none | above
  · have xNonzero : ¬x.isZero = true := fun empty => below.ne (isZero_iff.mp empty)
    obtain ⟨r, magnitude, found, nonneg, r_value⟩ := quotient?_bounded yPositive.ne'
      (x := x) (by rwa [abs_of_pos yPositive])
    refine ⟨r, by rw [if_neg xNonzero, found], iff_of_false ?_ ?_⟩
    · rw [r_value, quotientNegative, negative_of_value_neg below, negative_of_value_pos yPositive]
      have : signed (true != false) magnitude = -magnitude := rfl
      linarith
    · linarith
  · refine ⟨zero, if_pos (isZero_iff.mpr none), iff_of_false ?_ ?_⟩
    · rw [value_zero]
      linarith
    · linarith
  · have xNonzero : ¬x.isZero = true := fun empty => above.ne' (isZero_iff.mp empty)
    obtain ⟨r, found, decision⟩ := lt_quotient?_iff above yPositive
      ((le_abs_self _).trans bounded) boundNonneg boundBelowOne gap
    exact ⟨r, by rw [if_neg xNonzero, found], decision⟩

end Quotient

end OrderKeeper.Decimal
