import OrderKeeper.Proofs.Decimal.Rounding

/-!
Contract: sums, differences, products and quotients as rounded exact results.

Owns: for each operation that its result, where it has one, is what the exact result is rounded
to, whatever the forms of the operands.

Does not own: when an operation has a result.
-/

set_option autoImplicit false

namespace OrderKeeper.Decimal

variable {x y z : Decimal}

/-! ## Fitting -/

/-- The digits that fitting drops. -/
def droppedDigits (magnitude scale : Nat) : Nat :=
  max (excessDigits magnitude) (scale - maxScale)

/-- What fitting makes of a magnitude: it drops digits and rounds what is left. -/
theorem fit?_value {negative : Bool} {magnitude scale : Nat}
    (fitted : fit? negative magnitude scale = some z) :
    droppedDigits magnitude scale ≤ scale ∧
      z.value = signed negative
        (withCarry (divHalfEven magnitude (10 ^ droppedDigits magnitude scale)) /
          10 ^ (scale - droppedDigits magnitude scale)) := by
  unfold fit? at fitted
  dsimp only at fitted
  split at fitted
  · cases fitted
  rename_i notBeyond
  have inFraction : droppedDigits magnitude scale ≤ scale := not_lt.mp notBeyond
  refine ⟨inFraction, ?_⟩
  split at fitted
  · rename_i small
    have fits : divHalfEven magnitude (10 ^ droppedDigits magnitude scale) < 2 ^ 96 := small
    rw [← Option.some.inj fitted, value_eq_signed, withCarry, if_pos fits]
    rfl
  · rename_i large
    have carries : ¬divHalfEven magnitude (10 ^ droppedDigits magnitude scale) < 2 ^ 96 := large
    split at fitted
    · cases fitted
    · rename_i notAll
      have digitLeft : scale ≠ droppedDigits magnitude scale := notAll
      obtain ⟨digits, digits_eq⟩ := Nat.exists_eq_add_of_le'
        (show 1 ≤ scale - droppedDigits magnitude scale by omega)
      rw [← Option.some.inj fitted, value_eq_signed, withCarry, if_neg carries]
      show signed negative (carriedMantissa /
        10 ^ (scale - droppedDigits magnitude scale - 1)) = _
      rw [digits_eq, Nat.add_sub_cancel, pow_succ]
      push_cast
      congr 1
      field_simp

/-- Fitting rounds a magnitude. -/
theorem fit?_rounds {negative : Bool} {magnitude scale : Nat}
    (fitted : fit? negative magnitude scale = some z) :
    Rounds (signed negative (magnitude / 10 ^ scale)) z := by
  obtain ⟨dropped_le, z_value⟩ := fit?_value fitted
  set dropped := droppedDigits magnitude scale
  have excess_le : excessDigits magnitude ≤ dropped := le_max_left _ _
  have past_le : scale - 28 ≤ dropped := le_max_right _ _
  have either : dropped = excessDigits magnitude ∨ dropped = scale - 28 := max_choice _ _
  refine ⟨negative, _, _, rfl, by positivity, ?_, z_value⟩
  have wholeFits : magnitude / 10 ^ dropped < 2 ^ 96 :=
    (excessDigits_le_iff _ _).mp excess_le
  by_cases nothingDropped : dropped = 0
  · rw [nothingDropped, pow_zero, Nat.div_one] at wholeFits
    rw [nothingDropped, pow_zero, divHalfEven_one, withCarry, if_pos wholeFits, Nat.sub_zero]
    apply RoundsTo.self wholeFits
    omega
  · have digits : (10 : ℚ) ^ scale = 10 ^ (scale - dropped) * 10 ^ dropped := by
      rw [← pow_add, Nat.sub_add_cancel dropped_le]
    have fraction : (magnitude : ℚ) / (10 ^ dropped : Nat) =
        magnitude / 10 ^ scale * 10 ^ (scale - dropped) := by
      rw [digits]
      push_cast
      field_simp
    refine ⟨magnitude, 10 ^ dropped, scale - dropped, by positivity, ⟨by omega, ?_, ?_⟩, fraction,
      rfl⟩
    · rw [← fraction, div_lt_iff₀ (by positivity)]
      rw [Nat.div_lt_iff_lt_mul (by positivity)] at wholeFits
      exact_mod_cast wholeFits
    · -- Either the digits past the last place go, or one digit less would be too many.
      rcases either with needed | last
      · right
        have tooMany : ¬excessDigits magnitude ≤ dropped - 1 := by omega
        rw [excessDigits_le_iff, Nat.div_lt_iff_lt_mul (by positivity), not_lt] at tooMany
        have step : (10 : ℚ) ^ dropped = 10 ^ (dropped - 1) * 10 := by
          rw [← pow_succ, Nat.sub_add_cancel (by omega)]
        have past : (magnitude : ℚ) / 10 ^ scale * 10 ^ (scale - dropped + 1) =
            magnitude / 10 ^ (dropped - 1) := by
          rw [digits, step, pow_succ]
          field_simp
        rw [past, le_div_iff₀ (by positivity)]
        exact_mod_cast tooMany
      · left
        omega

/-! ## Sums and differences -/

theorem sumOfNonzero?_rounds (sum : sumOfNonzero? x y = some z) :
    Rounds (x.value + y.value) z := by
  unfold sumOfNonzero? at sum
  dsimp only at sum
  set scale := max x.scale y.scale
  set total := x.coefficientAt scale + y.coefficientAt scale with total_eq
  have total_div : x.value + y.value = total / 10 ^ scale := by
    rw [total_eq, ← coefficientAt_div (le_max_left x.scale y.scale),
      ← coefficientAt_div (le_max_right x.scale y.scale)]
    push_cast
    ring
  have exact : x.value + y.value =
      signed (decide (total < 0)) (total.natAbs / 10 ^ scale) := by
    rw [total_div, Nat.cast_natAbs]
    by_cases below : total < 0
    · rw [abs_of_neg below]
      simp [signed, below, neg_div]
    · rw [abs_of_nonneg (not_lt.mp below)]
      simp [signed, below]
  rw [exact]
  exact fit?_rounds sum

theorem add_rounds (sum : x.add y = .ok z) : Rounds (x.value + y.value) z := by
  unfold add at sum
  split at sum
  · rename_i xZero
    rw [isZero_iff.mp xZero, zero_add, ← Except.ok.inj sum]
    exact .self y
  · split at sum
    · rename_i yZero
      rw [isZero_iff.mp yZero, add_zero, ← Except.ok.inj sum]
      exact .self x
    · split at sum
      · rename_i total found
        rw [← Except.ok.inj sum]
        exact sumOfNonzero?_rounds found
      · cases sum

theorem sub_rounds (difference : x.sub y = .ok z) : Rounds (x.value - y.value) z := by
  unfold sub at difference
  split at difference
  · rename_i xZero
    rw [isZero_iff.mp xZero, zero_sub, ← value_opposite, ← Except.ok.inj difference]
    exact .self y.opposite
  · split at difference
    · rename_i yZero
      rw [isZero_iff.mp yZero, sub_zero, ← Except.ok.inj difference]
      exact .self x
    · split at difference
      · rename_i total found
        rw [← Except.ok.inj difference, sub_eq_add_neg, ← value_opposite]
        exact sumOfNonzero?_rounds found
      · cases difference

theorem value_hasDigits (x : Decimal) : HasDigits 28 x.value := by
  have split : (10 : ℚ) ^ 28 = 10 ^ (28 - x.scale) * 10 ^ x.scale := by
    rw [← pow_add, Nat.sub_add_cancel x.scale_le]
  refine ⟨x.coefficient * 10 ^ (28 - x.scale), ?_⟩
  rw [value, split]
  push_cast
  field_simp

/-- A difference is rounded by little of itself, if at all. -/
theorem sub_near (difference : x.sub y = .ok z) :
    |z.value - (x.value - y.value)| ≤ |x.value - y.value| / 10 ^ 28 := by
  by_cases large : 2 ^ 96 ≤ |x.value - y.value| * 10 ^ 28
  · exact (sub_rounds difference).near large
  · -- A small difference has its digits among the last ones, and is exact.
    have digits := (value_hasDigits x).sub (value_hasDigits y)
    obtain ⟨found, same, found_value⟩ :=
      sub_exact (digits.representable le_rfl (not_le.mp large))
    obtain rfl := Except.ok.inj (same.symm.trans difference)
    rw [found_value, sub_self, abs_zero]
    positivity

/-! ## Products -/

/-- A product of so many fraction digits that it is given up would be rounded to zero. -/
theorem roundsTo_zero_of_small {first second scale : Nat} (firstSmall : first < smallMantissa)
    (secondSmall : second < smallMantissa) (lost : smallProductScale < scale) :
    RoundsTo ((first * second : Nat) / 10 ^ scale) 0 := by
  have smallProductScale_eq : smallProductScale = 47 := rfl
  have product_lt : first * second < 2 ^ 32 * 2 ^ 32 := Nat.mul_lt_mul'' firstSmall secondSmall
  have wide : 10 ^ 20 ≤ 10 ^ (scale - 28) := Nat.pow_le_pow_right (by decide) (by omega)
  have digits : (10 : ℚ) ^ scale = 10 ^ (scale - 28) * 10 ^ 28 := by
    rw [← pow_add, Nat.sub_add_cancel (by omega)]
  have fraction : ((first * second : Nat) : ℚ) / (10 ^ (scale - 28) : Nat) =
      (first * second : Nat) / 10 ^ scale * 10 ^ 28 := by
    rw [digits]
    push_cast
    field_simp
  have below : first * second < 10 ^ (scale - 28) := by omega
  refine ⟨first * second, 10 ^ (scale - 28), 28, by positivity, ⟨le_rfl, ?_, .inl rfl⟩, fraction,
    ?_⟩
  · rw [← fraction, div_lt_iff₀ (by positivity)]
    have : first * second < 2 ^ 96 * 10 ^ (scale - 28) := by omega
    exact_mod_cast this
  · have rounded : divHalfEven (first * second) (10 ^ (scale - 28)) = 0 := by
      rw [divHalfEven, Nat.div_eq_of_lt below, Nat.mod_eq_of_lt below]
      rw [if_neg]
      omega
    rw [rounded]
    simp [withCarry]

theorem mul_rounds (product : x.mul y = .ok z) : Rounds (x.value * y.value) z := by
  have exact : x.value * y.value = signed (x.negative != y.negative)
      ((x.mantissa * y.mantissa : Nat) / 10 ^ (x.scale + y.scale)) := by
    rw [value_eq_signed x, value_eq_signed y, pow_add]
    push_cast
    cases x.negative <;> cases y.negative <;> simp [signed, div_mul_div_comm]
  unfold mul at product
  dsimp only at product
  split at product
  · rename_i anyZero
    have noProduct : x.value * y.value = zero.value := by
      rcases Bool.or_eq_true_iff.mp anyZero with xZero | yZero
      · rw [isZero_iff.mp xZero, zero_mul, value_zero]
      · rw [isZero_iff.mp yZero, mul_zero, value_zero]
    rw [noProduct, ← Except.ok.inj product]
    exact .self zero
  · split at product
    · rename_i given
      simp only [Bool.and_eq_true, decide_eq_true_eq] at given
      obtain ⟨⟨xSmall, ySmall⟩, lost⟩ := given
      refine ⟨_, _, _, exact, by positivity, roundsTo_zero_of_small xSmall ySmall lost, ?_⟩
      rw [← Except.ok.inj product, value_zero]
      cases x.negative != y.negative <;> simp [signed]
    · split at product
      · rename_i fitted found
        have fittedRounds := fit?_rounds found
        rw [← exact] at fittedRounds
        rw [← Except.ok.inj product]
        split
        · obtain ⟨negative, magnitude, rounded, same, nonneg, rounds, fitted_value⟩ := fittedRounds
          exact ⟨negative, magnitude, rounded, same, nonneg, rounds,
            (value_plainZero fitted).trans fitted_value⟩
        · exact fittedRounds
      · cases product

/-! ## Quotients -/

/-- The search for a scale ends at the largest one at which the quotient fits. -/
theorem quotientScale?_full {numerator denominator bound scale : Nat} {shift : Int}
    (found : quotientScale? numerator denominator shift bound = some scale) :
    (scaledFraction numerator denominator (shift + scale)).1 /
        (scaledFraction numerator denominator (shift + scale)).2 < mantissaLimit ∧
      (scale = bound ∨
        mantissaLimit ≤ (scaledFraction numerator denominator (shift + (scale + 1 : Nat))).1 /
          (scaledFraction numerator denominator (shift + (scale + 1 : Nat))).2) := by
  induction bound with
  | zero =>
      simp only [quotientScale?] at found
      split at found
      · rename_i fits
        obtain rfl := Option.some.inj found
        rw [Nat.cast_zero, Int.add_zero]
        exact ⟨fits, .inl rfl⟩
      · cases found
  | succ bound inductionHypothesis =>
      simp only [quotientScale?] at found
      split at found
      · rename_i fits
        obtain rfl := Option.some.inj found
        exact ⟨by exact_mod_cast fits, .inl rfl⟩
      · rename_i tooLarge
        obtain ⟨fits, rfl | larger⟩ := inductionHypothesis found
        · exact ⟨fits, .inr (not_lt.mp tooLarge)⟩
        · exact ⟨fits, .inr larger⟩

theorem quotient?_rounds (yNonzero : y.value ≠ 0) (quotient : quotient? x y = some z) :
    Rounds (signed (quotientNegative x y) (|x.value| / |y.value|)) z := by
  have positive (scale : Nat) : 0 < (quotientFraction x y scale).2 :=
    scaledFraction_pos (mantissa_pos_of_ne_zero yNonzero)
  unfold quotient? at quotient
  dsimp only at quotient
  split at quotient
  · cases quotient
  rename_i scale found
  obtain ⟨fits, full⟩ := quotientScale?_full found
  have fullScale : FullScale (|x.value| / |y.value|) scale := by
    refine ⟨quotientScale?_le found, ?_, full.imp_right fun larger => ?_⟩
    · rw [Nat.div_lt_iff_lt_mul (positive scale), ← not_le, mul_le_quotientFraction yNonzero,
        not_le] at fits
      exact_mod_cast fits
    · rw [Nat.le_div_iff_mul_le (positive (scale + 1)), mul_le_quotientFraction yNonzero] at larger
      exact_mod_cast larger
  refine ⟨_, _, _, rfl, by positivity,
    ⟨_, _, scale, positive scale, fullScale, quotientFraction_div x y scale, rfl⟩, ?_⟩
  split at quotient
  · rename_i small
    rw [← Option.some.inj quotient, value_ofParts, withCarry, if_pos small]
  · rename_i large
    split at quotient
    · cases quotient
    · rename_i digitLeft
      obtain ⟨digits, rfl⟩ := Nat.exists_eq_add_of_le' (Nat.one_le_iff_ne_zero.mpr digitLeft)
      rw [← Option.some.inj quotient, value_ofParts, withCarry, if_neg large, Nat.add_sub_cancel,
        pow_succ]
      push_cast
      congr 1
      field_simp

theorem div_rounds (quotient : x.div y = .ok z) : Rounds (x.value / y.value) z := by
  unfold div at quotient
  split at quotient
  · cases quotient
  rename_i yNonzero
  split at quotient
  · rename_i xZero
    have noQuotient : x.value / y.value = zero.value := by
      rw [isZero_iff.mp xZero, zero_div, value_zero]
    rw [noQuotient, ← Except.ok.inj quotient]
    exact .self zero
  · split at quotient
    · rename_i rounded found
      have exact : x.value / y.value =
          signed (quotientNegative x y) (|x.value| / |y.value|) := by
        rw [abs_value, abs_value, value_eq_signed x, value_eq_signed y, quotientNegative]
        cases x.negative <;> cases y.negative <;> simp [signed, neg_div, div_neg]
      rw [exact, ← Except.ok.inj quotient]
      exact quotient?_rounds (mt isZero_iff.mpr yNonzero) found
    · cases quotient

/-! ## Signs -/

theorem zero_lt_iff : zero < x ↔ 0 < x.value := by
  rw [value_lt_iff, value_zero]

theorem div_nonneg_of_pos (quotient : x.div y = .ok z) (xPositive : 0 < x.value)
    (yPositive : 0 < y.value) : 0 ≤ z.value :=
  (div_rounds quotient).nonneg (div_pos xPositive yPositive).le

end OrderKeeper.Decimal
