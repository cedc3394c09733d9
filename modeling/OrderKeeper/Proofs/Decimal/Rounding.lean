import OrderKeeper.Proofs.Decimal.Quotient

/-!
Contract: the rounding of an exact number to a decimal.

Owns: the scale at which a magnitude is rounded, the rounded number as a function of the exact one
alone, the order that rounding keeps, and how far it moves a number.

Does not own: which operations round in this way.

A decimal has as many fraction digits as fit, so a larger magnitude may be rounded more coarsely.
The order is kept across such a change of the scale too, and across the carry of a mantissa that
is rounded up to the limit.
-/

set_option autoImplicit false

namespace OrderKeeper.Decimal

/-! ## Rounding to a whole number -/

/-- A fraction that is no larger is rounded to a number that is no larger. -/
theorem divHalfEven_mono {first firstDivisor second secondDivisor : Nat}
    (firstPositive : 0 < firstDivisor) (secondPositive : 0 < secondDivisor)
    (le : first * secondDivisor ≤ second * firstDivisor) :
    divHalfEven first firstDivisor ≤ divHalfEven second secondDivisor := by
  have firstParts := Nat.div_add_mod first firstDivisor
  have secondParts := Nat.div_add_mod second secondDivisor
  have secondRemainder := Nat.mod_lt second secondPositive
  have wholes : first / firstDivisor ≤ second / secondDivisor := by
    rw [Nat.le_div_iff_mul_le secondPositive]
    apply Nat.le_of_mul_le_mul_right _ firstPositive
    calc first / firstDivisor * secondDivisor * firstDivisor
        = first / firstDivisor * firstDivisor * secondDivisor := by ring
      _ ≤ first * secondDivisor := Nat.mul_le_mul_right _ (Nat.div_mul_le_self _ _)
      _ ≤ second * firstDivisor := le
  rcases Nat.lt_or_eq_of_le wholes with further | same
  · calc divHalfEven first firstDivisor ≤ first / firstDivisor + 1 := divHalfEven_le _ _
      _ ≤ second / secondDivisor := further
      _ ≤ divHalfEven second secondDivisor := by
        unfold divHalfEven
        dsimp only
        split <;> omega
  · -- With one integer part the remainders decide, as fractions of their divisors.
    have remainders : first % firstDivisor * secondDivisor ≤
        second % secondDivisor * firstDivisor := by
      rw [← firstParts, ← secondParts, same, Nat.add_mul, Nat.add_mul] at le
      have : firstDivisor * (second / secondDivisor) * secondDivisor =
          secondDivisor * (second / secondDivisor) * firstDivisor := by ring
      omega
    unfold divHalfEven
    dsimp only
    rw [same]
    split
    · rename_i firstUp
      rw [if_pos]
      rcases firstUp with above | ⟨tie, odd⟩
      · left
        nlinarith
      · rcases Nat.lt_or_ge secondDivisor (2 * (second % secondDivisor)) with up | down
        · exact .inl up
        · refine .inr ⟨?_, odd⟩
          nlinarith
    · split <;> omega

theorem divHalfEven_one (numerator : Nat) : divHalfEven numerator 1 = numerator := by
  have exact := @divHalfEven_mul_right numerator 1 Nat.one_pos
  rwa [Nat.mul_one] at exact

/-- Rounding to a whole number moves a fraction by a half at most. -/
theorem abs_divHalfEven_sub_le (numerator : Nat) {denominator : Nat} (positive : 0 < denominator) :
    |(divHalfEven numerator denominator : ℚ) - numerator / denominator| ≤ 1 / 2 := by
  have parts := Nat.div_add_mod numerator denominator
  have remainder := Nat.mod_lt numerator positive
  have positiveQ : (0 : ℚ) < denominator := by exact_mod_cast positive
  have twice : 2 * (divHalfEven numerator denominator * denominator) ≤
        2 * numerator + denominator ∧
      2 * numerator ≤ 2 * (divHalfEven numerator denominator * denominator) + denominator := by
    rw [Nat.mul_comm] at parts
    unfold divHalfEven
    dsimp only
    split
    · rw [Nat.add_mul]
      omega
    · omega
  have upper : 2 * ((divHalfEven numerator denominator : ℚ) * denominator) ≤
      2 * numerator + denominator := by exact_mod_cast twice.1
  have lower : 2 * (numerator : ℚ) ≤
      2 * (divHalfEven numerator denominator * denominator) + denominator := by
    exact_mod_cast twice.2
  have whole : (numerator : ℚ) / denominator * denominator = numerator :=
    div_mul_cancel₀ _ positiveQ.ne'
  rw [abs_sub_le_iff]
  constructor
  · apply le_of_mul_le_mul_right _ positiveQ
    rw [sub_mul, whole]
    linarith
  · apply le_of_mul_le_mul_right _ positiveQ
    rw [sub_mul, whole]
    linarith

/-! ## Rounding a magnitude -/

/-- A mantissa, at its scale, after the carry of one that was rounded up to the limit. -/
def withCarry (mantissa : Nat) : Nat :=
  if mantissa < 2 ^ 96 then mantissa else carriedMantissa * 10

theorem withCarry_mono {first second : Nat} (le : first ≤ second) :
    withCarry first ≤ withCarry second := by
  have limit : 2 ^ 96 ≤ carriedMantissa * 10 := by decide
  unfold withCarry
  split <;> split <;> omega

/-- A scale keeps all fraction digits of a magnitude that fit. -/
structure FullScale (magnitude : ℚ) (scale : Nat) : Prop where
  scale_le : scale ≤ 28
  fits : magnitude * 10 ^ scale < 2 ^ 96
  full : scale = 28 ∨ 2 ^ 96 ≤ magnitude * 10 ^ (scale + 1)

/-- A magnitude, as a fraction of whole numbers at its full scale, is rounded to a number. -/
def RoundsTo (magnitude rounded : ℚ) : Prop :=
  ∃ numerator denominator scale : Nat, 0 < denominator ∧ FullScale magnitude scale ∧
    (numerator : ℚ) / denominator = magnitude * 10 ^ scale ∧
    rounded = withCarry (divHalfEven numerator denominator) / 10 ^ scale

/-- The larger of two magnitudes is not rounded to the smaller number, whatever their scales. -/
theorem RoundsTo.mono {first second firstRounded secondRounded : ℚ}
    (firstRounds : RoundsTo first firstRounded) (secondRounds : RoundsTo second secondRounded)
    (le : first ≤ second) : firstRounded ≤ secondRounded := by
  obtain ⟨numerator, denominator, scale, positive, full, fraction, rfl⟩ := firstRounds
  obtain ⟨otherNumerator, otherDenominator, otherScale, otherPositive, otherFull, otherFraction,
    rfl⟩ := secondRounds
  rcases Nat.lt_trichotomy scale otherScale with finer | rfl | coarser
  · -- The second magnitude would have had to give up the digit that the first one gave up.
    have otherScale_le := otherFull.scale_le
    have excess : 2 ^ 96 ≤ first * 10 ^ (scale + 1) := by
      rcases full.full with last | excess
      · omega
      · exact excess
    have nonneg : 0 ≤ second := by
      by_contra below
      have : first * 10 ^ (scale + 1) ≤ 0 :=
        mul_nonpos_of_nonpos_of_nonneg (by linarith) (by positivity)
      linarith
    have : first * 10 ^ (scale + 1) ≤ second * 10 ^ otherScale :=
      mul_le_mul le (pow_le_pow_right₀ (by norm_num) finer) (by positivity) nonneg
    linarith [otherFull.fits]
  · have numerators : numerator * otherDenominator ≤ otherNumerator * denominator := by
      have scaled : first * 10 ^ scale ≤ second * 10 ^ scale :=
        mul_le_mul_of_nonneg_right le (by positivity)
      rw [← fraction, ← otherFraction, div_le_div_iff₀ (by exact_mod_cast positive)
        (by exact_mod_cast otherPositive)] at scaled
      exact_mod_cast scaled
    apply div_le_div_of_nonneg_right _ (by positivity)
    exact_mod_cast withCarry_mono (divHalfEven_mono positive otherPositive numerators)
  · -- The second magnitude is past the limit at the scale of the first.
    have positiveScale : 1 ≤ scale := by omega
    have excess : 2 ^ 96 ≤ second * 10 ^ (otherScale + 1) := by
      rcases otherFull.full with last | excess
      · have := full.scale_le
        omega
      · exact excess
    have carries : carriedMantissa ≤ divHalfEven otherNumerator otherDenominator := by
      have limit : carriedMantissa = divHalfEven (2 ^ 96) 10 := by decide
      rw [limit]
      apply divHalfEven_mono (by decide) otherPositive
      have scaled : (2 ^ 96 : ℚ) / 10 ≤ otherNumerator / otherDenominator := by
        rw [otherFraction, div_le_iff₀ (by norm_num), mul_assoc, ← pow_succ]
        exact excess
      rw [div_le_div_iff₀ (by norm_num) (by exact_mod_cast otherPositive)] at scaled
      exact_mod_cast scaled
    have atMost : withCarry (divHalfEven numerator denominator) ≤ carriedMantissa * 10 := by
      have limit : 2 ^ 96 ≤ carriedMantissa * 10 := by decide
      unfold withCarry
      split <;> omega
    calc (withCarry (divHalfEven numerator denominator) : ℚ) / 10 ^ scale
        ≤ (carriedMantissa * 10 : Nat) / 10 ^ scale := by
          apply div_le_div_of_nonneg_right _ (by positivity)
          exact_mod_cast atMost
      _ = carriedMantissa / 10 ^ (scale - 1) := by
          obtain ⟨digits, rfl⟩ := Nat.exists_eq_add_of_le' positiveScale
          rw [Nat.add_sub_cancel, pow_succ]
          push_cast
          field_simp
      _ ≤ carriedMantissa / 10 ^ otherScale := by
          apply div_le_div_of_nonneg_left (by positivity) (by positivity)
          exact pow_le_pow_right₀ (by norm_num) (by omega)
      _ ≤ withCarry (divHalfEven otherNumerator otherDenominator) / 10 ^ otherScale := by
          apply div_le_div_of_nonneg_right _ (by positivity)
          have kept : carriedMantissa = withCarry carriedMantissa := by decide
          rw [kept]
          exact_mod_cast withCarry_mono carries

theorem RoundsTo.nonneg {magnitude rounded : ℚ} (rounds : RoundsTo magnitude rounded) :
    0 ≤ rounded := by
  obtain ⟨_, _, _, -, -, -, rfl⟩ := rounds
  positivity

/-- So many whole units of a scale are their own rounding. -/
theorem RoundsTo.self {units scale : Nat} (small : units < 2 ^ 96) (scale_le : scale ≤ 28) :
    RoundsTo (units / 10 ^ scale) (units / 10 ^ scale) := by
  obtain ⟨gap, lastScale⟩ := Nat.exists_eq_add_of_le scale_le
  -- Zeros are appended until the scale is full.
  induction gap generalizing units scale with
  | zero =>
      refine ⟨units, 1, scale, Nat.one_pos, ⟨scale_le, ?_, .inl lastScale.symm⟩, ?_, ?_⟩
      · rw [div_mul_cancel₀ _ (by positivity)]
        exact_mod_cast small
      · rw [div_mul_cancel₀ _ (by positivity), Nat.cast_one, div_one]
      · rw [divHalfEven_one, withCarry, if_pos small]
  | succ gap inductionHypothesis =>
      by_cases room : units * 10 < 2 ^ 96
      · have longer : RoundsTo ((units * 10 : Nat) / 10 ^ (scale + 1))
            ((units * 10 : Nat) / 10 ^ (scale + 1)) :=
          inductionHypothesis room (by omega) (by omega)
        have same : ((units * 10 : Nat) : ℚ) / 10 ^ (scale + 1) = units / 10 ^ scale := by
          rw [pow_succ]
          push_cast
          field_simp
        rwa [same] at longer
      · refine ⟨units, 1, scale, Nat.one_pos, ⟨scale_le, ?_, .inr ?_⟩, ?_, ?_⟩
        · rw [div_mul_cancel₀ _ (by positivity)]
          exact_mod_cast small
        · have past : (units : ℚ) / 10 ^ scale * 10 ^ (scale + 1) = (units * 10 : Nat) := by
            rw [pow_succ]
            push_cast
            field_simp
          rw [past]
          exact_mod_cast not_lt.mp room
        · rw [div_mul_cancel₀ _ (by positivity), Nat.cast_one, div_one]
        · rw [divHalfEven_one, withCarry, if_pos small]

theorem RoundsTo.of_zero {rounded : ℚ} (rounds : RoundsTo 0 rounded) : rounded = 0 := by
  have zero : RoundsTo 0 0 := by
    have self : RoundsTo ((0 : Nat) / 10 ^ 0) ((0 : Nat) / 10 ^ 0) := .self (by decide) (by decide)
    simpa using self
  exact le_antisymm (rounds.mono zero le_rfl) rounds.nonneg

/-! ## Rounding a number -/

/-- A decimal is what a number is rounded to. -/
def Rounds (exact : ℚ) (x : Decimal) : Prop :=
  ∃ negative magnitude rounded, exact = signed negative magnitude ∧ 0 ≤ magnitude ∧
    RoundsTo magnitude rounded ∧ x.value = signed negative rounded

theorem Rounds.self (x : Decimal) : Rounds x.value x :=
  ⟨x.negative, _, _, value_eq_signed x, by positivity, .self x.mantissa_lt x.scale_le,
    value_eq_signed x⟩

/-- Rounding keeps the order of numbers. -/
theorem Rounds.mono {first second : ℚ} {x y : Decimal} (firstRounds : Rounds first x)
    (secondRounds : Rounds second y) (le : first ≤ second) : x.value ≤ y.value := by
  obtain ⟨negative, magnitude, rounded, rfl, nonneg, rounds, x_value⟩ := firstRounds
  obtain ⟨otherNegative, otherMagnitude, otherRounded, rfl, otherNonneg, otherRounds, y_value⟩ :=
    secondRounds
  have roundedNonneg := rounds.nonneg
  have otherRoundedNonneg := otherRounds.nonneg
  rw [x_value, y_value]
  cases negative with
  | false =>
      cases otherNegative with
      | false => exact rounds.mono otherRounds le
      | true =>
          -- Only zero has both signs.
          simp only [signed, if_true, Bool.false_eq_true, if_false] at le ⊢
          obtain rfl : magnitude = 0 := by linarith
          obtain rfl : otherMagnitude = 0 := by linarith
          rw [rounds.of_zero, otherRounds.of_zero, neg_zero]
  | true =>
      cases otherNegative with
      | false =>
          simp only [signed, if_true, Bool.false_eq_true, if_false]
          linarith
      | true =>
          simp only [signed, if_true] at le ⊢
          linarith [otherRounds.mono rounds (by linarith)]

theorem Rounds.nonneg {exact : ℚ} {x : Decimal} (rounds : Rounds exact x) (nonneg : 0 ≤ exact) :
    0 ≤ x.value := by
  rw [← value_zero] at nonneg ⊢
  exact (self zero).mono rounds nonneg

theorem Rounds.nonpos {exact : ℚ} {x : Decimal} (rounds : Rounds exact x) (nonpos : exact ≤ 0) :
    x.value ≤ 0 := by
  rw [← value_zero] at nonpos ⊢
  exact rounds.mono (self zero) nonpos

/-! ## How far rounding moves a number -/

/-- A magnitude of at most one is rounded by half a unit of the last digit at most. -/
theorem RoundsTo.close {magnitude rounded : ℚ} (rounds : RoundsTo magnitude rounded)
    (small : magnitude ≤ 1) : |rounded - magnitude| ≤ 1 / (2 * 10 ^ 28) := by
  obtain ⟨numerator, denominator, scale, positive, full, fraction, rfl⟩ := rounds
  have positiveQ : (0 : ℚ) < denominator := by exact_mod_cast positive
  obtain rfl : scale = 28 := by
    rcases full.full with last | excess
    · exact last
    · by_contra notLast
      have scale_le := full.scale_le
      have : magnitude * 10 ^ (scale + 1) ≤ 1 * 10 ^ 28 :=
        mul_le_mul small (pow_le_pow_right₀ (by norm_num) (by omega)) (by positivity) (by norm_num)
      linarith
  have atMost : divHalfEven numerator denominator ≤ 10 ^ 28 := by
    apply divHalfEven_le_of_le_mul positive
    have : (numerator : ℚ) ≤ 10 ^ 28 * denominator := by
      rw [← div_le_iff₀ positiveQ, fraction]
      linarith
    exact_mod_cast this
  have kept : withCarry (divHalfEven numerator denominator) =
      divHalfEven numerator denominator := if_pos (atMost.trans_lt (by decide))
  have near := abs_divHalfEven_sub_le numerator positive
  rw [fraction, abs_sub_le_iff] at near
  rw [kept, abs_sub_le_iff]
  constructor
  · rw [sub_le_iff_le_add, div_le_iff₀ (by positivity)]
    linarith
  · rw [sub_le_comm, le_div_iff₀ (by positivity)]
    linarith

/-- A magnitude that needs more digits than there are is rounded by little of itself. -/
theorem RoundsTo.near {magnitude rounded : ℚ} (rounds : RoundsTo magnitude rounded)
    (large : 2 ^ 96 ≤ magnitude * 10 ^ 28) : |rounded - magnitude| ≤ magnitude / 10 ^ 28 := by
  obtain ⟨numerator, denominator, scale, positive, full, fraction, rfl⟩ := rounds
  have positiveQ : (0 : ℚ) < denominator := by exact_mod_cast positive
  have excess : 2 ^ 96 ≤ magnitude * 10 ^ scale * 10 := by
    rw [mul_assoc, ← pow_succ]
    rcases full.full with rfl | excess
    · linarith [full.fits]
    · exact excess
  have atMost : divHalfEven numerator denominator ≤ 2 ^ 96 := by
    apply divHalfEven_le_of_le_mul positive
    have : (numerator : ℚ) ≤ 2 ^ 96 * denominator := by
      rw [← div_le_iff₀ positiveQ, fraction]
      exact full.fits.le
    exact_mod_cast this
  have close := abs_divHalfEven_sub_le numerator positive
  rw [fraction] at close
  have units : |(withCarry (divHalfEven numerator denominator) : ℚ) - magnitude * 10 ^ scale| ≤
      magnitude * 10 ^ scale / 10 ^ 28 := by
    rw [abs_sub_le_iff] at close ⊢
    rcases Nat.lt_or_eq_of_le atMost with small | limit
    · rw [withCarry, if_pos small]
      constructor <;> linarith
    · -- The carry adds four units to a mantissa at the limit.
      have carried : withCarry (divHalfEven numerator denominator) = 2 ^ 96 + 4 := by
        rw [limit]
        decide
      rw [carried]
      rw [limit] at close
      push_cast at close ⊢
      constructor <;> linarith
  have scaled : withCarry (divHalfEven numerator denominator) / 10 ^ scale - magnitude =
      (withCarry (divHalfEven numerator denominator) - magnitude * 10 ^ scale) / 10 ^ scale := by
    field_simp
  rw [scaled, abs_div, abs_of_pos (show (0 : ℚ) < 10 ^ scale by positivity),
    div_le_iff₀ (by positivity)]
  calc |(withCarry (divHalfEven numerator denominator) : ℚ) - magnitude * 10 ^ scale|
      ≤ magnitude * 10 ^ scale / 10 ^ 28 := units
    _ = magnitude / 10 ^ 28 * 10 ^ scale := by ring

theorem abs_signed_sub_signed (negative : Bool) (first second : ℚ) :
    |signed negative first - signed negative second| = |first - second| := by
  cases negative with
  | false => rfl
  | true =>
      simp only [signed, if_true]
      rw [neg_sub_neg, abs_sub_comm]

/-- A number of magnitude at most one is rounded by half a unit of the last digit at most. -/
theorem Rounds.close {exact : ℚ} {x : Decimal} (rounds : Rounds exact x) (small : |exact| ≤ 1) :
    |x.value - exact| ≤ 1 / (2 * 10 ^ 28) := by
  obtain ⟨negative, magnitude, rounded, rfl, nonneg, magnitudeRounds, x_value⟩ := rounds
  rw [abs_signed nonneg] at small
  rw [x_value, abs_signed_sub_signed]
  exact magnitudeRounds.close small

/-- A number that needs more digits than there are is rounded by little of itself. -/
theorem Rounds.near {exact : ℚ} {x : Decimal} (rounds : Rounds exact x)
    (large : 2 ^ 96 ≤ |exact| * 10 ^ 28) : |x.value - exact| ≤ |exact| / 10 ^ 28 := by
  obtain ⟨negative, magnitude, rounded, rfl, nonneg, magnitudeRounds, x_value⟩ := rounds
  rw [abs_signed nonneg] at large ⊢
  rw [x_value, abs_signed_sub_signed]
  exact magnitudeRounds.near large

end OrderKeeper.Decimal
