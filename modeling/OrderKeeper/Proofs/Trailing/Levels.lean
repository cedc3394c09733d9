import OrderKeeper.Order.Terms
import OrderKeeper.Proofs.Decimal.Value

/-!
Contract: the levels that a trailing position is judged by, as exact numbers.

Owns: the gain of a price over a reference, the level at which a trail should fire,
the level past which it is overdue, how the two depend on the reference, and the best
of some prices.

Does not own: the arithmetic of a trail.
-/

set_option autoImplicit false

namespace OrderKeeper

namespace Side

/-- How far a price is ahead of the reference, in favour of the position. -/
def gain (side : Side) (reference price : ℚ) : ℚ :=
  match side with
  | .buy => price - reference
  | .sell => reference - price

/-- The level behind a price by a fraction of it. -/
def firingLevel (side : Side) (fraction price : ℚ) : ℚ :=
  match side with
  | .buy => price * (1 - fraction)
  | .sell => price * (1 + fraction)

/-- The firing level of the furthest reference behind a best price. -/
def overdueLevel (side : Side) (fraction best : ℚ) : ℚ :=
  match side with
  | .buy => best * (1 - fraction) / (1 + fraction)
  | .sell => best * (1 + fraction) / (1 - fraction)

/-- Whether a price is at a level or past it, against the position. -/
def reaches (side : Side) (price level : ℚ) : Prop :=
  match side with
  | .buy => price ≤ level
  | .sell => level ≤ price

/-- The better of two prices for the position. -/
def better (side : Side) (first second : ℚ) : ℚ :=
  match side with
  | .buy => max first second
  | .sell => min first second

theorem gain_self (side : Side) (price : ℚ) : side.gain price price = 0 := by
  cases side <;> exact sub_self price

theorem gain_trans (side : Side) (first second third : ℚ) :
    side.gain first third = side.gain first second + side.gain second third := by
  cases side with
  | buy => simp only [gain]; ring
  | sell => simp only [gain]; ring

theorem gain_better_nonpos (side : Side) (first second : ℚ) :
    side.gain (side.better first second) first ≤ 0 ∧
      side.gain (side.better first second) second ≤ 0 := by
  cases side <;> simp [gain, better]

theorem better_eq_or (side : Side) (first second : ℚ) :
    side.better first second = first ∨ side.better first second = second := by
  cases side with
  | buy => exact max_choice first second
  | sell => exact min_choice first second

section Levels

variable {side : Side} {fraction reference best price : ℚ}

/-- A price is never at its own firing level. -/
theorem not_reaches_own_firingLevel (fractionPositive : 0 < fraction) (pricePositive : 0 < price) :
    ¬side.reaches price (side.firingLevel fraction price) := by
  have step : 0 < price * fraction := mul_pos pricePositive fractionPositive
  cases side <;> simp only [reaches, firingLevel] <;> linarith

/-- A better reference has the nearer firing level. -/
theorem reaches_firingLevel_of_gain_nonpos (fractionPositive : 0 < fraction)
    (fractionBelowOne : fraction < 1) (behind : side.gain best reference ≤ 0)
    (reached : side.reaches price (side.firingLevel fraction reference)) :
    side.reaches price (side.firingLevel fraction best) := by
  cases side with
  | buy =>
    have ordered : reference ≤ best := by simpa only [gain, sub_nonpos] using behind
    exact le_trans reached (mul_le_mul_of_nonneg_right ordered (by linarith))
  | sell =>
    have ordered : best ≤ reference := by simpa only [gain, sub_nonpos] using behind
    exact le_trans (mul_le_mul_of_nonneg_right ordered (by linarith)) reached

/-- Past the overdue level of a best price, a reference that lags by at most the fraction of
itself has its firing level reached. -/
theorem reaches_firingLevel_of_overdue (fractionPositive : 0 < fraction)
    (fractionBelowOne : fraction < 1) (lag : side.gain reference best ≤ fraction * reference)
    (overdue : side.reaches price (side.overdueLevel fraction best)) :
    side.reaches price (side.firingLevel fraction reference) := by
  cases side with
  | buy =>
    have bestBound : best ≤ reference * (1 + fraction) := by
      simp only [gain] at lag
      linarith
    refine le_trans overdue ((div_le_iff₀ (by linarith)).mpr ?_)
    calc best * (1 - fraction) ≤ reference * (1 + fraction) * (1 - fraction) :=
          mul_le_mul_of_nonneg_right bestBound (by linarith)
      _ = reference * (1 - fraction) * (1 + fraction) := by ring
  | sell =>
    have bestBound : reference * (1 - fraction) ≤ best := by
      simp only [gain] at lag
      linarith
    refine le_trans ((le_div_iff₀ (by linarith)).mpr ?_) overdue
    calc reference * (1 + fraction) * (1 - fraction)
        = reference * (1 - fraction) * (1 + fraction) := by ring
      _ ≤ best * (1 + fraction) := mul_le_mul_of_nonneg_right bestBound (by linarith)

end Levels

end Side

/-- The best price for a position: the highest for a long one, the lowest for a short one. -/
def bestPrice (side : Side) (price : Decimal) (seen : List Decimal) : ℚ :=
  seen.foldr (fun earlier best => side.better earlier.value best) price.value

theorem gain_bestPrice_nonpos (side : Side) {price : Decimal} {seen : List Decimal} :
    ∀ earlier ∈ seen ++ [price], side.gain (bestPrice side price seen) earlier.value ≤ 0 := by
  induction seen with
  | nil =>
    intro earlier member
    obtain rfl : earlier = price := by simpa using member
    exact (side.gain_self _).le
  | cons first rest inductionHypothesis =>
    intro earlier member
    have nearer := side.gain_better_nonpos first.value (bestPrice side price rest)
    rcases List.mem_cons.mp member with rfl | later
    · exact nearer.1
    · have chain := side.gain_trans (bestPrice side price (first :: rest))
        (bestPrice side price rest) earlier.value
      have tail := inductionHypothesis earlier later
      have head : side.gain (bestPrice side price (first :: rest)) (bestPrice side price rest) ≤ 0 :=
        nearer.2
      linarith

theorem exists_value_eq_bestPrice (side : Side) (price : Decimal) (seen : List Decimal) :
    ∃ earlier ∈ seen ++ [price], earlier.value = bestPrice side price seen := by
  induction seen with
  | nil => exact ⟨price, by simp, rfl⟩
  | cons first rest inductionHypothesis =>
    rcases side.better_eq_or first.value (bestPrice side price rest) with isFirst | isLater
    · exact ⟨first, by simp, isFirst.symm⟩
    · obtain ⟨earlier, member, value_eq⟩ := inductionHypothesis
      exact ⟨earlier, List.mem_cons_of_mem _ member, value_eq.trans isLater.symm⟩

end OrderKeeper
