import OrderKeeper.Proofs.Trailing.Reference

/-!
Contract: whether a better price lifts the reference too.

Owns: the comparison of two prices that a trail may see in one state, through rounded moves and
rounded least moves, and the one kind of trail for which it depends on the prices.

Does not own: runs of prices.

The least move of an amount is a fraction of the price that is seen.  For a long position a better
price is a higher one, and makes the least move smaller.  For a short one it is a lower one, so the
least move grows with the move, and near zero it grows without bound.
-/

set_option autoImplicit false

namespace OrderKeeper

/-! ## Two prices -/

section TwoPrices

variable {side : Side} {reference price better move betterMove least betterLeast : Decimal}

/-- The move of a better price is rounded to no less. -/
theorem Trail.favourableMove_mono (referencePositive : 0 < reference.value)
    (moved : favourableMove side reference price = .ok move)
    (movedBetter : favourableMove side reference better = .ok betterMove)
    (ahead : side.keepsUp price better) : move.value ≤ betterMove.value := by
  obtain ⟨gain, gainRounds, -, moveRounds⟩ := favourableMove_rounds moved
  obtain ⟨betterGain, betterGainRounds, -, betterMoveRounds⟩ := favourableMove_rounds movedBetter
  apply moveRounds.mono betterMoveRounds
  apply div_le_div_of_nonneg_right _ referencePositive.le
  apply gainRounds.mono betterGainRounds
  rw [side.gain_trans reference.value price.value better.value]
  linarith [Side.keepsUp_iff.mp ahead]

namespace TrailOffset

/-- Whether the least move is larger for a better price: an amount behind a short position. -/
def GrowsWithGain (offset : TrailOffset) (side : Side) : Prop :=
  match offset, side with
  | .absolute _, .sell => True
  | _, _ => False

instance (offset : TrailOffset) (side : Side) : Decidable (offset.GrowsWithGain side) :=
  match offset, side with
  | .percent _, .buy => .isFalse id
  | .percent _, .sell => .isFalse id
  | .absolute _, .buy => .isFalse id
  | .absolute _, .sell => .isTrue trivial

/-- The least move of a better price is rounded to no more, unless it grows with the gain. -/
theorem leastMove_antitone {offset : TrailOffset} (offsetPositive : 0 < offset.size.value)
    (pricePositive : 0 < price.value) (steady : ¬offset.GrowsWithGain side)
    (found : offset.leastMove price = .ok least)
    (foundBetter : offset.leastMove better = .ok betterLeast) (ahead : side.keepsUp price better) :
    betterLeast.value ≤ least.value := by
  cases offset with
  | percent fraction =>
      obtain rfl := Except.ok.inj found
      obtain rfl := Except.ok.inj foundBetter
      exact le_rfl
  | absolute amount =>
      cases side with
      | buy =>
          apply (Decimal.div_rounds foundBetter).mono (Decimal.div_rounds found)
          have amountPositive : 0 < amount.value := offsetPositive
          exact div_le_div_of_nonneg_left amountPositive.le pricePositive
            (Decimal.value_le_iff.mp ahead)
      | sell => exact absurd trivial steady

end TrailOffset

end TwoPrices

/-! ## An amount behind a short position -/

/-- By how much the move of a short position is larger than the least move, without rounding. -/
def shortExcess (amount reference price : ℚ) : ℚ :=
  (reference - price) / reference - amount / price

/-- What two roundings of a move and one of a least move may make of an excess. -/
def excessError : ℚ :=
  2 / 10 ^ 28

theorem shortExcess_eq_div {amount reference price : ℚ} (referencePositive : 0 < reference)
    (pricePositive : 0 < price) :
    shortExcess amount reference price =
      ((reference - price) * price - amount * reference) / (reference * price) := by
  unfold shortExcess
  field_simp

/-- A better price has no less of an excess, as long as it is no closer to zero than the other one is
to the reference. -/
theorem shortExcess_mono {amount reference price better : ℚ} (referencePositive : 0 < reference)
    (betterPositive : 0 < better) (ahead : better ≤ price)
    (excess : 0 < shortExcess amount reference price) (near : reference ≤ price + better) :
    shortExcess amount reference price ≤ shortExcess amount reference better := by
  have pricePositive : 0 < price := betterPositive.trans_le ahead
  rw [shortExcess_eq_div referencePositive pricePositive] at excess ⊢
  rw [shortExcess_eq_div referencePositive betterPositive]
  have gained : 0 < (reference - price) * price - amount * reference :=
    (div_pos_iff_of_pos_right (mul_pos referencePositive pricePositive)).mp excess
  -- The numerators differ by a product of two numbers that are not negative.
  have spare : 0 ≤ (price - better) * (price + better - reference) :=
    mul_nonneg (by linarith) (by linarith)
  apply div_le_div₀
  · linarith
  · linarith
  · exact mul_pos referencePositive betterPositive
  · exact mul_le_mul_of_nonneg_left ahead referencePositive.le

section Amount

variable {amount reference price move least : Decimal}

/-- The move of a short position to a lower price is at most one, and is rounded by one and a half
units of the last digit at most. -/
theorem shortMove_close (pricePositive : 0 < price.value) (lower : price.value < reference.value)
    (moved : Trail.favourableMove .sell reference price = .ok move) :
    move.value ≤ 1 ∧
      |move.value - (reference.value - price.value) / reference.value| ≤ 3 / (2 * 10 ^ 28) := by
  have referencePositive : 0 < reference.value := pricePositive.trans lower
  obtain ⟨gain, gainRounds, gainNear, moveRounds⟩ := Trail.favourableMove_rounds moved
  simp only [Side.gain] at gainRounds gainNear
  have gainNonneg : 0 ≤ gain.value := gainRounds.nonneg (by linarith)
  have gainAtMost : gain.value ≤ reference.value :=
    gainRounds.mono (.self reference) (by linarith)
  have share : gain.value / reference.value ≤ 1 := (div_le_one referencePositive).mpr gainAtMost
  have moveNear := moveRounds.close (by rw [abs_of_nonneg (by positivity)]; exact share)
  have oneRounds := Decimal.Rounds.self .one
  have moveAtMost := moveRounds.mono oneRounds (by rw [Decimal.value_one]; exact share)
  rw [Decimal.value_one] at moveAtMost
  refine ⟨moveAtMost, ?_⟩
  have gainShare : |gain.value / reference.value -
      (reference.value - price.value) / reference.value| ≤ 1 / 10 ^ 28 := by
    rw [← sub_div, abs_div, abs_of_pos referencePositive, div_le_iff₀ referencePositive]
    rw [abs_of_pos (sub_pos.mpr lower)] at gainNear
    linarith
  calc |move.value - (reference.value - price.value) / reference.value|
      ≤ |move.value - gain.value / reference.value| +
          |gain.value / reference.value - (reference.value - price.value) / reference.value| :=
        abs_sub_le _ _ _
    _ ≤ 1 / (2 * 10 ^ 28) + 1 / 10 ^ 28 := add_le_add moveNear gainShare
    _ = 3 / (2 * 10 ^ 28) := by norm_num

/-- An excess beyond the error is one of the rounded numbers as well. -/
theorem least_lt_move (amountPositive : 0 < amount.value) (referencePositive : 0 < reference.value)
    (pricePositive : 0 < price.value)
    (moved : Trail.favourableMove .sell reference price = .ok move)
    (found : amount.div price = .ok least)
    (excess : excessError < shortExcess amount.value reference.value price.value) :
    least.value < move.value := by
  have sharePositive : 0 < amount.value / price.value := div_pos amountPositive pricePositive
  unfold excessError shortExcess at excess
  have gainPositive : 0 < (reference.value - price.value) / reference.value := by
    have : (0 : ℚ) < 2 / 10 ^ 28 := by norm_num
    linarith
  have lower : price.value < reference.value :=
    sub_pos.mp ((div_pos_iff_of_pos_right referencePositive).mp gainPositive)
  have gainAtMost : (reference.value - price.value) / reference.value ≤ 1 :=
    (div_le_one referencePositive).mpr (by linarith)
  have moveNear := (shortMove_close pricePositive lower moved).2
  have leastNear := (Decimal.div_rounds found).close (by rw [abs_of_pos sharePositive]; linarith)
  rw [abs_sub_le_iff] at moveNear leastNear
  linarith [moveNear.2, leastNear.1]

/-- A deficit beyond the error is one of the rounded numbers as well. -/
theorem move_le_least (amountPositive : 0 < amount.value) (referencePositive : 0 < reference.value)
    (pricePositive : 0 < price.value)
    (moved : Trail.favourableMove .sell reference price = .ok move)
    (found : amount.div price = .ok least)
    (deficit : shortExcess amount.value reference.value price.value < -excessError) :
    move.value ≤ least.value := by
  have sharePositive : 0 < amount.value / price.value := div_pos amountPositive pricePositive
  have leastRounds := Decimal.div_rounds found
  rcases lt_or_ge price.value reference.value with lower | higher
  · obtain ⟨moveAtMost, moveNear⟩ := shortMove_close pricePositive lower moved
    rcases le_or_gt (amount.value / price.value) 1 with small | large
    · have leastNear := leastRounds.close (by rwa [abs_of_pos sharePositive])
      unfold excessError shortExcess at deficit
      rw [abs_sub_le_iff] at moveNear leastNear
      linarith [moveNear.1, leastNear.2]
    · -- No move of a short position is larger than one.
      apply moveAtMost.trans
      rw [← Decimal.value_one] at large ⊢
      exact (Decimal.Rounds.self .one).mono leastRounds large.le
  · -- A price that is no gain gives no move.
    obtain ⟨gain, gainRounds, -, moveRounds⟩ := Trail.favourableMove_rounds moved
    have gainNonpos := gainRounds.nonpos (sub_nonpos.mpr higher)
    have moveNonpos :=
      moveRounds.nonpos (div_nonpos_of_nonpos_of_nonneg gainNonpos referencePositive.le)
    exact moveNonpos.trans (leastRounds.nonneg sharePositive.le)

end Amount

/-! ## What the trail does -/

namespace Trail

variable {trail : Trail} {reference price better : Decimal} {reaction : TrailReaction}

/-- A price that is better than the reference takes its place. -/
def LiftedBy (trail : Trail) (reference price : Decimal) : Prop :=
  (trail.feed price).1.reference = some price ∧
    0 < trail.side.gain reference.value price.value

/-- A reaction to a price is that of a decision on the reference. -/
theorem feed_eq_ok (waiting : trail.triggered = false) (set : trail.reference = some reference)
    (fed : (trail.feed price).2 = .ok reaction) :
    ∃ lifts, trail.ratchets reference price = .ok lifts ∧
      (trail.feed price).1.reference = some (if lifts then price else reference) := by
  have armed : ¬trail.triggered = true := by simp [waiting]
  unfold feed at fed ⊢
  rw [if_neg armed, set] at fed ⊢
  dsimp only at fed ⊢
  cases decided : trail.ratchets reference price with
  | error cause =>
      rw [decided] at fed
      cases fed
  | ok lifts =>
      refine ⟨lifts, rfl, ?_⟩
      cases lifts with
      | true => exact (applyStop_reference _ _ _ _).1
      | false => exact (applyStop_reference _ _ _ _).1.trans set

/-- The rounded numbers alone decide what a price does to the reference. -/
theorem feed_decides (offsetPositive : 0 < trail.offset.size.value)
    (referencePositive : 0 < reference.value) (pricePositive : 0 < price.value)
    (waiting : trail.triggered = false) (set : trail.reference = some reference)
    (fed : (trail.feed price).2 = .ok reaction) :
    ∃ move least, favourableMove trail.side reference price = .ok move ∧
      trail.offset.leastMove price = .ok least ∧
      (least.value < move.value → trail.LiftedBy reference price) ∧
      (move.value ≤ least.value → (trail.feed price).1.reference = some reference) := by
  obtain ⟨lifts, decided, next⟩ := feed_eq_ok waiting set fed
  obtain ⟨move, least, moved, found, rfl⟩ := ratchets_eq_ok decided
  refine ⟨move, least, moved, found, fun larger => ?_, fun notLarger => ?_⟩
  · have yes : decide (least < move) = true := decide_eq_true (Decimal.value_lt_iff.mpr larger)
    rw [yes] at decided next
    exact ⟨next, gain_pos_of_ratchets offsetPositive referencePositive pricePositive decided⟩
  · have no : decide (least < move) = false :=
      decide_eq_false (mt Decimal.value_lt_iff.mp (not_lt.mpr notLarger))
    rwa [no] at next

end Trail

/-! ## Main statement -/

/-- A trail of an accepted offset that waits with a reference, and two prices of which the second is
no worse and both of which leave a reaction.

Unless the offset is an amount behind a short position, a price that moves the reference is a better
one, and the second price moves it as well, and no less far.  For an amount behind a short position
each price is judged by its own excess, up to the error of the arithmetic: it moves the reference or
does not, whatever a worse price does.  The excess of the first price passes to the second one as
long as that is no closer to zero than the first one is to the reference. -/
theorem better_price_ratchets_too {trail : Trail} {percent absolute : Option Decimal}
    (accepted : TrailOffset.ofParameters percent absolute = .ok trail.offset)
    (waiting : trail.triggered = false) {reference price better : Decimal}
    (set : trail.reference = some reference)
    (positive : ∀ seen ∈ [reference, price, better], Decimal.zero < seen)
    (ahead : trail.side.keepsUp price better) {reaction betterReaction : TrailReaction}
    (fed : (trail.feed price).2 = .ok reaction)
    (fedBetter : (trail.feed better).2 = .ok betterReaction) :
    (¬trail.offset.GrowsWithGain trail.side → (trail.feed price).1.reference ≠ some reference →
        trail.LiftedBy reference price ∧ trail.LiftedBy reference better) ∧
      ∀ amount, trail.offset = .absolute amount → trail.side = .sell →
        let excess := fun seen : Decimal => shortExcess amount.value reference.value seen.value
        (excessError < excess better → trail.LiftedBy reference better) ∧
          (excess better < -excessError → (trail.feed better).1.reference = some reference) ∧
          (excessError < excess price → reference.value ≤ price.value + better.value →
            trail.LiftedBy reference price ∧ trail.LiftedBy reference better) := by
  have offsetPositive := TrailOffset.size_pos accepted
  have values : ∀ seen ∈ [reference, price, better], 0 < seen.value :=
    fun seen member => Decimal.zero_lt_iff.mp (positive seen member)
  have referencePositive := values reference (by simp)
  have pricePositive := values price (by simp)
  have betterPositive := values better (by simp)
  obtain ⟨move, least, moved, found, lifted, kept⟩ :=
    Trail.feed_decides offsetPositive referencePositive pricePositive waiting set fed
  obtain ⟨betterMove, betterLeast, movedBetter, foundBetter, liftedBetter, keptBetter⟩ :=
    Trail.feed_decides offsetPositive referencePositive betterPositive waiting set fedBetter
  constructor
  · intro steady moves
    have larger : least.value < move.value := by
      by_contra notLarger
      exact moves (kept (not_lt.mp notLarger))
    have moveMono := Trail.favourableMove_mono referencePositive moved movedBetter ahead
    have leastMono := TrailOffset.leastMove_antitone offsetPositive pricePositive steady found
      foundBetter ahead
    exact ⟨lifted larger, liftedBetter (by linarith)⟩
  · intro amount amount_eq short excess
    rw [amount_eq] at offsetPositive found foundBetter
    rw [short] at moved movedBetter ahead
    have amountPositive : 0 < amount.value := offsetPositive
    have lower : better.value ≤ price.value := Decimal.value_le_iff.mp ahead
    have enough : excessError < excess better → trail.LiftedBy reference better := fun beyond =>
      liftedBetter (least_lt_move amountPositive referencePositive betterPositive movedBetter
        foundBetter beyond)
    refine ⟨enough, fun deficit => ?_, fun beyond near => ⟨?_, ?_⟩⟩
    · exact keptBetter (move_le_least amountPositive referencePositive betterPositive movedBetter
        foundBetter deficit)
    · exact lifted (least_lt_move amountPositive referencePositive pricePositive moved found beyond)
    · apply enough
      have errorPositive : 0 < excessError := by unfold excessError; norm_num
      exact beyond.trans_le (shortExcess_mono referencePositive betterPositive lower
        (errorPositive.trans beyond) near)

/-- A long trail of a tenth at a reference of a hundred: a hundred and twenty lifts it, and so does a
hundred and fifty.  A short trail of an amount of ten at two hundred: a hundred and eighty lifts it,
and so does a hundred and fifty. -/
theorem higher_and_lower_prices_lift :
    let tenth : Decimal := ⟨false, 1, 1, by decide, by decide⟩
    let ten : Decimal := ⟨false, 10, 0, by decide, by decide⟩
    let hundred : Decimal := ⟨false, 100, 0, by decide, by decide⟩
    let oneTwenty : Decimal := ⟨false, 120, 0, by decide, by decide⟩
    let oneFifty : Decimal := ⟨false, 150, 0, by decide, by decide⟩
    let oneEighty : Decimal := ⟨false, 180, 0, by decide, by decide⟩
    let twoHundred : Decimal := ⟨false, 200, 0, by decide, by decide⟩
    let long := (Trail.create ⟨0, 0⟩ "long" "BTC.PAPER" .buy (.percent tenth) .one none).feed
      hundred |>.1
    let short := (Trail.create ⟨0, 0⟩ "short" "BTC.PAPER" .sell (.absolute ten) .one none).feed
      twoHundred |>.1
    (long.LiftedBy hundred oneTwenty ∧ long.LiftedBy hundred oneFifty) ∧
      short.LiftedBy twoHundred oneEighty ∧ short.LiftedBy twoHundred oneFifty := by
  intro tenth ten hundred oneTwenty oneFifty oneEighty twoHundred long short
  have fed : (long.feed oneTwenty).2 =
      .ok (.ratcheted oneTwenty ⟨false, 1080, 1, by decide, by decide⟩) := by decide +kernel
  have fedBetter : (long.feed oneFifty).2 =
      .ok (.ratcheted oneFifty ⟨false, 1350, 1, by decide, by decide⟩) := by decide +kernel
  have moves : (long.feed oneTwenty).1.reference ≠ some hundred := by decide +kernel
  have shortFed : (short.feed oneEighty).2 =
      .ok (.ratcheted oneEighty ⟨false, 190, 0, by decide, by decide⟩) := by decide +kernel
  have shortFedBetter : (short.feed oneFifty).2 =
      .ok (.ratcheted oneFifty ⟨false, 160, 0, by decide, by decide⟩) := by decide +kernel
  have steady : ¬long.offset.GrowsWithGain long.side := by decide +kernel
  have longAccepted : TrailOffset.ofParameters (some tenth) none = .ok long.offset := by
    decide +kernel
  have shortAccepted : TrailOffset.ofParameters none (some ten) = .ok short.offset := by
    decide +kernel
  have longMoves := (better_price_ratchets_too longAccepted (by decide +kernel)
    (show long.reference = some hundred by decide +kernel) (by decide)
    (by decide +kernel) fed fedBetter).1
  have shortMoves := (better_price_ratchets_too shortAccepted (by decide +kernel)
    (show short.reference = some twoHundred by decide +kernel) (by decide)
    (by decide +kernel) shortFed shortFedBetter).2
  refine ⟨longMoves steady moves, (shortMoves ten (by decide +kernel) (by decide +kernel)).2.2 ?_ ?_⟩
  · norm_num [excessError, shortExcess, Decimal.value, Decimal.coefficient, ten, twoHundred,
      oneEighty]
  · norm_num [Decimal.value, Decimal.coefficient, twoHundred, oneEighty, oneFifty]

/-- A short trail of an amount of ten at a reference of two hundred: a hundred and eighty lifts it,
but five, which is better, does not. -/
theorem short_amount_skips_better_price :
    let ten : Decimal := ⟨false, 10, 0, by decide, by decide⟩
    let five : Decimal := ⟨false, 5, 0, by decide, by decide⟩
    let oneEighty : Decimal := ⟨false, 180, 0, by decide, by decide⟩
    let oneNinety : Decimal := ⟨false, 190, 0, by decide, by decide⟩
    let twoHundred : Decimal := ⟨false, 200, 0, by decide, by decide⟩
    let twoTen : Decimal := ⟨false, 210, 0, by decide, by decide⟩
    let trail := (Trail.create ⟨0, 0⟩ "short" "BTC.PAPER" .sell (.absolute ten) .one none).feed
      twoHundred |>.1
    TrailOffset.ofParameters none (some ten) = .ok trail.offset ∧ trail.triggered = false ∧
      trail.reference = some twoHundred ∧
      (∀ seen ∈ [twoHundred, oneEighty, five], Decimal.zero < seen) ∧
      trail.side.keepsUp oneEighty five ∧
      (trail.feed oneEighty).2 = .ok (.ratcheted oneEighty oneNinety) ∧
      (trail.feed oneEighty).1.reference = some oneEighty ∧
      (trail.feed five).2 = .ok (.holding twoTen) ∧
      (trail.feed five).1.reference = some twoHundred := by
  intro ten five oneEighty oneNinety twoHundred twoTen trail
  refine ⟨?_, ?_, ?_, ?_, ?_, ?_, ?_, ?_, ?_⟩ <;> decide +kernel

end OrderKeeper
