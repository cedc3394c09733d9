import OrderKeeper.Proofs.Decimal.Quotient
import OrderKeeper.Proofs.Trailing.Book
import OrderKeeper.Proofs.Trailing.Levels

/-!
Contract: how close to the best price a percent trail fires.

Owns: the exactness of the stop and of the ratchet decision for prices with at most
eight fraction digits, the lag of the reference behind the best price, and the firing
of the trail between two levels of it.

Does not own: offsets given as an amount, and what becomes of a trail that fired.

The reference follows a price only when the move is larger than the fraction, so it
may stay behind the best price for good.  It is never behind by more than the
fraction of itself, and that is what the later of the two levels accounts for.
-/

set_option autoImplicit false

namespace OrderKeeper

/-! ## Prices with eight fraction digits -/

/-- A positive price below `10 ^ 12` with at most eight fraction digits. -/
structure QuotedPrice (price : Decimal) : Prop where
  positive : 0 < price.value
  below : price.value < 10 ^ 12
  digits : Decimal.HasDigits 8 price.value

/-- A fraction between zero and one with at most eight fraction digits. -/
structure TrailFraction (fraction : Decimal) : Prop where
  positive : 0 < fraction.value
  belowOne : fraction.value < 1
  digits : Decimal.HasDigits 8 fraction.value

/-! ## One price, exactly -/

section OnePrice

variable {fraction reference price : Decimal}

theorem QuotedPrice.one_le_units (quoted : QuotedPrice price) : 1 / 10 ^ 8 ≤ price.value := by
  have zeroDigits : Decimal.HasDigits 8 0 := by exact_mod_cast Decimal.HasDigits.ofInt 8 0
  have step := zeroDigits.add_unit_le_of_lt quoted.digits quoted.positive
  rwa [zero_add] at step

/-- A price times a factor of at most two with eight digits is computed exactly. -/
theorem QuotedPrice.mul_exact {factor : Decimal} (quoted : QuotedPrice price)
    (factorDigits : Decimal.HasDigits 8 factor.value) (factorNonneg : 0 ≤ factor.value)
    (factorBelow : factor.value ≤ 2) :
    ∃ product, price.mul factor = .ok product ∧ product.value = price.value * factor.value := by
  refine Decimal.mul_exact ((quoted.digits.mul factorDigits).representable (by decide) ?_)
  have product_le : price.value * factor.value ≤ 10 ^ 12 * 2 :=
    mul_le_mul quoted.below.le factorBelow factorNonneg (by positivity)
  rw [abs_of_nonneg (mul_nonneg quoted.positive.le factorNonneg)]
  change price.value * factor.value * 10 ^ 16 < 2 ^ 96
  linarith

/-- The stop behind a reference is at its firing level exactly. -/
theorem TrailOffset.stopBehind_percent (fractionQuoted : TrailFraction fraction)
    (referenceQuoted : QuotedPrice reference) (side : Side) :
    ∃ stop, (TrailOffset.percent fraction).stopBehind reference side = .ok stop ∧
      stop.value = side.firingLevel fraction.value reference.value := by
  have positive := fractionQuoted.positive
  have belowOne := fractionQuoted.belowOne
  have oneDigits : Decimal.HasDigits 8 Decimal.one.value := by
    rw [Decimal.value_one]
    exact_mod_cast Decimal.HasDigits.ofInt 8 1
  cases side with
  | buy =>
    have digits := oneDigits.sub fractionQuoted.digits
    obtain ⟨factor, factor_eq, factor_value⟩ := Decimal.sub_exact
      (digits.representable (by decide) (by
        rw [Decimal.value_one, abs_of_nonneg (by linarith)]
        linarith))
    rw [← factor_value] at digits
    rw [Decimal.value_one] at factor_value
    obtain ⟨stop, stop_eq, stop_value⟩ :=
      referenceQuoted.mul_exact digits (by linarith) (by linarith)
    refine ⟨stop, ?_, by rw [stop_value, factor_value]; rfl⟩
    simp only [stopBehind, factor_eq]
    exact stop_eq
  | sell =>
    have digits := oneDigits.add fractionQuoted.digits
    obtain ⟨factor, factor_eq, factor_value⟩ := Decimal.add_exact
      (digits.representable (by decide) (by
        rw [Decimal.value_one, abs_of_nonneg (by linarith)]
        linarith))
    rw [← factor_value] at digits
    rw [Decimal.value_one] at factor_value
    obtain ⟨stop, stop_eq, stop_value⟩ :=
      referenceQuoted.mul_exact digits (by linarith) (by linarith)
    refine ⟨stop, ?_, by rw [stop_value, factor_value]; rfl⟩
    simp only [stopBehind, factor_eq]
    exact stop_eq

theorem abs_gain_lt (referenceQuoted : QuotedPrice reference) (priceQuoted : QuotedPrice price)
    (side : Side) : |side.gain reference.value price.value| < 10 ^ 12 := by
  have := referenceQuoted.positive
  have := referenceQuoted.below
  have := priceQuoted.positive
  have := priceQuoted.below
  cases side <;> simp only [Side.gain, abs_lt] <;> constructor <;> linarith

theorem gain_hasDigits (referenceQuoted : QuotedPrice reference) (priceQuoted : QuotedPrice price)
    (side : Side) : Decimal.HasDigits 8 (side.gain reference.value price.value) := by
  cases side with
  | buy => exact priceQuoted.digits.sub referenceQuoted.digits
  | sell => exact referenceQuoted.digits.sub priceQuoted.digits

/-- The favourable move is the exact gain divided by the reference. -/
theorem Trail.favourableMove_eq_div (referenceQuoted : QuotedPrice reference)
    (priceQuoted : QuotedPrice price) (side : Side) :
    ∃ difference : Decimal, difference.value = side.gain reference.value price.value ∧
      favourableMove side reference price = difference.div reference := by
  have small := abs_gain_lt referenceQuoted priceQuoted side
  have representable := (gain_hasDigits referenceQuoted priceQuoted side).representable
    (by decide) (by linarith)
  cases side with
  | buy =>
    obtain ⟨difference, difference_eq, difference_value⟩ := Decimal.sub_exact representable
    refine ⟨difference, difference_value, ?_⟩
    simp only [favourableMove, difference_eq]
    rfl
  | sell =>
    obtain ⟨difference, difference_eq, difference_value⟩ := Decimal.sub_exact representable
    refine ⟨difference, difference_value, ?_⟩
    simp only [favourableMove, difference_eq]
    rfl

theorem Trail.offset_eq_percent {trail : Trail} (percent_eq : trail.percent = some fraction) :
    trail.offset = .percent fraction := by
  unfold offset
  rw [percent_eq]

/-- Rounding does not change whether a price lifts the reference. -/
theorem Trail.ratchets_percent {trail : Trail} (percent_eq : trail.percent = some fraction)
    (fractionQuoted : TrailFraction fraction) (referenceQuoted : QuotedPrice reference)
    (priceQuoted : QuotedPrice price) :
    ∃ lifts, trail.ratchets reference price = .ok lifts ∧
      (lifts = true ↔
        fraction.value * reference.value < trail.side.gain reference.value price.value) := by
  obtain ⟨difference, difference_value, move_eq⟩ :=
    favourableMove_eq_div referenceQuoted priceQuoted trail.side
  have referenceLeast := referenceQuoted.one_le_units
  have bounded : |difference.value| ≤ 2 ^ 95 * reference.value := by
    have := abs_gain_lt referenceQuoted priceQuoted trail.side
    rw [difference_value]
    linarith
  -- Gain and threshold have sixteen digits, and one unit of the sixteenth is more than the
  -- reference has in its twenty-eighth.
  have gap : fraction.value * reference.value < difference.value →
      (fraction.value + 1 / 10 ^ 28) * reference.value ≤ difference.value := by
    intro passed
    have gainDigits : Decimal.HasDigits (8 + 8) (difference.value * 1) := by
      rw [difference_value]
      exact (gain_hasDigits referenceQuoted priceQuoted _).mul
        (by exact_mod_cast Decimal.HasDigits.ofInt 8 1)
    rw [mul_one] at gainDigits
    have wide := (fractionQuoted.digits.mul referenceQuoted.digits).add_unit_le_of_lt
      gainDigits passed
    have := referenceQuoted.below
    linarith
  obtain ⟨move, quotient_eq, decision⟩ := Decimal.lt_div_iff referenceQuoted.positive bounded
    fractionQuoted.positive.le fractionQuoted.belowOne gap
  refine ⟨decide (fraction < move), ?_, ?_⟩
  · unfold ratchets
    rw [move_eq, quotient_eq, offset_eq_percent percent_eq]
    rfl
  · rw [decide_eq_true_iff, Decimal.value_lt_iff, decision, difference_value]

theorem Trail.crosses_iff {side : Side} {stop : Decimal} :
    crosses side price stop = true ↔ side.reaches price.value stop.value := by
  cases side <;> simp only [crosses, Side.reaches, decide_eq_true_eq, Decimal.value_le_iff]

end OnePrice

/-! ## The lag of the reference -/

/-- The reference is one of the prices, and none of them is ahead of it by more than the
fraction of it. -/
structure Lags (side : Side) (fraction reference : Decimal) (prices : List Decimal) : Prop where
  seen : reference ∈ prices
  lag : ∀ price ∈ prices,
    side.gain reference.value price.value ≤ fraction.value * reference.value

/-- What a percent trail of a side holds after some prices, as long as it has not fired. -/
structure Follows (trail : Trail) (side : Side) (fraction : Decimal) (prices : List Decimal) :
    Prop where
  side_eq : trail.side = side
  percent_eq : trail.percent = some fraction
  waiting : trail.triggered = false
  reference : (prices = [] ∧ trail.reference = none) ∨
    ∃ reference, trail.reference = some reference ∧ Lags side fraction reference prices

/-- What a price did to a percent trail: it fired with the firing level of the reference
reached, or it goes on following the prices. -/
def FiresOrFollows (side : Side) (fraction reference price : Decimal) (prices : List Decimal)
    (next : Trail) (reaction : TrailReaction) : Prop :=
  (side.reaches price.value (side.firingLevel fraction.value reference.value) ∧
    next.triggered = true ∧ ∃ stop, reaction = .triggered stop) ∨
  (¬side.reaches price.value (side.firingLevel fraction.value reference.value) ∧
    Follows next side fraction prices ∧ ∀ stop, reaction ≠ .triggered stop)

section Run

variable {side : Side} {fraction reference price : Decimal} {seen : List Decimal} {trail : Trail}

/-- The first price is level with itself. -/
theorem Lags.first (thresholdNonneg : 0 ≤ fraction.value * price.value) :
    Lags side fraction price [price] where
  seen := List.mem_singleton.mpr rfl
  lag := by
    intro other member
    obtain rfl := List.mem_singleton.mp member
    rw [side.gain_self]
    exact thresholdNonneg

/-- A price that does not lift the reference is within the lag. -/
theorem Lags.keep (lags : Lags side fraction reference seen)
    (within : side.gain reference.value price.value ≤ fraction.value * reference.value) :
    Lags side fraction reference (seen ++ [price]) where
  seen := List.mem_append_left _ lags.seen
  lag := by
    intro other member
    rcases List.mem_append.mp member with earlier | latest
    · exact lags.lag other earlier
    · obtain rfl : other = price := by simpa using latest
      exact within

/-- A price that lifts the reference is ahead of all earlier ones. -/
theorem Lags.lift (lags : Lags side fraction reference seen)
    (thresholdNonneg : 0 ≤ fraction.value * price.value)
    (ahead : fraction.value * reference.value < side.gain reference.value price.value) :
    Lags side fraction price (seen ++ [price]) where
  seen := List.mem_append_right _ (List.mem_singleton.mpr rfl)
  lag := by
    intro other member
    rcases List.mem_append.mp member with earlier | latest
    · have chain := side.gain_trans reference.value price.value other.value
      have earlierLag := lags.lag other earlier
      linarith
    · obtain rfl : other = price := by simpa using latest
      rw [side.gain_self]
      exact thresholdNonneg

/-- Setting the stop fires the trail exactly when the price has reached the firing level. -/
theorem Trail.applyStop_percent (trail : Trail) (side_eq : trail.side = side)
    (percent_eq : trail.percent = some fraction) (waiting : trail.triggered = false)
    (reference_eq : trail.reference = some reference) (fractionQuoted : TrailFraction fraction)
    (referenceQuoted : QuotedPrice reference) (price : Decimal) (ratcheted : Bool)
    {prices : List Decimal}
    (lags : Lags side fraction reference prices) :
    ∃ next reaction, trail.applyStop reference price ratcheted = (next, .ok reaction) ∧
      FiresOrFollows side fraction reference price prices next reaction := by
  obtain ⟨stop, stop_eq, stop_value⟩ :=
    TrailOffset.stopBehind_percent fractionQuoted referenceQuoted side
  have decision : crosses side price stop = true ↔
      side.reaches price.value (side.firingLevel fraction.value reference.value) := by
    rw [← stop_value]
    exact crosses_iff
  subst side_eq
  unfold applyStop
  rw [offset_eq_percent percent_eq, stop_eq]
  dsimp only
  by_cases crossed : crosses trail.side price stop = true
  · rw [if_pos crossed]
    exact ⟨_, _, rfl, Or.inl ⟨decision.mp crossed, rfl, stop, rfl⟩⟩
  · rw [if_neg crossed]
    have held : Follows { trail with currentStop := some stop } trail.side fraction prices :=
      ⟨rfl, percent_eq, waiting, Or.inr ⟨reference, reference_eq, lags⟩⟩
    have notReached := mt decision.mpr crossed
    cases ratcheted with
    | true => exact ⟨_, _, rfl, Or.inr ⟨notReached, held, by simp⟩⟩
    | false => exact ⟨_, _, rfl, Or.inr ⟨notReached, held, by simp⟩⟩

/-- The first price becomes the reference. -/
theorem Trail.warmUp_percent (percent_eq : trail.percent = some fraction)
    (fractionQuoted : TrailFraction fraction) (priceQuoted : QuotedPrice price) :
    ∃ stop, trail.warmUp price =
      ({ trail with reference := some price, currentStop := some stop }, .ok .warmUp) := by
  obtain ⟨stop, stop_eq, -⟩ :=
    TrailOffset.stopBehind_percent fractionQuoted priceQuoted trail.side
  have offset_eq : { trail with reference := some price }.offset = .percent fraction :=
    offset_eq_percent percent_eq
  refine ⟨stop, ?_⟩
  unfold warmUp
  dsimp only
  rw [offset_eq, stop_eq]

/-- One more price: the trail fires exactly when the price has reached the firing level of a
reference that lags behind the best price by at most the fraction. -/
theorem Trail.feed_percent (follows : Follows trail side fraction seen)
    (fractionQuoted : TrailFraction fraction) (seenQuoted : ∀ earlier ∈ seen, QuotedPrice earlier)
    (priceQuoted : QuotedPrice price) :
    ∃ next reaction reference, trail.feed price = (next, .ok reaction) ∧
      Lags side fraction reference (seen ++ [price]) ∧
      FiresOrFollows side fraction reference price (seen ++ [price]) next reaction := by
  have thresholdNonneg : 0 ≤ fraction.value * price.value :=
    mul_nonneg fractionQuoted.positive.le priceQuoted.positive.le
  have armed : ¬trail.triggered = true := by simp [follows.waiting]
  unfold feed
  rw [if_neg armed]
  rcases follows.reference with ⟨rfl, unset⟩ | ⟨reference, set, lags⟩
  · -- The first price is the reference, and a price is never at its own firing level.
    obtain ⟨stop, warmed⟩ := warmUp_percent follows.percent_eq fractionQuoted priceQuoted
    have firstLags : Lags side fraction price [price] := .first thresholdNonneg
    rw [unset]
    have notReached : ¬side.reaches price.value (side.firingLevel fraction.value price.value) :=
      Side.not_reaches_own_firingLevel fractionQuoted.positive priceQuoted.positive
    exact ⟨_, .warmUp, price, warmed, firstLags,
      Or.inr ⟨notReached, ⟨follows.side_eq, follows.percent_eq, follows.waiting,
        Or.inr ⟨price, rfl, firstLags⟩⟩, by simp⟩⟩
  · have referenceQuoted := seenQuoted reference lags.seen
    obtain ⟨lifts, lifts_eq, decision⟩ :=
      ratchets_percent follows.percent_eq fractionQuoted referenceQuoted priceQuoted
    rw [follows.side_eq] at decision
    rw [set]
    dsimp only
    rw [lifts_eq]
    cases lifts with
    | true =>
      have lifted := lags.lift thresholdNonneg (decision.mp rfl)
      obtain ⟨next, reaction, applied, outcome⟩ :=
        applyStop_percent { trail with reference := some price } follows.side_eq
          follows.percent_eq follows.waiting rfl fractionQuoted priceQuoted price true lifted
      exact ⟨next, reaction, price, applied, lifted, outcome⟩
    | false =>
      have kept := lags.keep (not_lt.mp fun ahead => by simpa using decision.mpr ahead)
      obtain ⟨next, reaction, applied, outcome⟩ :=
        applyStop_percent trail follows.side_eq follows.percent_eq follows.waiting set
          fractionQuoted referenceQuoted price false kept
      exact ⟨next, reaction, reference, applied, kept, outcome⟩

end Run

/-! ## A run of prices -/

namespace Trail

/-- The trail after some prices. -/
def after (trail : Trail) (prices : List Decimal) : Trail :=
  prices.foldl (fun trail price => (trail.feed price).1) trail

/-- What each of some prices did to a trail. -/
def reactions (trail : Trail) : List Decimal → List (Except ArithmeticError TrailReaction)
  | [] => []
  | price :: rest => (trail.feed price).2 :: (trail.feed price).1.reactions rest

theorem after_append (trail : Trail) (seen later : List Decimal) :
    trail.after (seen ++ later) = (trail.after seen).after later :=
  List.foldl_append

theorem reactions_append (trail : Trail) (seen later : List Decimal) :
    trail.reactions (seen ++ later) =
      trail.reactions seen ++ (trail.after seen).reactions later := by
  induction seen generalizing trail with
  | nil => rfl
  | cons first rest inductionHypothesis =>
    rw [List.cons_append, reactions, inductionHypothesis]
    rfl

theorem after_append_singleton (trail : Trail) (prices : List Decimal) (price : Decimal) :
    trail.after (prices ++ [price]) = ((trail.after prices).feed price).1 :=
  trail.after_append prices [price]

theorem reactions_append_singleton (trail : Trail) (prices : List Decimal) (price : Decimal) :
    trail.reactions (prices ++ [price]) =
      trail.reactions prices ++ [((trail.after prices).feed price).2] :=
  trail.reactions_append prices [price]

end Trail

/-- After any prices a percent trail follows them or has fired, and each price had a
reaction. -/
theorem Trail.follows_or_fired {side : Side} {fraction : Decimal} {trail : Trail}
    (fresh : Follows trail side fraction []) (fractionQuoted : TrailFraction fraction)
    {prices : List Decimal} (quoted : ∀ price ∈ prices, QuotedPrice price) :
    (∀ reaction ∈ trail.reactions prices, ∃ step, reaction = .ok step) ∧
      (Follows (trail.after prices) side fraction prices ∨
        (trail.after prices).triggered = true ∧
          ∃ stop, .ok (.triggered stop) ∈ trail.reactions prices) := by
  induction prices using List.reverseRecOn with
  | nil => exact ⟨by simp [reactions], Or.inl fresh⟩
  | append_singleton seen price inductionHypothesis =>
    have seenQuoted : ∀ earlier ∈ seen, QuotedPrice earlier :=
      fun earlier member => quoted earlier (List.mem_append_left _ member)
    have priceQuoted : QuotedPrice price := quoted price (by simp)
    obtain ⟨answered, state⟩ := inductionHypothesis seenQuoted
    rw [after_append_singleton, reactions_append_singleton]
    have answeredWith {step : TrailReaction} :
        ∀ reaction ∈ trail.reactions seen ++ [.ok step], ∃ step, reaction = .ok step := by
      intro reaction member
      rcases List.mem_append.mp member with earlier | latest
      · exact answered reaction earlier
      · exact ⟨step, List.mem_singleton.mp latest⟩
    rcases state with follows | ⟨fired, stop, earlier⟩
    · obtain ⟨next, reaction, reference, fed, -, outcome⟩ :=
        feed_percent follows fractionQuoted seenQuoted priceQuoted
      rw [fed]
      refine ⟨answeredWith, ?_⟩
      rcases outcome with ⟨-, nextFired, stop, rfl⟩ | ⟨-, nextFollows, -⟩
      · exact Or.inr ⟨nextFired, stop, by simp⟩
      · exact Or.inl nextFollows
    · rw [feed_of_triggered fired]
      exact ⟨answeredWith, Or.inr ⟨fired, stop, List.mem_append_left _ earlier⟩⟩

/-- A percent trail with prices of at most eight fraction digits, each below `10 ^ 12`: every
price has a reaction; the trail fires at a price only if that is at or past the firing level of
the best price so far, the price itself included; and it has fired by the first price at or
past the overdue level of the best one. -/
theorem percentTrail_fires_between_levels (now : Instant) (id symbol : String) (side : Side)
    (fraction quantity : Decimal) (linkedOrder : Option OrderId) (seen : List Decimal)
    (price : Decimal) (fractionQuoted : TrailFraction fraction)
    (quoted : ∀ earlier ∈ seen ++ [price], QuotedPrice earlier) :
    let trail := Trail.create now id symbol side (.percent fraction) quantity linkedOrder
    let best := bestPrice side price seen
    (∀ reaction ∈ trail.reactions (seen ++ [price]), ∃ step, reaction = .ok step) ∧
    (∀ stop, ((trail.after seen).feed price).2 = .ok (.triggered stop) →
      side.reaches price.value (side.firingLevel fraction.value best)) ∧
    (side.reaches price.value (side.overdueLevel fraction.value best) →
      ∃ stop, .ok (.triggered stop) ∈ trail.reactions (seen ++ [price])) := by
  intro trail best
  have seenQuoted : ∀ earlier ∈ seen, QuotedPrice earlier :=
    fun earlier member => quoted earlier (List.mem_append_left _ member)
  have priceQuoted : QuotedPrice price := quoted price (by simp)
  have fresh : Follows trail side fraction [] := ⟨rfl, rfl, rfl, Or.inl ⟨rfl, rfl⟩⟩
  refine ⟨(Trail.follows_or_fired fresh fractionQuoted quoted).1, ?_⟩
  rcases (Trail.follows_or_fired fresh fractionQuoted seenQuoted).2 with
    follows | ⟨fired, stop, earlier⟩
  · obtain ⟨next, reaction, reference, fed, lags, outcome⟩ :=
      Trail.feed_percent follows fractionQuoted seenQuoted priceQuoted
    have positive := fractionQuoted.positive
    have belowOne := fractionQuoted.belowOne
    rw [Trail.reactions_append_singleton, fed]
    constructor
    · intro stop fires
      rcases outcome with ⟨reached, -, -⟩ | ⟨-, -, silent⟩
      · exact Side.reaches_firingLevel_of_gain_nonpos positive belowOne
          (gain_bestPrice_nonpos side reference lags.seen) reached
      · exact absurd (Except.ok.inj fires) (silent stop)
    · intro overdue
      obtain ⟨bestSeen, member, value_eq⟩ := exists_value_eq_bestPrice side price seen
      have lag := lags.lag bestSeen member
      rw [value_eq] at lag
      have reached := Side.reaches_firingLevel_of_overdue positive belowOne lag overdue
      rcases outcome with ⟨-, -, stop, rfl⟩ | ⟨notReached, -, -⟩
      · exact ⟨stop, by simp⟩
      · exact absurd reached notReached
  · rw [Trail.reactions_append_singleton, Trail.feed_of_triggered fired]
    exact ⟨fun stop fires => by simp at fires,
      fun _ => ⟨stop, List.mem_append_left _ earlier⟩⟩

/-- A long trail of a tenth that saw 100 and 110 has fired at 90, the overdue level of 110. -/
theorem long_trail_fires_at_overdue_level :
    let tenth : Decimal := ⟨false, 1, 1, by decide, by decide⟩
    let seen : List Decimal :=
      [⟨false, 100, 0, by decide, by decide⟩, ⟨false, 1100, 1, by decide, by decide⟩]
    let price : Decimal := ⟨false, 90, 0, by decide, by decide⟩
    let trail := Trail.create ⟨0, 0⟩ "trail" "BTC.PAPER" .buy (.percent tenth) .one none
    TrailFraction tenth ∧ (∀ earlier ∈ seen ++ [price], QuotedPrice earlier) ∧
      price.value = Side.buy.overdueLevel tenth.value (bestPrice .buy price seen) ∧
      ∃ stop, .ok (.triggered stop) ∈ trail.reactions (seen ++ [price]) := by
  intro tenth seen price trail
  have tenth_value : tenth.value = 1 / 10 := by norm_num [Decimal.value, Decimal.coefficient, tenth]
  have tenthQuoted : TrailFraction tenth := by
    refine ⟨?_, ?_, 10 ^ 7, ?_⟩ <;> rw [tenth_value] <;> norm_num
  have quoted : ∀ earlier ∈ seen ++ [price], QuotedPrice earlier := by
    intro earlier member
    obtain rfl | rfl | rfl :
        earlier = ⟨false, 100, 0, by decide, by decide⟩ ∨
          earlier = ⟨false, 1100, 1, by decide, by decide⟩ ∨ earlier = price := by
      simpa [seen] using member
    · refine ⟨?_, ?_, 100 * 10 ^ 8, ?_⟩ <;> norm_num [Decimal.value, Decimal.coefficient]
    · refine ⟨?_, ?_, 110 * 10 ^ 8, ?_⟩ <;> norm_num [Decimal.value, Decimal.coefficient]
    · refine ⟨?_, ?_, 90 * 10 ^ 8, ?_⟩ <;> norm_num [Decimal.value, Decimal.coefficient, price]
  have level : price.value = Side.buy.overdueLevel tenth.value (bestPrice .buy price seen) := by
    norm_num [Decimal.value, Decimal.coefficient, price, seen, bestPrice, Side.better,
      Side.overdueLevel, tenth]
  exact ⟨tenthQuoted, quoted, level,
    (percentTrail_fires_between_levels ⟨0, 0⟩ "trail" "BTC.PAPER" .buy tenth .one none seen price
      tenthQuoted quoted).2.2 level.le⟩

end OrderKeeper
