import OrderKeeper.Proofs.Trailing.Reference

/-!
Contract: the stop of a trail, whatever its offset and its prices.

Owns: how the stop follows the reference through rounded arithmetic, that a trail holds the stop
of its reference from the first price on, and the offsets whose stop goes back.

Does not own: the direction of the reference.

A fraction has no upper bound.  With one above one the stop of a long position is a negative
multiple of the reference, so each price that lifts the reference takes the stop further away.
-/

set_option autoImplicit false

namespace OrderKeeper

/-! ## Two references -/

namespace TrailOffset

/-- Whether the stop is a negative multiple of the reference: a long position with a fraction above
one. -/
def IsOverstretched (offset : TrailOffset) (side : Side) : Prop :=
  match offset, side with
  | .percent fraction, .buy => Decimal.one < fraction
  | _, _ => False

instance (offset : TrailOffset) (side : Side) : Decidable (offset.IsOverstretched side) :=
  match offset, side with
  | .percent fraction, .buy => inferInstanceAs (Decidable (Decimal.one < fraction))
  | .percent _, .sell => .isFalse id
  | .absolute _, .buy => .isFalse id
  | .absolute _, .sell => .isFalse id

section Stop

variable {side : Side} {fraction factor reference next stop nextStop : Decimal}

/-- The stop of a fraction is a multiple of the reference, by a factor that depends on the fraction
alone. -/
theorem exists_factor (found : (percent fraction).stopBehind reference side = .ok stop) :
    ∃ factor, Decimal.Rounds (side.firingLevel fraction.value 1) factor ∧
      ∀ other, (percent fraction).stopBehind other side = other.mul factor := by
  cases side with
  | buy =>
      cases kept : Decimal.one.sub fraction with
      | error cause =>
          simp only [stopBehind, kept] at found
          cases found
      | ok factor =>
          have rounds := Decimal.sub_rounds kept
          rw [Decimal.value_one, ← one_mul (1 - fraction.value)] at rounds
          simp only [stopBehind, kept]
          exact ⟨factor, rounds, fun other => rfl⟩
  | sell =>
      cases raised : Decimal.one.add fraction with
      | error cause =>
          simp only [stopBehind, raised] at found
          cases found
      | ok factor =>
          have rounds := Decimal.add_rounds raised
          rw [Decimal.value_one, ← one_mul (1 + fraction.value)] at rounds
          simp only [stopBehind, raised]
          exact ⟨factor, rounds, fun other => rfl⟩

/-- A product by a factor that is not negative follows what is multiplied. -/
theorem mul_le_of_factor_nonneg (found : reference.mul factor = .ok stop)
    (foundNext : next.mul factor = .ok nextStop) (factorNonneg : 0 ≤ factor.value)
    (ahead : reference ≤ next) : stop ≤ nextStop := by
  apply Decimal.value_le_iff.mpr
  apply (Decimal.mul_rounds found).mono (Decimal.mul_rounds foundNext)
  exact mul_le_mul_of_nonneg_right (Decimal.value_le_iff.mp ahead) factorNonneg

/-- A product by a factor that is not positive goes against what is multiplied. -/
theorem mul_le_of_factor_nonpos (found : reference.mul factor = .ok stop)
    (foundNext : next.mul factor = .ok nextStop) (factorNonpos : factor.value ≤ 0)
    (ahead : reference ≤ next) : nextStop ≤ stop := by
  apply Decimal.value_le_iff.mpr
  apply (Decimal.mul_rounds foundNext).mono (Decimal.mul_rounds found)
  exact mul_le_mul_of_nonpos_right (Decimal.value_le_iff.mp ahead) factorNonpos

/-- The stop follows the reference, unless the offset is overstretched: then it goes back. -/
theorem stopBehind_follows {offset : TrailOffset} (offsetPositive : 0 < offset.size.value)
    (found : offset.stopBehind reference side = .ok stop)
    (foundNext : offset.stopBehind next side = .ok nextStop)
    (ahead : side.keepsUp reference next) :
    (¬offset.IsOverstretched side → side.keepsUp stop nextStop) ∧
      (offset.IsOverstretched side → side.flip.keepsUp stop nextStop) := by
  cases offset with
  | percent fraction =>
      obtain ⟨factor, rounds, multiple⟩ := exists_factor found
      rw [multiple] at found foundNext
      have fractionPositive : 0 < fraction.value := offsetPositive
      cases side with
      | buy =>
          constructor
          · intro within
            have atMostOne : fraction.value ≤ Decimal.one.value :=
              not_lt.mp (mt Decimal.value_lt_iff.mpr within)
            rw [Decimal.value_one] at atMostOne
            have factorNonneg := rounds.nonneg (by simp only [Side.firingLevel]; linarith)
            exact mul_le_of_factor_nonneg found foundNext factorNonneg ahead
          · intro beyond
            have aboveOne : Decimal.one.value < fraction.value := Decimal.value_lt_iff.mp beyond
            rw [Decimal.value_one] at aboveOne
            have factorNonpos := rounds.nonpos (by simp only [Side.firingLevel]; linarith)
            exact mul_le_of_factor_nonpos found foundNext factorNonpos ahead
      | sell =>
          refine ⟨fun _ => ?_, False.elim⟩
          have factorNonneg := rounds.nonneg (by simp only [Side.firingLevel]; linarith)
          exact mul_le_of_factor_nonneg foundNext found factorNonneg ahead
  | absolute amount =>
      cases side with
      | buy =>
          refine ⟨fun _ => Decimal.value_le_iff.mpr ?_, False.elim⟩
          apply (Decimal.sub_rounds found).mono (Decimal.sub_rounds foundNext)
          exact sub_le_sub_right (Decimal.value_le_iff.mp ahead) _
      | sell =>
          refine ⟨fun _ => Decimal.value_le_iff.mpr ?_, False.elim⟩
          apply (Decimal.add_rounds foundNext).mono (Decimal.add_rounds found)
          exact add_le_add_left (Decimal.value_le_iff.mp ahead) _

end Stop

end TrailOffset

/-! ## The stop that a trail holds -/

namespace Trail

variable {trail : Trail} {reference price : Decimal} {reaction : TrailReaction}

/-- A trail has a reference, and its stop is the one behind that reference. -/
def HoldsStop (trail : Trail) : Prop :=
  ∃ reference stop, trail.reference = some reference ∧ trail.currentStop = some stop ∧
    trail.offset.stopBehind reference trail.side = .ok stop

theorem applyStop_holdsStop (set : trail.reference = some reference) {ratcheted : Bool}
    (reacted : (trail.applyStop reference price ratcheted).2 = .ok reaction) :
    (trail.applyStop reference price ratcheted).1.HoldsStop := by
  unfold applyStop at reacted ⊢
  split at reacted
  · cases reacted
  · rename_i stop found
    dsimp only
    split
    · exact ⟨reference, stop, set, rfl, found⟩
    · split <;> exact ⟨reference, stop, set, rfl, found⟩

theorem warmUp_holdsStop (reacted : (trail.warmUp price).2 = .ok reaction) :
    (trail.warmUp price).1.HoldsStop := by
  unfold warmUp at reacted ⊢
  dsimp only at reacted ⊢
  split at reacted
  · cases reacted
  · rename_i stop found
    exact ⟨price, stop, rfl, rfl, found⟩

/-- A price leaves a trail with the stop of its reference, if it leaves a reaction. -/
theorem feed_holdsStop
    (before : (trail.triggered = false ∧ trail.reference = none) ∨ trail.HoldsStop)
    (reacted : (trail.feed price).2 = .ok reaction) : (trail.feed price).1.HoldsStop := by
  unfold feed at reacted ⊢
  rcases before with ⟨waiting, unset⟩ | holds
  · have armed : ¬trail.triggered = true := by simp [waiting]
    rw [if_neg armed, unset] at reacted ⊢
    exact warmUp_holdsStop reacted
  · obtain ⟨reference, stop, set, stop_eq, found⟩ := holds
    split
    · exact ⟨reference, stop, set, stop_eq, found⟩
    · rename_i armed
      rw [if_neg armed, set] at reacted
      rw [set]
      dsimp only at reacted ⊢
      split at reacted
      · cases reacted
      · exact applyStop_holdsStop rfl reacted
      · exact applyStop_holdsStop set reacted

theorem after_holdsStop {prices : List Decimal} (nonempty : prices ≠ [])
    (waiting : trail.triggered = false) (unset : trail.reference = none)
    (unbroken : ∀ cause, .error cause ∉ trail.reactions prices) :
    (trail.after prices).HoldsStop := by
  induction prices using List.reverseRecOn with
  | nil => exact absurd rfl nonempty
  | append_singleton earlier price inductionHypothesis =>
      rw [reactions_append_singleton] at unbroken
      rw [after_append_singleton]
      have before : ((trail.after earlier).triggered = false ∧
          (trail.after earlier).reference = none) ∨ (trail.after earlier).HoldsStop := by
        rcases eq_or_ne earlier [] with rfl | someEarlier
        · exact .inl ⟨waiting, unset⟩
        · right
          apply inductionHypothesis someEarlier
          exact fun cause member => unbroken cause (List.mem_append_left _ member)
      cases reacted : ((trail.after earlier).feed price).2 with
      | error cause => exact absurd (by simp [reacted]) (unbroken cause)
      | ok reaction => exact feed_holdsStop before reacted

end Trail

/-! ## Main statement -/

/-- A trail that the book accepts, with positive prices of any size on which its arithmetic does not
break: from the first price on it has a stop, and the stop never moves away from the price, unless
the position is long and the fraction above one; then it never comes closer. -/
theorem stop_never_retreats {book next : TrailBook} {now : Instant} {symbol id : String}
    {side : Side} {percent absolute : Option Decimal} {quantity : Decimal}
    {linkedOrder : Option OrderId} {trail : Trail}
    (added : book.add now symbol side percent absolute quantity linkedOrder = .ok (next, id))
    (armed : next.get? id = some trail) (seen later : List Decimal) (nonempty : seen ≠ [])
    (positive : ∀ price ∈ seen ++ later, Decimal.zero < price)
    (unbroken : ∀ cause, .error cause ∉ trail.reactions (seen ++ later)) :
    ∃ stop nextStop, (trail.after seen).currentStop = some stop ∧
      (trail.after (seen ++ later)).currentStop = some nextStop ∧
      (¬trail.offset.IsOverstretched side → side.keepsUp stop nextStop) ∧
      (trail.offset.IsOverstretched side → side.flip.keepsUp stop nextStop) := by
  obtain ⟨offset, accepted, created⟩ := TrailBook.eq_create_of_added added armed
  have fresh : Anchored trail side offset [] := by
    rw [created]
    exact .create now id symbol side offset quantity linkedOrder
  have waiting : trail.triggered = false := by rw [created]; rfl
  have unset : trail.reference = none := by rw [created]; rfl
  have anchored : Anchored (trail.after seen) side offset seen := fresh.after seen
  have anchoredNext : Anchored (trail.after (seen ++ later)) side offset (seen ++ later) :=
    fresh.after (seen ++ later)
  have unbrokenSeen : ∀ cause, .error cause ∉ trail.reactions seen := by
    intro cause member
    apply unbroken cause
    rw [Trail.reactions_append]
    exact List.mem_append_left _ member
  obtain ⟨reference, stop, set, stop_eq, found⟩ :=
    Trail.after_holdsStop nonempty waiting unset unbrokenSeen
  obtain ⟨nextReference, nextStop, nextSet, nextStop_eq, foundNext⟩ :=
    Trail.after_holdsStop (List.append_ne_nil_of_left_ne_nil nonempty later) waiting unset unbroken
  have ahead : side.keepsUp reference nextReference := by
    obtain ⟨other, otherSet, ahead⟩ := anchored.keepsUp (TrailOffset.size_pos accepted)
      (fun price member => Decimal.zero_lt_iff.mp (positive price member)) set
    rw [← Trail.after_append, nextSet] at otherSet
    obtain rfl := Option.some.inj otherSet
    exact ahead
  rw [anchored.offset_eq, anchored.side_eq] at found
  rw [anchoredNext.offset_eq, anchoredNext.side_eq] at foundNext
  rw [fresh.offset_eq]
  exact ⟨stop, nextStop, stop_eq, nextStop_eq,
    TrailOffset.stopBehind_follows (TrailOffset.size_pos accepted) found foundNext ahead⟩

/-- A long trail of a tenth of the reference: when the price doubles, so does the stop. -/
theorem long_stop_follows_price :
    let tenth : Decimal := ⟨false, 1, 1, by decide, by decide⟩
    let hundred : Decimal := ⟨false, 100, 0, by decide, by decide⟩
    let twoHundred : Decimal := ⟨false, 200, 0, by decide, by decide⟩
    ∃ next id trail,
      TrailBook.empty.add ⟨0, 0⟩ "BTC.PAPER" .buy (some tenth) none .one none = .ok (next, id) ∧
      next.get? id = some trail ∧ (∀ price ∈ [hundred] ++ [twoHundred], Decimal.zero < price) ∧
      (∀ cause, .error cause ∉ trail.reactions ([hundred] ++ [twoHundred])) ∧
      ∃ stop nextStop, (trail.after [hundred]).currentStop = some stop ∧
        (trail.after ([hundred] ++ [twoHundred])).currentStop = some nextStop ∧
        stop ≤ nextStop := by
  intro tenth hundred twoHundred
  set trail := Trail.create ⟨0, 0⟩ (TrailBook.trailId "BTC.PAPER" .buy ⟨0, 0⟩ (.percent tenth) 0)
    "BTC.PAPER" .buy (.percent tenth) .one none
  have added : TrailBook.empty.add ⟨0, 0⟩ "BTC.PAPER" .buy (some tenth) none .one none =
      .ok ({ TrailBook.empty.put trail.id trail with nextNumber := 1 }, trail.id) := rfl
  have armed : (TrailBook.empty.put trail.id trail).get? trail.id = some trail := by
    rw [TrailBook.get?_put, if_pos rfl]
  have positive : ∀ price ∈ [hundred] ++ [twoHundred], Decimal.zero < price := by decide
  have reactions : trail.reactions ([hundred] ++ [twoHundred]) = [.ok .warmUp,
      .ok (.ratcheted twoHundred ⟨false, 1800, 1, by decide, by decide⟩)] := by decide +kernel
  have unbroken : ∀ cause, .error cause ∉ trail.reactions ([hundred] ++ [twoHundred]) := by
    rw [reactions]
    simp
  obtain ⟨stop, nextStop, stop_eq, nextStop_eq, follows, -⟩ :=
    stop_never_retreats added armed [hundred] [twoHundred] (by simp) positive unbroken
  have within : ¬trail.offset.IsOverstretched .buy := by decide
  exact ⟨_, _, trail, added, armed, positive, unbroken, stop, nextStop, stop_eq, nextStop_eq,
    follows within⟩

/-- A long trail of twice the reference, which the book accepts: when the price goes from a hundred
to four hundred, the stop goes from a hundred below zero to four hundred below. -/
theorem overstretched_stop_retreats :
    let two : Decimal := ⟨false, 2, 0, by decide, by decide⟩
    let hundred : Decimal := ⟨false, 100, 0, by decide, by decide⟩
    let fourHundred : Decimal := ⟨false, 400, 0, by decide, by decide⟩
    ∃ next id trail,
      TrailBook.empty.add ⟨0, 0⟩ "BTC.PAPER" .buy (some two) none .one none = .ok (next, id) ∧
      next.get? id = some trail ∧ (∀ price ∈ [hundred, fourHundred], Decimal.zero < price) ∧
      trail.reactions [hundred, fourHundred] =
        [.ok .warmUp, .ok (.ratcheted fourHundred fourHundred.opposite)] ∧
      (trail.after [hundred]).currentStop = some hundred.opposite ∧
      (trail.after [hundred, fourHundred]).currentStop = some fourHundred.opposite ∧
      ¬Side.buy.keepsUp hundred.opposite fourHundred.opposite := by
  intro two hundred fourHundred
  set trail := Trail.create ⟨0, 0⟩ (TrailBook.trailId "BTC.PAPER" .buy ⟨0, 0⟩ (.percent two) 0)
    "BTC.PAPER" .buy (.percent two) .one none
  have armed : (TrailBook.empty.put trail.id trail).get? trail.id = some trail := by
    rw [TrailBook.get?_put, if_pos rfl]
  exact ⟨_, _, trail, rfl, armed, by decide, by decide +kernel, by decide +kernel,
    by decide +kernel, by decide⟩

end OrderKeeper
