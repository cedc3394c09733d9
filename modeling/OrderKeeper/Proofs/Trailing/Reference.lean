import OrderKeeper.Proofs.Decimal.Results
import OrderKeeper.Proofs.Trailing.PercentTrail

/-!
Contract: the reference price of a trail, whatever its offset and its prices.

Owns: the rounding of a favourable move, the direction in which the reference moves, where it comes
from, and the one reaction after which a trail reacts no more.

Does not own: the level at which a trail triggers.

A reaction may fail at any step of its arithmetic, after the reference was set or before.  Neither
the sign of a rounded result nor the order of the steps lets the reference go back.
-/

set_option autoImplicit false

namespace OrderKeeper

/-! ## Offsets that are accepted -/

/-- Whether a reference is no worse for the position than an earlier one. -/
def Side.keepsUp (side : Side) (earlier later : Decimal) : Prop :=
  match side with
  | .buy => earlier ≤ later
  | .sell => later ≤ earlier

instance (side : Side) (earlier later : Decimal) : Decidable (side.keepsUp earlier later) :=
  match side with
  | .buy => inferInstanceAs (Decidable (earlier ≤ later))
  | .sell => inferInstanceAs (Decidable (later ≤ earlier))

theorem Side.keepsUp_iff {side : Side} {earlier later : Decimal} :
    side.keepsUp earlier later ↔ 0 ≤ side.gain earlier.value later.value := by
  cases side with
  | buy => exact Decimal.value_le_iff.trans sub_nonneg.symm
  | sell => exact Decimal.value_le_iff.trans sub_nonneg.symm

theorem Side.keepsUp_refl (side : Side) (reference : Decimal) :
    side.keepsUp reference reference :=
  Side.keepsUp_iff.mpr (side.gain_self reference.value).ge

theorem Side.keepsUp_trans {side : Side} {first second third : Decimal}
    (earlier : side.keepsUp first second) (later : side.keepsUp second third) :
    side.keepsUp first third := by
  rw [Side.keepsUp_iff] at earlier later ⊢
  rw [side.gain_trans first.value second.value third.value]
  exact add_nonneg earlier later

namespace TrailOffset

/-- The fraction or the amount. -/
def size : TrailOffset → Decimal
  | .percent fraction => fraction
  | .absolute amount => amount

theorem size_pos {percent absolute : Option Decimal} {offset : TrailOffset}
    (accepted : ofParameters percent absolute = .ok offset) : 0 < offset.size.value := by
  have checked {field : String} {value : Decimal} {make : Decimal → TrailOffset}
      (passed : (requirePositive field value).map (fun _ => make value) = .ok offset) :
      0 < value.value ∧ make value = offset := by
    unfold requirePositive at passed
    split at passed
    · rename_i positive
      exact ⟨Decimal.zero_lt_iff.mp positive, Except.ok.inj passed⟩
    · cases passed
  cases percent with
  | none =>
      cases absolute with
      | none => cases accepted
      | some amount =>
          obtain ⟨positive, rfl⟩ := checked accepted
          exact positive
  | some fraction =>
      cases absolute with
      | none =>
          obtain ⟨positive, rfl⟩ := checked accepted
          exact positive
      | some amount => cases accepted

/-- The least move is not negative, though it may be rounded to zero. -/
theorem leastMove_nonneg {offset : TrailOffset} {price least : Decimal}
    (offsetPositive : 0 < offset.size.value) (pricePositive : 0 < price.value)
    (found : offset.leastMove price = .ok least) : 0 ≤ least.value := by
  cases offset with
  | percent fraction =>
      rw [← Except.ok.inj found]
      exact offsetPositive.le
  | absolute amount => exact Decimal.div_nonneg_of_pos found offsetPositive pricePositive

end TrailOffset

/-! ## One price -/

namespace Trail

variable {trail : Trail} {reference price : Decimal}

/-- A difference as a fraction of another number is rounded twice, the first time by little of
itself. -/
theorem gain_share_rounds {first second move : Decimal}
    (moved : (do (← second.sub first).div reference) = Except.ok move) :
    ∃ gain : Decimal, Decimal.Rounds (second.value - first.value) gain ∧
      |gain.value - (second.value - first.value)| ≤ |second.value - first.value| / 10 ^ 28 ∧
      Decimal.Rounds (gain.value / reference.value) move := by
  cases difference : second.sub first with
  | error cause =>
      simp only [difference] at moved
      cases moved
  | ok gain =>
      simp only [difference] at moved
      exact ⟨gain, Decimal.sub_rounds difference, Decimal.sub_near difference,
        Decimal.div_rounds moved⟩

/-- The move is the gain of a price over the reference, rounded, as a fraction of the reference,
rounded again. -/
theorem favourableMove_rounds {side : Side} {move : Decimal}
    (moved : favourableMove side reference price = .ok move) :
    ∃ gain : Decimal, Decimal.Rounds (side.gain reference.value price.value) gain ∧
      |gain.value - side.gain reference.value price.value| ≤
        |side.gain reference.value price.value| / 10 ^ 28 ∧
      Decimal.Rounds (gain.value / reference.value) move := by
  cases side with
  | buy => exact gain_share_rounds moved
  | sell => exact gain_share_rounds moved

theorem ratchets_eq_ok {lifts : Bool} (decided : trail.ratchets reference price = .ok lifts) :
    ∃ move least, favourableMove trail.side reference price = .ok move ∧
      trail.offset.leastMove price = .ok least ∧ lifts = decide (least < move) := by
  unfold ratchets at decided
  cases moved : favourableMove trail.side reference price with
  | error cause =>
      simp only [moved] at decided
      cases decided
  | ok move =>
      cases found : trail.offset.leastMove price with
      | error cause =>
          simp only [moved, found] at decided
          cases decided
      | ok least =>
          simp only [moved, found] at decided
          exact ⟨move, least, rfl, rfl, (Except.ok.inj decided).symm⟩

/-- A price that lifts the reference is better than it. -/
theorem gain_pos_of_ratchets (offsetPositive : 0 < trail.offset.size.value)
    (referencePositive : 0 < reference.value) (pricePositive : 0 < price.value)
    (lifts : trail.ratchets reference price = .ok true) :
    0 < trail.side.gain reference.value price.value := by
  obtain ⟨move, least, moved, found, ahead⟩ := ratchets_eq_ok lifts
  have leastNonneg := TrailOffset.leastMove_nonneg offsetPositive pricePositive found
  have movePositive : 0 < move.value :=
    leastNonneg.trans_lt (Decimal.value_lt_iff.mp (of_decide_eq_true ahead.symm))
  obtain ⟨gain, gainRounds, -, moveRounds⟩ := favourableMove_rounds moved
  -- Neither rounding makes something positive of what is not.
  by_contra behind
  have gainNonpos := gainRounds.nonpos (not_lt.mp behind)
  have moveNonpos := moveRounds.nonpos
    (div_nonpos_of_nonpos_of_nonneg gainNonpos referencePositive.le)
  linarith

/-- A price that lifts the reference is no worse than it. -/
theorem keepsUp_of_ratchets (offsetPositive : 0 < trail.offset.size.value)
    (referencePositive : 0 < reference.value) (pricePositive : 0 < price.value)
    (lifts : trail.ratchets reference price = .ok true) :
    trail.side.keepsUp reference price :=
  Side.keepsUp_iff.mpr
    (gain_pos_of_ratchets offsetPositive referencePositive pricePositive lifts).le

theorem applyStop_reference (trail : Trail) (reference price : Decimal) (ratcheted : Bool) :
    (trail.applyStop reference price ratcheted).1.reference = trail.reference ∧
      (trail.applyStop reference price ratcheted).1.offset = trail.offset := by
  unfold applyStop
  split
  · exact ⟨rfl, rfl⟩
  · dsimp only
    split
    · exact ⟨rfl, rfl⟩
    · split <;> exact ⟨rfl, rfl⟩

theorem warmUp_reference (trail : Trail) (price : Decimal) :
    (trail.warmUp price).1.reference = some price ∧
      (trail.warmUp price).1.offset = trail.offset := by
  unfold warmUp
  dsimp only
  split <;> exact ⟨rfl, rfl⟩

theorem feed_offset (trail : Trail) (price : Decimal) :
    (trail.feed price).1.offset = trail.offset := by
  unfold feed
  split
  · rfl
  · split
    · exact (warmUp_reference trail price).2
    · split
      · rfl
      · exact (applyStop_reference _ _ _ _).2
      · exact (applyStop_reference _ _ _ _).2

/-- The first price becomes the reference, also if no stop follows from it. -/
theorem feed_reference_of_unset (waiting : trail.triggered = false)
    (unset : trail.reference = none) : (trail.feed price).1.reference = some price := by
  have armed : ¬trail.triggered = true := by simp [waiting]
  unfold feed
  rw [if_neg armed, unset]
  exact (warmUp_reference trail price).1

/-- A later price becomes the reference only if it lifts it. -/
theorem feed_reference_of_set (set : trail.reference = some reference) (price : Decimal) :
    (trail.feed price).1.reference = some reference ∨
      (trail.ratchets reference price = .ok true ∧
        (trail.feed price).1.reference = some price) := by
  unfold feed
  split
  · exact .inl set
  · rw [set]
    dsimp only
    split
    · exact .inl set
    · rename_i lifts
      exact .inr ⟨lifts, (applyStop_reference _ _ _ _).1⟩
    · exact .inl ((applyStop_reference _ _ _ _).1.trans set)

end Trail

/-! ## A run of prices -/

/-- What a trail keeps whatever prices it sees: its side, its offset, and a reference from among
the prices so far. -/
structure Anchored (trail : Trail) (side : Side) (offset : TrailOffset) (seen : List Decimal) :
    Prop where
  side_eq : trail.side = side
  offset_eq : trail.offset = offset
  reference : (seen = [] ∧ trail.triggered = false ∧ trail.reference = none) ∨
    ∃ reference ∈ seen, trail.reference = some reference

section Run

variable {trail : Trail} {side : Side} {offset : TrailOffset} {seen : List Decimal}

theorem Anchored.create (now : Instant) (id symbol : String) (side : Side) (offset : TrailOffset)
    (quantity : Decimal) (linkedOrder : Option OrderId) :
    Anchored (.create now id symbol side offset quantity linkedOrder) side offset [] where
  side_eq := rfl
  offset_eq := by cases offset <;> rfl
  reference := .inl ⟨rfl, rfl, rfl⟩

theorem Anchored.feed (anchored : Anchored trail side offset seen) (price : Decimal) :
    Anchored (trail.feed price).1 side offset (seen ++ [price]) where
  side_eq := by
    have terms := congrArg TrailTerms.side (trail.feed_terms price)
    exact terms.trans anchored.side_eq
  offset_eq := (trail.feed_offset price).trans anchored.offset_eq
  reference := by
    right
    rcases anchored.reference with ⟨rfl, waiting, unset⟩ | ⟨reference, member, set⟩
    · exact ⟨price, by simp, Trail.feed_reference_of_unset waiting unset⟩
    · rcases Trail.feed_reference_of_set set price with kept | ⟨-, moved⟩
      · exact ⟨reference, List.mem_append_left _ member, kept⟩
      · exact ⟨price, by simp, moved⟩

theorem Anchored.after (anchored : Anchored trail side offset seen) (prices : List Decimal) :
    Anchored (trail.after prices) side offset (seen ++ prices) := by
  induction prices using List.reverseRecOn with
  | nil => simpa [Trail.after] using anchored
  | append_singleton earlier price inductionHypothesis =>
      rw [Trail.after_append_singleton, ← List.append_assoc]
      exact inductionHypothesis.feed price

theorem Anchored.mem_seen (anchored : Anchored trail side offset seen) {reference : Decimal}
    (set : trail.reference = some reference) : reference ∈ seen := by
  rcases anchored.reference with ⟨-, -, unset⟩ | ⟨other, member, same⟩
  · rw [unset] at set
    cases set
  · obtain rfl := Option.some.inj (same.symm.trans set)
    exact member

/-- A reference stays or gives way to one that is no worse, whatever else fails. -/
theorem Anchored.keepsUp (anchored : Anchored trail side offset seen)
    (offsetPositive : 0 < offset.size.value) {prices : List Decimal}
    (positive : ∀ price ∈ seen ++ prices, 0 < price.value) {reference : Decimal}
    (set : trail.reference = some reference) :
    ∃ next, (trail.after prices).reference = some next ∧ side.keepsUp reference next := by
  induction prices using List.reverseRecOn with
  | nil => exact ⟨reference, set, side.keepsUp_refl reference⟩
  | append_singleton earlier price inductionHypothesis =>
      rw [← List.append_assoc] at positive
      have earlierPositive : ∀ other ∈ seen ++ earlier, 0 < other.value :=
        fun other member => positive other (List.mem_append_left _ member)
      have pricePositive : 0 < price.value := positive price (by simp)
      obtain ⟨current, held, ahead⟩ := inductionHypothesis earlierPositive
      have before := anchored.after earlier
      rw [Trail.after_append_singleton]
      rcases Trail.feed_reference_of_set held price with kept | ⟨lifts, moved⟩
      · exact ⟨current, kept, ahead⟩
      · refine ⟨price, moved, Side.keepsUp_trans ahead ?_⟩
        have step := Trail.keepsUp_of_ratchets (before.offset_eq.symm ▸ offsetPositive)
          (earlierPositive current (before.mem_seen held)) pricePositive lifts
        rwa [before.side_eq] at step

end Run

/-! ## One trigger -/

/-- Whether a reaction is a trigger. -/
def isTrigger : Except ArithmeticError TrailReaction → Bool
  | .ok (.triggered _) => true
  | _ => false

theorem isTrigger_iff {reaction : Except ArithmeticError TrailReaction} :
    isTrigger reaction = true ↔ ∃ stop, reaction = .ok (.triggered stop) := by
  constructor
  · intro fires
    rcases reaction with cause | reaction
    · cases fires
    · cases reaction with
      | triggered stop => exact ⟨stop, rfl⟩
      | _ => cases fires
  · rintro ⟨stop, rfl⟩
    rfl

namespace Trail

variable {trail : Trail}

/-- A trail that has triggered stays as it is and ignores every price. -/
theorem after_of_triggered (fired : trail.triggered = true) (prices : List Decimal) :
    trail.after prices = trail ∧
      trail.reactions prices = List.replicate prices.length (.ok .spent) := by
  induction prices with
  | nil => exact ⟨rfl, rfl⟩
  | cons price rest inductionHypothesis =>
      obtain ⟨same, spent⟩ := inductionHypothesis
      unfold after at same ⊢
      rw [List.foldl_cons, reactions, feed_of_triggered fired, spent]
      exact ⟨same, rfl⟩

theorem triggered_of_isTrigger {price : Decimal} (fires : isTrigger (trail.feed price).2 = true) :
    (trail.feed price).1.triggered = true := by
  obtain ⟨stop, reaction⟩ := isTrigger_iff.mp fires
  exact (feed_triggered (Prod.ext rfl reaction)).2

theorem countP_isTrigger_le (trail : Trail) (prices : List Decimal) :
    (trail.reactions prices).countP isTrigger ≤ 1 := by
  induction prices generalizing trail with
  | nil => exact Nat.zero_le 1
  | cons price rest inductionHypothesis =>
      rw [reactions, List.countP_cons]
      by_cases fires : isTrigger (trail.feed price).2 = true
      · -- After the trigger every reaction is spent.
        have spent := (after_of_triggered (triggered_of_isTrigger fires) rest).2
        have silent : isTrigger (.ok .spent) = false := rfl
        rw [spent, List.countP_replicate, if_pos fires, silent]
        simp
      · simpa [fires] using inductionHypothesis (trail.feed price).1

theorem triggered_of_mem {prices : List Decimal} {stop : Decimal}
    (reported : .ok (.triggered stop) ∈ trail.reactions prices) :
    (trail.after prices).triggered = true := by
  induction prices generalizing trail with
  | nil => cases reported
  | cons price rest inductionHypothesis =>
      rcases List.mem_cons.mp reported with now | later
      · have fired := triggered_of_isTrigger (isTrigger_iff.mpr ⟨stop, now.symm⟩)
        have same := (after_of_triggered fired rest).1
        show ((trail.feed price).1.after rest).triggered = true
        rw [same]
        exact fired
      · exact inductionHypothesis later

end Trail

/-! ## Main statement -/

/-- A trail of an offset that is accepted, with positive prices of any size, some of which may
break the arithmetic: once a price was seen the reference is one of the prices seen, and it never
goes back against the position; the first price never triggers the trail; at most one price does,
and after it the trail stays as it is and every price is spent. -/
theorem reference_never_retreats (now : Instant) (id symbol : String) (side : Side)
    (quantity : Decimal) (linkedOrder : Option OrderId) {percent absolute : Option Decimal}
    {offset : TrailOffset} (accepted : TrailOffset.ofParameters percent absolute = .ok offset)
    (seen later : List Decimal) (positive : ∀ price ∈ seen ++ later, Decimal.zero < price) :
    let trail := Trail.create now id symbol side offset quantity linkedOrder
    (seen ≠ [] → ∃ reference ∈ seen, (trail.after seen).reference = some reference ∧
        ∃ next, (trail.after (seen ++ later)).reference = some next ∧
          side.keepsUp reference next) ∧
      (∀ stop, (trail.reactions seen).head? ≠ some (.ok (.triggered stop))) ∧
      (trail.reactions seen).countP isTrigger ≤ 1 ∧
      ∀ stop, .ok (.triggered stop) ∈ trail.reactions seen →
        trail.after (seen ++ later) = trail.after seen ∧
          trail.reactions (seen ++ later) =
            trail.reactions seen ++ List.replicate later.length (.ok .spent) := by
  intro trail
  have fresh : Anchored trail side offset [] :=
    .create now id symbol side offset quantity linkedOrder
  have anchored : Anchored (trail.after seen) side offset seen := fresh.after seen
  refine ⟨fun nonempty => ?_, fun stop => ?_, trail.countP_isTrigger_le seen,
    fun stop reported => ?_⟩
  · obtain ⟨empty, -⟩ | ⟨reference, member, set⟩ := anchored.reference
    · exact absurd empty nonempty
    · have values : ∀ price ∈ seen ++ later, 0 < price.value :=
        fun price member => Decimal.zero_lt_iff.mp (positive price member)
      rw [Trail.after_append]
      exact ⟨reference, member, set,
        anchored.keepsUp (TrailOffset.size_pos accepted) values set⟩
  · cases seen with
    | nil => simp [Trail.reactions]
    | cons price rest =>
        intro first
        have warmed : (trail.warmUp price).2 = .ok (.triggered stop) := Option.some.inj first
        exact Trail.warmUp_not_triggered (Prod.ext rfl warmed)
  · have fired := Trail.triggered_of_mem reported
    obtain ⟨same, spent⟩ := Trail.after_of_triggered fired later
    rw [Trail.after_append, Trail.reactions_append, same, spent]
    exact ⟨rfl, rfl⟩

/-- A short trail of a half whose first price is the largest decimal: the stop above it overflows,
yet that price is the reference.  The next price lifts it, the third one triggers the trail, and
the last one is spent. -/
theorem short_trail_outlives_overflow :
    let half : Decimal := ⟨false, 5, 1, by decide, by decide⟩
    let most : Decimal := ⟨false, 79228162514264337593543950335, 0, by decide, by decide⟩
    let hundred : Decimal := ⟨false, 100, 0, by decide, by decide⟩
    let twoHundred : Decimal := ⟨false, 200, 0, by decide, by decide⟩
    let stop : Decimal := ⟨false, 1500, 1, by decide, by decide⟩
    let seen := [most, hundred, twoHundred]
    let trail := Trail.create ⟨0, 0⟩ "trail" "BTC.PAPER" .sell (.percent half) .one none
    TrailOffset.ofParameters (some half) none = .ok (.percent half) ∧
      (∀ price ∈ seen ++ [half], Decimal.zero < price) ∧
      trail.reactions seen = [.error .multiplicationOverflow, .ok (.ratcheted hundred stop),
        .ok (.triggered stop)] ∧
      (trail.after [most]).reference = some most ∧
      (∃ next, (trail.after seen).reference = some next ∧ Side.sell.keepsUp most next) ∧
      trail.after (seen ++ [half]) = trail.after seen ∧
      trail.reactions (seen ++ [half]) = trail.reactions seen ++ [.ok .spent] := by
  intro half most hundred twoHundred stop seen trail
  have accepted : TrailOffset.ofParameters (some half) none = .ok (.percent half) := by
    decide +kernel
  have positive : ∀ price ∈ seen ++ [half], Decimal.zero < price := by decide
  have reactions : trail.reactions seen = [.error .multiplicationOverflow,
      .ok (.ratcheted hundred stop), .ok (.triggered stop)] := by decide +kernel
  have first : (trail.after [most]).reference = some most := by decide +kernel
  have moves := (reference_never_retreats ⟨0, 0⟩ "trail" "BTC.PAPER" .sell .one none accepted
    [most] [hundred, twoHundred]
    (fun price member => positive price (List.mem_append_left _ member))).1
  obtain ⟨reference, member, -, ahead⟩ := moves (by simp)
  obtain rfl := List.mem_singleton.mp member
  have ends := (reference_never_retreats ⟨0, 0⟩ "trail" "BTC.PAPER" .sell .one none accepted
    seen [half] positive).2.2.2 stop (by rw [reactions]; simp)
  exact ⟨accepted, positive, reactions, first, ahead, ends.1, ends.2⟩

end OrderKeeper
