import OrderKeeper.Proofs.Reconcile.Growth

/-!
Contract: a listing that was applied has nothing left to do.

Owns: the ledgers that a listing leaves as they are, the proof that every listing leads to
one, and the independence of all this from orders on other venues.

Does not own: passes over several venues.
-/

set_option autoImplicit false

namespace OrderKeeper

namespace Ledger

/-- A listing closes nothing in the ledger and can import nothing into it. -/
structure AlignedWith (policy : AbsencePolicy) (venue : String) (rows : List ListedOrder)
    (ledger : Ledger) : Prop where
  none_missing : policy.closingStatus? ≠ none →
    ∀ order ∈ ledger.orders, ¬order.IsMissing venue rows
  none_importable : ∀ now, takenOver now venue (ledger.unknownRows venue rows) = []

end Ledger

section Listing

variable {policy : AbsencePolicy} {venue : String} {rows : List ListedOrder} {ledger : Ledger}

/-- Rows of which none is taken over are all refused. -/
theorem refusedRows_of_none_taken {now : Instant} (noneTaken : takenOver now venue rows = []) :
    refusedRows now venue rows = rows := by
  unfold refusedRows
  rw [List.filter_eq_self]
  intro row member
  have isNone : (importedOrder now venue row).toOption = none :=
    List.filterMap_eq_nil_iff.mp noneTaken row member
  rw [isNone]
  rfl

/-- An aligned ledger stays as it is, whenever the listing comes again. -/
theorem alignWithListing_of_aligned (aligned : ledger.AlignedWith policy venue rows) (now : Instant) :
    alignWithListing policy now venue rows ledger =
      (ledger, { imported := 0
                 closed := 0
                 malformed := countWithoutId rows + (ledger.unknownRows venue rows).length }) := by
  obtain ⟨taken, perm, rounds⟩ := alignWithListing_eq policy now venue rows ledger
  have noneTaken : takenOver now venue taken = [] := by
    have sameOrders := takenOver_perm now venue perm
    rw [aligned.none_importable now] at sameOrders
    exact sameOrders.eq_nil
  have closesNothing : ledger.afterCloses policy now venue rows = ledger := by
    apply Ledger.eq_of_orders
    rw [Ledger.afterCloses_orders]
    refine (List.map_congr_left fun order member => ?_).trans (List.map_id ledger.orders)
    cases closes : policy.closingStatus? with
    | none =>
        rw [Order.settled, closes]
        rfl
    | some status =>
        apply Order.settled_of_not_missing
        exact aligned.none_missing (closes ▸ Option.some_ne_none status) order member
  have countsNothing : (closeMissing policy now
      (ledger.orders.filter fun order => order.IsMissing venue rows) ledger).2 = 0 := by
    rw [closeMissing_count]
    cases closes : policy.closingStatus? with
    | none => rfl
    | some status =>
        have noneMissing := aligned.none_missing (closes ▸ Option.some_ne_none status)
        rw [Option.isSome_some, if_pos rfl, List.length_eq_zero_iff, List.filter_eq_nil_iff]
        intro order member missing
        exact noneMissing order member (of_decide_eq_true missing)
  rw [rounds, noneTaken, closesNothing, countsNothing, refusedRows_of_none_taken noneTaken,
    perm.length_eq]
  rfl

/-- An order that is open after the closes of a listing is as it was, and not missing if the
policy closes at all. -/
theorem Order.settled_of_open {now : Instant} {order : Order}
    (isOpen : (order.settled policy now venue rows).isOpen = true) :
    order.settled policy now venue rows = order ∧
      (policy.closingStatus? ≠ none → ¬order.IsMissing venue rows) := by
  cases closes : policy.closingStatus? with
  | none =>
      refine ⟨?_, fun closesSome => absurd rfl closesSome⟩
      rw [Order.settled, closes]
  | some status =>
      have present : ¬order.IsMissing venue rows := by
        intro missing
        have final := AbsencePolicy.closingStatus?_final closes
        rw [Order.settled, closes] at isOpen
        dsimp only at isOpen
        rw [if_pos missing] at isOpen
        have statusOpen : status.isOpen = true := isOpen
        rw [Status.isFinal, statusOpen] at final
        cases final
      exact ⟨Order.settled_of_not_missing policy now present, fun _ => present⟩

/-- After a listing no order that it closes is left. -/
theorem missing_after_listing (importsKept : ledger.ImportsKept venue) (now : Instant)
    (closes : policy.closingStatus? ≠ none) :
    ∀ order ∈ (alignWithListing policy now venue rows ledger).1.orders,
      ¬order.IsMissing venue rows := by
  obtain ⟨perm, orders, -, -⟩ := alignWithListing_orders importsKept policy now rows
  rw [orders]
  intro order member missing
  rcases List.mem_append.mp member with old | new
  · obtain ⟨before, _, rfl⟩ := List.mem_map.mp old
    obtain ⟨same, present⟩ := Order.settled_of_open missing.1
    rw [same] at missing
    exact present closes missing
  · obtain ⟨row, counts, id, -, isFrom, -⟩ := row_of_taken (perm.mem_iff.mp new)
    exact Order.not_missing_of_listed (mem_of_mem_lastRows counts) isFrom.row_id
      isFrom.venue_order_id venue missing

/-- The rows that are held back are the same after a listing. -/
theorem holdsBack_after_listing (importsKept : ledger.ImportsKept venue) (now : Instant)
    (id : String) :
    (alignWithListing policy now venue rows ledger).1.HoldsBack venue rows id ↔
      ledger.HoldsBack venue rows id := by
  obtain ⟨perm, orders, -, -⟩ := alignWithListing_orders importsKept policy now rows
  constructor
  · rintro ⟨order, member, isOpen, holds⟩
    obtain ⟨stored, here⟩ := (Ledger.mem_onVenue _ venue order).mp member
    rw [orders] at stored
    rcases List.mem_append.mp stored with old | new
    · obtain ⟨before, beforeStored, rfl⟩ := List.mem_map.mp old
      obtain ⟨same, -⟩ := Order.settled_of_open isOpen
      rw [same] at here isOpen holds
      exact ⟨before, (ledger.mem_onVenue venue before).mpr ⟨beforeStored, here⟩, isOpen, holds⟩
    · obtain ⟨row, -, ownId, -, isFrom, -⟩ := row_of_taken (perm.mem_iff.mp new)
      have hasId := isFrom.venue_order_id
      rw [holds.1] at hasId
      cases hasId
  · rintro ⟨order, member, isOpen, holds⟩
    exact ⟨order, holder_kept importsKept policy now member holds, isOpen, holds⟩

/-- After a listing a row is unknown only if it was so before and is refused. -/
theorem isUnknown_after_listing (named : Symbol.IsVenueName venue)
    (importsKept : ledger.ImportsKept venue) (now : Instant) {row : ListedOrder}
    (counts : row ∈ lastRows rows) :
    (alignWithListing policy now venue rows ledger).1.IsUnknown venue rows row ↔
      ledger.IsUnknown venue rows row ∧ ∃ cause, importedOrder now venue row = .error cause := by
  have grows := Ledger.GrowsBy.of_listing named importsKept policy now rows
  obtain ⟨perm, -, -, -⟩ := alignWithListing_orders importsKept policy now rows
  constructor
  · intro unknownAfter
    have unknown : ledger.IsUnknown venue rows row := by
      intro id rowId
      obtain ⟨notCarried, notHeld⟩ := unknownAfter id rowId
      refine ⟨fun carried => ?_, fun held => ?_⟩
      · exact notCarried ((grows.carries_iff id).mpr (Or.inl carried))
      · exact notHeld ((holdsBack_after_listing importsKept now id).mpr held)
    refine ⟨unknown, ?_⟩
    cases imported : importedOrder now venue row with
    | error cause => exact ⟨cause, rfl⟩
    | ok order =>
        obtain ⟨⟨id, isFrom⟩, -⟩ := importedOrder_ok imported
        have arrived := perm.mem_iff.mpr ((mem_takenOver now venue _ order).mpr
          ⟨row, (ledger.mem_unknownRows venue rows row).mpr ⟨counts, unknown⟩, imported⟩)
        have carried := (grows.carries_iff id).mpr (Or.inr ⟨order, arrived, isFrom.venue_order_id⟩)
        exact absurd carried (unknownAfter id isFrom.row_id).1
  · rintro ⟨unknown, cause, refused⟩ id rowId
    obtain ⟨notCarried, notHeld⟩ := unknown id rowId
    refine ⟨fun carried => ?_, fun held => ?_⟩
    · rcases (grows.carries_iff id).mp carried with before | ⟨order, arrived, ownId⟩
      · exact notCarried before
      · obtain ⟨other, otherCounts, otherId, taken, isFrom, -⟩ :=
          row_of_taken (perm.mem_iff.mp arrived)
        have sameId : otherId = id := Option.some.inj (isFrom.venue_order_id.symm.trans ownId)
        have sameRow : other = row := eq_of_same_orderId otherCounts counts
          (isFrom.row_id.trans (sameId ▸ rowId.symm))
        rw [sameRow, refused] at taken
        cases taken
    · exact notHeld ((holdsBack_after_listing importsKept now id).mp held)

/-- After a listing the rows still unknown are those that it refused. -/
theorem unknownRows_after_listing (named : Symbol.IsVenueName venue)
    (importsKept : ledger.ImportsKept venue) (now : Instant) :
    (alignWithListing policy now venue rows ledger).1.unknownRows venue rows =
      refusedRows now venue (ledger.unknownRows venue rows) := by
  unfold refusedRows Ledger.unknownRows
  rw [List.filter_filter]
  refine List.filter_congr fun row counts => ?_
  rw [Bool.eq_iff_iff, Bool.and_eq_true, decide_eq_true_iff, decide_eq_true_iff,
    isUnknown_after_listing named importsKept now counts, and_comm]
  refine and_congr_left fun _ => ?_
  cases importedOrder now venue row with
  | error _ => simp [Except.toOption]
  | ok order => simp [Except.toOption]

/-- After a listing nothing is left for it to do. -/
theorem aligned_after_listing (named : Symbol.IsVenueName venue)
    (importsKept : ledger.ImportsKept venue) (now : Instant) :
    (alignWithListing policy now venue rows ledger).1.AlignedWith policy venue rows := by
  refine ⟨fun closes => missing_after_listing importsKept now closes, fun later => ?_⟩
  rw [unknownRows_after_listing named importsKept, ← refusedRows_at now later, takenOver,
    List.filterMap_eq_nil_iff]
  intro row member
  obtain ⟨-, cause, refused⟩ := (mem_refusedRows later venue _ row).mp member
  rw [refused]
  rfl

/-! ## Other venues -/

/-- Which rows are unknown depends on the orders of the venue alone. -/
theorem unknownRows_congr {other : Ledger} (same : other.onVenue venue = ledger.onVenue venue) :
    other.unknownRows venue rows = ledger.unknownRows venue rows := by
  unfold Ledger.unknownRows
  refine List.filter_congr fun row _ => decide_eq_decide.mpr ?_
  unfold Ledger.IsUnknown Ledger.Carries Ledger.HoldsBack
  rw [same]

theorem Ledger.AlignedWith.congr {other : Ledger}
    (same : other.onVenue venue = ledger.onVenue venue)
    (aligned : ledger.AlignedWith policy venue rows) : other.AlignedWith policy venue rows := by
  refine ⟨fun closes order member missing => ?_, fun now => ?_⟩
  · have here : order ∈ other.onVenue venue :=
      (other.mem_onVenue venue order).mpr ⟨member, missing.2.1⟩
    rw [same] at here
    exact aligned.none_missing closes order ((ledger.mem_onVenue venue order).mp here).1 missing
  · rw [unknownRows_congr same]
    exact aligned.none_importable now

end Listing

end OrderKeeper
