import OrderKeeper.Proofs.Reconcile.Writes

/-!
Contract: the ledger after one listing, id by id.

Owns: one listing as a round of closes and a round of writes, the missing orders as
exactly those that are closed, and the fate of every other order.

Does not own: what the listing brings in.
-/

set_option autoImplicit false

namespace OrderKeeper

/-- The ledger once the missing orders of a listing are closed. -/
def Ledger.afterCloses (ledger : Ledger) (policy : AbsencePolicy) (now : Instant) (venue : String)
    (rows : List ListedOrder) : Ledger :=
  (closeMissing policy now (ledger.orders.filter fun order => order.IsMissing venue rows) ledger).1

theorem Ledger.afterCloses_orders (ledger : Ledger) (policy : AbsencePolicy) (now : Instant)
    (venue : String) (rows : List ListedOrder) :
    (ledger.afterCloses policy now venue rows).orders =
      ledger.orders.map (Order.settled policy now venue rows) :=
  closeMissing_orders policy now venue rows ledger

theorem Ledger.get?_afterCloses (ledger : Ledger) (policy : AbsencePolicy) (now : Instant)
    (venue : String) (rows : List ListedOrder) (id : OrderId) :
    (ledger.afterCloses policy now venue rows).get? id =
      (ledger.get? id).map (Order.settled policy now venue rows) :=
  get?_of_map (ledger.afterCloses_orders policy now venue rows)
    (Order.settled_id policy now venue rows) id

/-- A listing closes the missing orders and then writes the orders of the unknown rows. -/
theorem alignWithListing_eq (policy : AbsencePolicy) (now : Instant) (venue : String)
    (rows : List ListedOrder) (ledger : Ledger) :
    ∃ taken, taken.Perm (ledger.unknownRows venue rows) ∧
      alignWithListing policy now venue rows ledger =
        (((ledger.afterCloses policy now venue rows).writeAll now (takenOver now venue taken)).1,
          { imported :=
              ((ledger.afterCloses policy now venue rows).writeAll now (takenOver now venue taken)).2
            closed :=
              (closeMissing policy now
                (ledger.orders.filter fun order => order.IsMissing venue rows) ledger).2
            malformed := countWithoutId rows + (refusedRows now venue taken).length }) := by
  refine ⟨_, ledger.filter_unclaimed_perm venue rows, ?_⟩
  unfold alignWithListing
  dsimp only
  rw [Ledger.filter_claimsNothing, importAll_eq]
  rfl

/-- A listing counts the missing orders, if the policy closes them. -/
theorem alignWithListing_closed (policy : AbsencePolicy) (now : Instant) (venue : String)
    (rows : List ListedOrder) (ledger : Ledger) :
    (alignWithListing policy now venue rows ledger).2.closed =
      if policy.closingStatus?.isSome then
        (ledger.orders.filter fun order => order.IsMissing venue rows).length
      else 0 := by
  obtain ⟨taken, -, aligned⟩ := alignWithListing_eq policy now venue rows ledger
  rw [aligned]
  exact closeMissing_count policy now venue rows ledger

/-- What the rows of a listing bring in does not depend on their order. -/
theorem takenOver_perm (now : Instant) (venue : String) {first second : List ListedOrder}
    (same : first.Perm second) :
    (takenOver now venue first).Perm (takenOver now venue second) :=
  same.filterMap _

theorem unknownRows_ids_nodup (ledger : Ledger) (venue : String) (rows : List ListedOrder) :
    ((ledger.unknownRows venue rows).map ListedOrder.orderId).Nodup :=
  (lastRows_ids_nodup rows).sublist (List.filter_sublist.map ListedOrder.orderId)

/-- Under each id lies what lay there, settled, unless an unknown row is taken over under it. -/
theorem get?_alignWithListing (policy : AbsencePolicy) (now : Instant) (venue : String)
    (rows : List ListedOrder) (ledger : Ledger) (id : OrderId) :
    (alignWithListing policy now venue rows ledger).1.get? id =
      (((takenOver now venue (ledger.unknownRows venue rows)).find? fun order => order.id = id).map
        fun order =>
          order.writtenOver now
            ((ledger.get? id).map (Order.settled policy now venue rows))).or
        ((ledger.get? id).map (Order.settled policy now venue rows)) := by
  obtain ⟨taken, takenPerm, aligned⟩ := alignWithListing_eq policy now venue rows ledger
  have perm := takenOver_perm now venue takenPerm
  have distinct : ((takenOver now venue (ledger.unknownRows venue rows)).map Order.id).Nodup :=
    takenOver_ids_nodup now venue (unknownRows_ids_nodup ledger venue rows)
  have takenDistinct : ((takenOver now venue taken).map Order.id).Nodup :=
    (perm.map Order.id).nodup_iff.mpr distinct
  rw [aligned, Ledger.get?_writeAll takenDistinct, Ledger.get?_afterCloses,
    Keyed.find?_perm distinct perm]

/-- An order under whose id nothing is taken over is settled. -/
theorem get?_of_untaken {ledger : Ledger} {venue : String} {rows : List ListedOrder} {now : Instant}
    {id : OrderId}
    (untaken : ∀ taken ∈ takenOver now venue (ledger.unknownRows venue rows), taken.id ≠ id)
    (policy : AbsencePolicy) :
    (alignWithListing policy now venue rows ledger).1.get? id =
      (ledger.get? id).map (Order.settled policy now venue rows) := by
  have noneTaken : ((takenOver now venue (ledger.unknownRows venue rows)).find? fun taken =>
      taken.id = id) = none := by
    rw [List.find?_eq_none]
    intro taken member sameId
    exact untaken taken member (of_decide_eq_true sameId)
  rw [get?_alignWithListing, noneTaken]
  rfl

/-- No row is taken over whose id an order on the venue carries. -/
theorem get?_of_carried_id {ledger : Ledger} {venue id : String}
    (carried : ledger.Carries venue id) (policy : AbsencePolicy) (now : Instant)
    (rows : List ListedOrder) :
    (alignWithListing policy now venue rows ledger).1.get? (.imported venue id) =
      (ledger.get? (.imported venue id)).map (Order.settled policy now venue rows) := by
  apply get?_of_untaken
  intro taken member sameId
  obtain ⟨_, -, own, -, isFrom, notCarried⟩ := row_of_taken member
  have sameImport := isFrom.order_id.symm.trans sameId
  rw [OrderId.imported_inj.mp sameImport] at notCarried
  exact notCarried carried

/-- A listing closes the missing orders, as many as it counts, and leaves every order as it was
otherwise.  Only an unknown row that is taken over replaces what lay under its imported id,
missing or not, and even that only within the rule of final statuses.  An order whose venue
order id is listed is not missing, whatever its row looks like. -/
theorem alignWithListing_closes_missing (policy : AbsencePolicy) (now : Instant) (venue : String)
    (rows : List ListedOrder) (ledger : Ledger) :
    let after := alignWithListing policy now venue rows ledger
    let taken := takenOver now venue (ledger.unknownRows venue rows)
    let settled := Order.settled policy now venue rows
    (after.2.closed =
      if policy.closingStatus?.isSome then
        (ledger.orders.filter fun order => order.IsMissing venue rows).length
      else 0) ∧
    (∀ id, (∀ imported ∈ taken, imported.id ≠ id) →
      after.1.get? id = (ledger.get? id).map settled) ∧
    (∀ imported ∈ taken,
      after.1.get? imported.id =
        some (imported.writtenOver now ((ledger.get? imported.id).map settled))) ∧
    ∀ order ∈ ledger.orders, ∀ row ∈ rows, row.orderId ≠ none →
      row.orderId = order.venueOrderId → settled order = order := by
  intro after taken settled
  refine ⟨?_, ?_, ?_, ?_⟩
  · obtain ⟨_, -, aligned⟩ := alignWithListing_eq policy now venue rows ledger
    show (alignWithListing policy now venue rows ledger).2.closed = _
    rw [aligned]
    exact closeMissing_count policy now venue rows ledger
  · intro id untouched
    have noneTaken : (taken.find? fun order => order.id = id) = none := by
      rw [List.find?_eq_none]
      intro imported member sameId
      exact untouched imported member (of_decide_eq_true sameId)
    have lookup := get?_alignWithListing policy now venue rows ledger id
    rw [noneTaken] at lookup
    exact lookup
  · intro imported member
    have distinct : (taken.map Order.id).Nodup :=
      takenOver_ids_nodup now venue (unknownRows_ids_nodup ledger venue rows)
    have found : (taken.find? fun order => order.id = imported.id) = some imported :=
      (Keyed.find?_eq_some_iff distinct imported.id imported).mpr ⟨member, rfl⟩
    have lookup := get?_alignWithListing policy now venue rows ledger imported.id
    rw [found] at lookup
    exact lookup
  · intro order _ row member hasId sameId
    apply Order.settled_of_not_missing
    obtain ⟨id, rowId⟩ := Option.ne_none_iff_exists'.mp hasId
    exact Order.not_missing_of_listed member rowId (sameId.symm.trans rowId) venue

/-- An order that is missing does not always keep its other fields: under an id of an imported
order it is closed, and then replaced by the row of that id. -/
theorem missing_order_replaced :
    let order := { Order.create ⟨0, 0⟩ (.imported "PAPER" "x1") "key" "BTC.PAPER" .buy .limit .one
      with venueOrderId := some "gone" }
    let row : ListedOrder := { (default : ListedOrder) with
      orderId := some "x1", symbol := some "ETH", side := some "BUY", status := some "FILLED" }
    let before := (Ledger.empty.write ⟨0, 0⟩ order).1
    let after := alignWithListing .assumeFilled ⟨1, 0⟩ "PAPER" [row] before
    before.get? order.id = some order ∧ order.IsMissing "PAPER" [row] ∧ after.2.closed = 1 ∧
      ∃ kept, after.1.get? order.id = some kept ∧ kept.status = .filled ∧
        kept.symbol ≠ order.symbol ∧ kept.venueOrderId ≠ order.venueOrderId := by
  decide

end OrderKeeper
