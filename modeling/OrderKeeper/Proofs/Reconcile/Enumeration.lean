import OrderKeeper.Proofs.Reconcile.Alignment

/-!
Contract: a listing applied in any order.

Owns: the rows that count as all that a listing is read for, the counts of a listing as counts of
orders and rows, and the independence of the whole result from the order of the rows and from the
order in which the ledger enumerates its orders.

Does not own: passes over several venues.

Each order claims a row by itself, an order without a venue order id the one of least id.  So what is
claimed in the end is a set, and neither order shows in it.  Of several rows with one id the last
counts, which is why ids have to be distinct.
-/

set_option autoImplicit false

namespace OrderKeeper

/-! ## Ledgers with the same orders -/

namespace Ledger

theorem get?_of_perm {ledger other : Ledger} (same : other.orders.Perm ledger.orders)
    (id : OrderId) : other.get? id = ledger.get? id :=
  Keyed.find?_perm ledger.distinct_ids same id

/-- Ledgers that hold the same under each id enumerate the same orders. -/
theorem perm_of_get? {ledger other : Ledger} (same : ∀ id, other.get? id = ledger.get? id) :
    other.orders.Perm ledger.orders := by
  have stored : ∀ (kept : Ledger) (order : Order),
      order ∈ kept.orders ↔ kept.get? order.id = some order := by
    intro kept order
    rw [get?_eq_some_iff, and_iff_left rfl]
  rw [List.perm_ext_iff_of_nodup (List.Nodup.of_map Order.id other.distinct_ids)
    (List.Nodup.of_map Order.id ledger.distinct_ids)]
  intro order
  rw [stored, stored, same]

/-- Among orders of distinct ids those are counted that were not there at first. -/
theorem writeAll_count {now : Instant} {orders : List Order}
    (distinct : (orders.map Order.id).Nodup) (ledger : Ledger) :
    (ledger.writeAll now orders).2 =
      orders.countP fun order => (ledger.get? order.id).isNone := by
  induction orders generalizing ledger with
  | nil => rfl
  | cons first rest inductionHypothesis =>
      rw [List.map_cons, List.nodup_cons] at distinct
      have untouched : (rest.countP fun order => ((ledger.write now first).1.get? order.id).isNone) =
          rest.countP fun order => (ledger.get? order.id).isNone := by
        refine List.countP_congr fun order member => ?_
        have different : order.id ≠ first.id := by
          intro same
          exact distinct.1 (same ▸ List.mem_map_of_mem member)
        rw [get?_write, if_neg different]
      rw [writeAll]
      dsimp only
      rw [inductionHypothesis distinct.2, untouched, List.countP_cons, Nat.add_comm]
      cases stored : ledger.get? first.id with
      | none => rw [(write_of_absent now stored).2, if_pos rfl, Option.isNone_none, if_pos rfl]
      | some current =>
          have notInserted : (ledger.write now first).2 ≠ .inserted := by
            rw [write_of_stored now stored]
            split <;> exact WriteOutcome.noConfusion
          rw [if_neg notInserted, Option.isNone_some, if_neg Bool.false_ne_true]

end Ledger

/-! ## Rows that count -/

/-- If no id is repeated, exactly the rows that have one count. -/
theorem lastRows_eq_filter {rows : List ListedOrder}
    (distinct : (rows.filterMap ListedOrder.orderId).Nodup) :
    lastRows rows = rows.filter fun row => row.orderId.isSome := by
  induction rows with
  | nil => rfl
  | cons first rest inductionHypothesis =>
      cases hasId : first.orderId with
      | none =>
          rw [List.filterMap_cons_none hasId] at distinct
          rw [lastRows_of_no_id hasId, inductionHypothesis distinct,
            List.filter_cons_of_neg (by simp [hasId])]
      | some id =>
          rw [List.filterMap_cons_some hasId, List.nodup_cons] at distinct
          have isLast : ¬∃ later ∈ rest, later.orderId = some id := by
            rintro ⟨later, member, laterId⟩
            exact distinct.1 (List.mem_filterMap.mpr ⟨later, member, laterId⟩)
          rw [lastRows_of_last hasId isLast, inductionHypothesis distinct.2,
            List.filter_cons_of_pos (by simp [hasId])]

theorem lastRows_perm {rows otherRows : List ListedOrder} (same : otherRows.Perm rows)
    (distinct : (rows.filterMap ListedOrder.orderId).Nodup) :
    (lastRows otherRows).Perm (lastRows rows) := by
  have alsoDistinct : (otherRows.filterMap ListedOrder.orderId).Nodup :=
    (same.filterMap ListedOrder.orderId).nodup_iff.mpr distinct
  rw [lastRows_eq_filter distinct, lastRows_eq_filter alsoDistinct]
  exact same.filter _

theorem countWithoutId_perm {rows otherRows : List ListedOrder} (same : otherRows.Perm rows) :
    countWithoutId otherRows = countWithoutId rows :=
  (same.filter _).length_eq

theorem refusedRows_perm (now : Instant) (venue : String) {rows otherRows : List ListedOrder}
    (same : otherRows.Perm rows) :
    (refusedRows now venue otherRows).Perm (refusedRows now venue rows) :=
  same.filter _

/-- An id is listed exactly if a row that counts has it. -/
theorem listed_iff_lastRow (rows : List ListedOrder) (id : String) :
    (∃ row ∈ rows, row.orderId = some id) ↔ ∃ row ∈ lastRows rows, row.orderId = some id := by
  refine ⟨exists_lastRow, ?_⟩
  rintro ⟨row, counts, rowId⟩
  exact ⟨row, mem_of_mem_lastRows counts, rowId⟩

section Congruence

variable {ledger other : Ledger} {rows otherRows : List ListedOrder}

/-- Whether an order is listed depends on the rows that count. -/
theorem Order.isUnlisted_congr (sameRows : (lastRows otherRows).Perm (lastRows rows))
    (order : Order) : order.IsUnlisted otherRows ↔ order.IsUnlisted rows := by
  unfold IsUnlisted
  cases order.venueOrderId with
  | none =>
      refine forall_congr' fun row => ?_
      rw [sameRows.mem_iff]
  | some id =>
      have listed := listed_iff_lastRow otherRows id
      simp only [sameRows.mem_iff] at listed
      rw [← listed_iff_lastRow rows id] at listed
      simpa using not_congr listed

theorem Order.isMissing_congr (sameRows : (lastRows otherRows).Perm (lastRows rows))
    (venue : String) (order : Order) :
    order.IsMissing venue otherRows ↔ order.IsMissing venue rows := by
  unfold IsMissing
  rw [isUnlisted_congr sameRows]

theorem Order.settled_congr (sameRows : (lastRows otherRows).Perm (lastRows rows))
    (policy : AbsencePolicy) (now : Instant) (venue : String) :
    Order.settled policy now venue otherRows = Order.settled policy now venue rows := by
  funext order
  unfold settled
  split
  · exact if_congr (isMissing_congr sameRows venue order) rfl rfl
  · rfl

/-- Which row an order holds back depends on the rows that count. -/
theorem Order.holdsBack_congr (sameRows : (lastRows otherRows).Perm (lastRows rows))
    (order : Order) (id : String) : order.HoldsBack otherRows id ↔ order.HoldsBack rows id := by
  unfold HoldsBack
  simp only [sameRows.mem_iff]

/-- Which rows are unknown depends on the orders that there are and on the rows that count. -/
theorem Ledger.isUnknown_congr (sameRows : (lastRows otherRows).Perm (lastRows rows))
    (sameOrders : other.orders.Perm ledger.orders) (venue : String) (row : ListedOrder) :
    other.IsUnknown venue otherRows row ↔ ledger.IsUnknown venue rows row := by
  unfold IsUnknown Carries Ledger.HoldsBack
  simp only [mem_onVenue, sameOrders.mem_iff, Order.holdsBack_congr sameRows]

theorem unknownRows_perm (sameRows : (lastRows otherRows).Perm (lastRows rows))
    (sameOrders : other.orders.Perm ledger.orders) (venue : String) :
    (other.unknownRows venue otherRows).Perm (ledger.unknownRows venue rows) := by
  have sameTest : (lastRows otherRows).filter (fun row => other.IsUnknown venue otherRows row) =
      (lastRows otherRows).filter fun row => ledger.IsUnknown venue rows row :=
    List.filter_congr fun row _ =>
      decide_eq_decide.mpr (Ledger.isUnknown_congr sameRows sameOrders venue row)
  unfold Ledger.unknownRows
  rw [sameTest]
  exact sameRows.filter _

end Congruence

/-! ## Counts -/

section Counts

variable (policy : AbsencePolicy) (now : Instant) (venue : String) (rows : List ListedOrder)
  (ledger : Ledger)

/-- A listing counts as imported what it takes over under new ids. -/
theorem alignWithListing_imported :
    (alignWithListing policy now venue rows ledger).2.imported =
      (takenOver now venue (ledger.unknownRows venue rows)).countP
        fun order => (ledger.get? order.id).isNone := by
  obtain ⟨taken, takenPerm, aligned⟩ := alignWithListing_eq policy now venue rows ledger
  have perm := takenOver_perm now venue takenPerm
  have distinct : ((takenOver now venue taken).map Order.id).Nodup :=
    (perm.map Order.id).nodup_iff.mpr
      (takenOver_ids_nodup now venue (unknownRows_ids_nodup ledger venue rows))
  rw [aligned]
  dsimp only
  rw [Ledger.writeAll_count distinct, perm.countP_eq]
  simp only [Ledger.get?_afterCloses, Option.isNone_map]

/-- A listing counts as malformed the rows without an id and the unknown ones that are refused. -/
theorem alignWithListing_malformed :
    (alignWithListing policy now venue rows ledger).2.malformed =
      countWithoutId rows + (refusedRows now venue (ledger.unknownRows venue rows)).length := by
  obtain ⟨taken, takenPerm, aligned⟩ := alignWithListing_eq policy now venue rows ledger
  rw [aligned]
  exact congrArg (countWithoutId rows + ·) (refusedRows_perm now venue takenPerm).length_eq

end Counts

/-! ## Main statement -/

/-- The rows of a listing in any order, and a ledger that enumerates its orders in any order: the
same orders are there after the listing, equal in every field, and the counts are the same.  Rows
without an id may be among them in any number. -/
theorem alignWithListing_perm (policy : AbsencePolicy) (now : Instant) (venue : String)
    {rows otherRows : List ListedOrder} {ledger other : Ledger} (sameRows : otherRows.Perm rows)
    (sameOrders : other.orders.Perm ledger.orders)
    (distinct : (rows.filterMap ListedOrder.orderId).Nodup) :
    let after := alignWithListing policy now venue rows ledger
    let otherAfter := alignWithListing policy now venue otherRows other
    (∀ id, otherAfter.1.get? id = after.1.get? id) ∧
      otherAfter.1.orders.Perm after.1.orders ∧
      otherAfter.2 = after.2 := by
  intro after otherAfter
  -- Distinct ids are needed here only: the rows that count are the same in any order.
  have sameLast := lastRows_perm sameRows distinct
  have sameUnknown := unknownRows_perm sameLast sameOrders venue
  have sameTaken := takenOver_perm now venue sameUnknown
  have sameLookup : ∀ id, otherAfter.1.get? id = after.1.get? id := by
    intro id
    have takenDistinct : ((takenOver now venue (ledger.unknownRows venue rows)).map Order.id).Nodup :=
      takenOver_ids_nodup now venue (unknownRows_ids_nodup ledger venue rows)
    refine (get?_alignWithListing policy now venue otherRows other id).trans ?_
    rw [Keyed.find?_perm takenDistinct sameTaken, Ledger.get?_of_perm sameOrders,
      Order.settled_congr sameLast]
    exact (get?_alignWithListing policy now venue rows ledger id).symm
  refine ⟨sameLookup, Ledger.perm_of_get? sameLookup, ?_⟩
  have imported : otherAfter.2.imported = after.2.imported := by
    refine (alignWithListing_imported policy now venue otherRows other).trans ?_
    simp only [sameTaken.countP_eq, Ledger.get?_of_perm sameOrders]
    exact (alignWithListing_imported policy now venue rows ledger).symm
  have closed : otherAfter.2.closed = after.2.closed := by
    have sameMissing := sameOrders.filter fun order => order.IsMissing venue rows
    refine (alignWithListing_closed policy now venue otherRows other).trans ?_
    simp only [Order.isMissing_congr sameLast, sameMissing.length_eq]
    exact (alignWithListing_closed policy now venue rows ledger).symm
  have malformed : otherAfter.2.malformed = after.2.malformed := by
    refine (alignWithListing_malformed policy now venue otherRows other).trans ?_
    rw [countWithoutId_perm sameRows, (refusedRows_perm now venue sameUnknown).length_eq]
    exact (alignWithListing_malformed policy now venue rows ledger).symm
  calc
    otherAfter.2 =
        ⟨otherAfter.2.imported, otherAfter.2.closed, otherAfter.2.malformed⟩ := rfl
    _ = after.2 := by rw [imported, closed, malformed]

/-- Two rows resemble one order without a venue order id, which holds back the one of least id in
either order.  Another order is missing, and one row has no id. -/
theorem rows_in_either_order_hold_back_one :
    let order := Order.create ⟨0, 0⟩ ⟨"o1"⟩ "key" "BTC.PAPER" .buy .limit .one
    let missing := Order.create ⟨0, 0⟩ ⟨"o2"⟩ "key" "ETH.PAPER" .buy .limit .one
    let row := fun id : Option String => { (default : ListedOrder) with
      orderId := id, symbol := some "BTC", side := some "BUY" }
    let rows := [row (some "x1"), row none, row (some "x2")]
    let otherRows := [row (some "x2"), row (some "x1"), row none]
    let ledger := ((Ledger.empty.write ⟨0, 0⟩ order).1.write ⟨0, 0⟩ missing).1
    let other := ((Ledger.empty.write ⟨0, 0⟩ missing).1.write ⟨0, 0⟩ order).1
    let after := alignWithListing .assumeFilled ⟨1, 0⟩ "PAPER" rows ledger
    let otherAfter := alignWithListing .assumeFilled ⟨1, 0⟩ "PAPER" otherRows other
    ledger.orders ≠ other.orders ∧
      otherAfter.1.orders.Perm after.1.orders ∧ otherAfter.2 = ⟨1, 1, 1⟩ ∧
      otherAfter.1.get? (.imported "PAPER" "x1") = none ∧
      (otherAfter.1.get? (.imported "PAPER" "x2")).isSome := by
  intro order missing row rows otherRows ledger other after otherAfter
  have sameRows : otherRows.Perm rows := by decide
  have sameOrders : other.orders.Perm ledger.orders := by decide
  obtain ⟨sameLookup, samePerm, sameCounts⟩ :=
    alignWithListing_perm .assumeFilled ⟨1, 0⟩ "PAPER" sameRows sameOrders (by decide)
  refine ⟨by decide, samePerm, sameCounts.trans (by decide), ?_, ?_⟩
  · exact (sameLookup _).trans (by decide)
  · rw [sameLookup]
    decide

/-- Of two rows with one id the last counts, so their order shows. -/
example :
    let row := fun symbol : String => { (default : ListedOrder) with
      orderId := some "x1", symbol := some symbol, side := some "BUY" }
    let after := fun rows : List ListedOrder =>
      alignWithListing .assumeFilled ⟨1, 0⟩ "PAPER" rows .empty
    (after [row "BTC", row "ETH"]).1.orders.map Order.symbol = ["ETH.PAPER"] ∧
      (after [row "ETH", row "BTC"]).1.orders.map Order.symbol = ["BTC.PAPER"] := by
  decide

end OrderKeeper
