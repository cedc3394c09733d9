import OrderKeeper.Proofs.Reconcile.Alignment

/-!
Contract: every row of a listing is accounted for, and no order is brought in without need.

Owns: the store condition under which imported orders keep to their venue, the orders that
are new after a change of the ledger, and for one listing the account of its rows, of the
new orders and of the counts.

Does not own: several listings in a row.
-/

set_option autoImplicit false

namespace OrderKeeper

namespace Ledger

/-- Whatever lies under the id of an order imported from the venue lies on the venue and has
the venue order id that its own id names. -/
def ImportsKept (ledger : Ledger) (venue : String) : Prop :=
  ∀ order ∈ ledger.orders, ∀ id, order.id = .imported venue id →
    Symbol.isOn order.symbol venue = true ∧ order.venueOrderId = some id

/-- The orders of a later ledger under ids that the earlier one does not have. -/
def arrivals (before after : Ledger) : List Order :=
  after.orders.filter fun order => (before.get? order.id).isNone

theorem arrivals_of_append {before after : Ledger} {kept new : List Order}
    (orders : after.orders = kept ++ new)
    (keptStored : ∀ order ∈ kept, before.get? order.id ≠ none)
    (areNew : ∀ order ∈ new, before.get? order.id = none) : before.arrivals after = new := by
  unfold arrivals
  rw [orders, List.filter_append]
  have keptOut : (kept.filter fun order => (before.get? order.id).isNone) = [] := by
    rw [List.filter_eq_nil_iff]
    intro order member isNone
    exact keptStored order member (Option.isNone_iff_eq_none.mp isNone)
  have newIn : (new.filter fun order => (before.get? order.id).isNone) = new := by
    rw [List.filter_eq_self]
    intro order member
    rw [areNew order member]
    rfl
  rw [keptOut, newIn, List.nil_append]

end Ledger

section Listing

variable {venue : String} {before : Ledger}

/-- An unknown row has a new id. -/
theorem get?_of_unknown (importsKept : before.ImportsKept venue) {now : Instant}
    {rows : List ListedOrder} {order : Order}
    (member : order ∈ takenOver now venue (before.unknownRows venue rows)) :
    before.get? order.id = none := by
  obtain ⟨row, -, id, -, isFrom, notCarried⟩ := row_of_taken member
  rw [before.get?_eq_none_iff]
  intro stored storedMember sameId
  obtain ⟨here, ownId⟩ := importsKept stored storedMember id (sameId.trans isFrom.order_id)
  exact notCarried ⟨stored, (before.mem_onVenue venue stored).mpr ⟨storedMember, here⟩, ownId⟩

/-- A listing settles the orders in place and appends the orders of the unknown rows. -/
theorem alignWithListing_orders (importsKept : before.ImportsKept venue) (policy : AbsencePolicy)
    (now : Instant) (rows : List ListedOrder) :
    let unknown := before.unknownRows venue rows
    let after := alignWithListing policy now venue rows before
    let new := before.arrivals after.1
    new.Perm (takenOver now venue unknown) ∧
      after.1.orders = before.orders.map (Order.settled policy now venue rows) ++ new ∧
      after.2.imported = new.length ∧
      after.2.malformed = countWithoutId rows + (refusedRows now venue unknown).length := by
  intro unknown after new
  obtain ⟨taken, takenPerm, aligned⟩ := alignWithListing_eq policy now venue rows before
  have perm := takenOver_perm now venue takenPerm
  have distinct : ((takenOver now venue taken).map Order.id).Nodup :=
    (perm.map Order.id).nodup_iff.mpr
      (takenOver_ids_nodup now venue (unknownRows_ids_nodup before venue rows))
  have areNew : ∀ order ∈ takenOver now venue taken, before.get? order.id = none :=
    fun order member => get?_of_unknown importsKept (perm.mem_iff.mp member)
  have areNewAfterCloses : ∀ order ∈ takenOver now venue taken,
      (before.afterCloses policy now venue rows).get? order.id = none := by
    intro order member
    rw [Ledger.get?_afterCloses, areNew order member]
    rfl
  obtain ⟨writtenOrders, writtenCount⟩ := Ledger.writeAll_of_new distinct areNewAfterCloses
  have stamped : (takenOver now venue taken).map (fun order => { order with updatedAt := now }) =
      takenOver now venue taken := by
    refine (List.map_congr_left fun order member => ?_).trans (List.map_id _)
    obtain ⟨row, -, imported⟩ := (mem_takenOver now venue taken order).mp member
    exact stamped_of_imported imported
  have orders : after.1.orders =
      before.orders.map (Order.settled policy now venue rows) ++ takenOver now venue taken := by
    show (alignWithListing policy now venue rows before).1.orders = _
    rw [aligned, writtenOrders, stamped, Ledger.afterCloses_orders]
  have arrived : new = takenOver now venue taken := by
    apply Ledger.arrivals_of_append orders
    · intro order member
      obtain ⟨old, oldMember, rfl⟩ := List.mem_map.mp member
      rw [Order.settled_id, Ledger.get?_of_mem oldMember]
      exact Option.some_ne_none old
    · exact areNew
  refine ⟨arrived ▸ perm, arrived ▸ orders, ?_, ?_⟩
  · show (alignWithListing policy now venue rows before).2.imported = _
    rw [aligned, arrived]
    exact writtenCount
  · show (alignWithListing policy now venue rows before).2.malformed = _
    rw [aligned]
    exact congrArg (countWithoutId rows + ·) (takenPerm.filter _).length_eq

/-- Which ids a venue is known to have used only grows by a listing. -/
theorem carries_alignWithListing (importsKept : before.ImportsKept venue) (policy : AbsencePolicy)
    (now : Instant) (rows : List ListedOrder) {id : String} (carried : before.Carries venue id) :
    (alignWithListing policy now venue rows before).1.Carries venue id := by
  obtain ⟨order, member, ownId⟩ := carried
  obtain ⟨stored, here⟩ := (before.mem_onVenue venue order).mp member
  obtain ⟨-, orders, -, -⟩ := alignWithListing_orders importsKept policy now rows
  refine ⟨order.settled policy now venue rows, ?_, ?_⟩
  · rw [Ledger.mem_onVenue, orders, Order.settled_symbol]
    exact ⟨List.mem_append_left _ (List.mem_map_of_mem stored), here⟩
  · rw [Order.settled_venueOrderId, ownId]

/-- A listing leaves alone every order that holds a row back. -/
theorem holder_kept (importsKept : before.ImportsKept venue) (policy : AbsencePolicy)
    (now : Instant) {rows : List ListedOrder} {order : Order} {id : String}
    (member : order ∈ before.onVenue venue) (holds : order.HoldsBack rows id) :
    order ∈ (alignWithListing policy now venue rows before).1.onVenue venue := by
  obtain ⟨stored, here⟩ := (before.mem_onVenue venue order).mp member
  obtain ⟨-, orders, -, -⟩ := alignWithListing_orders importsKept policy now rows
  have same := Order.settled_of_not_missing policy now
    (Order.not_missing_of_holdsBack holds venue)
  rw [Ledger.mem_onVenue, orders]
  exact ⟨List.mem_append_left _ (List.mem_map.mpr ⟨order, stored, same⟩), here⟩

/-- The order of an unknown row that is not refused is on the venue after the listing. -/
theorem taken_arrives (named : Symbol.IsVenueName venue) (importsKept : before.ImportsKept venue)
    (policy : AbsencePolicy) (now : Instant) {rows : List ListedOrder} {order : Order}
    (member : order ∈ takenOver now venue (before.unknownRows venue rows)) :
    order ∈ (alignWithListing policy now venue rows before).1.onVenue venue := by
  obtain ⟨perm, orders, -, -⟩ := alignWithListing_orders importsKept policy now rows
  obtain ⟨row, -, id, -, isFrom, -⟩ := row_of_taken member
  rw [Ledger.mem_onVenue, orders]
  exact ⟨List.mem_append_right _ (perm.mem_iff.mpr member), isFrom.isOn named⟩

/-- A row is accounted for after a listing: an order has its id, or an open order whose venue
order id is not known holds it back, or it is refused. -/
theorem row_accounted (named : Symbol.IsVenueName venue) (importsKept : before.ImportsKept venue)
    (policy : AbsencePolicy) (now : Instant) {rows : List ListedOrder} {row : ListedOrder}
    (counts : row ∈ lastRows rows) :
    let after := (alignWithListing policy now venue rows before).1
    (∃ id, row.orderId = some id ∧ after.Carries venue id) ∨
      (∃ id, row.orderId = some id ∧
        ∃ order ∈ before.onVenue venue, order ∈ after.onVenue venue ∧ order.isOpen = true ∧
          order.HoldsBack rows id ∧ order.Resembles row) ∨
      row ∈ refusedRows now venue (before.unknownRows venue rows) := by
  intro after
  obtain ⟨id, rowId⟩ := id_of_mem_lastRows counts
  by_cases carried : before.Carries venue id
  · exact Or.inl ⟨id, rowId, carries_alignWithListing importsKept policy now rows carried⟩
  · by_cases held : before.HoldsBack venue rows id
    · obtain ⟨order, member, isOpen, holds⟩ := held
      obtain ⟨other, otherCounts, otherId, resembles⟩ := holds.2.1
      have sameRow : other = row := eq_of_same_orderId otherCounts counts (otherId.trans rowId.symm)
      have kept := holder_kept importsKept policy now member holds
      exact Or.inr (Or.inl ⟨id, rowId, order, member, kept, isOpen, holds, sameRow ▸ resembles⟩)
    · have unknown : row ∈ before.unknownRows venue rows := by
        rw [Ledger.mem_unknownRows]
        refine ⟨counts, fun other otherId => ?_⟩
        have sameId : id = other := Option.some.inj (rowId.symm.trans otherId)
        exact sameId ▸ ⟨carried, held⟩
      cases imported : importedOrder now venue row with
      | error cause =>
          exact Or.inr (Or.inr ((mem_refusedRows now venue _ row).mpr ⟨unknown, cause, imported⟩))
      | ok order =>
          obtain ⟨⟨ownId, isFrom⟩, -⟩ := importedOrder_ok imported
          have arrived := taken_arrives named importsKept policy now
            ((mem_takenOver now venue _ order).mpr ⟨row, unknown, imported⟩)
          exact Or.inl ⟨ownId, isFrom.row_id, order, arrived, isFrom.venue_order_id⟩

end Listing

/-! ## What is imported -/

/-- An order stands for a row of a listing whose id no order on the venue has. -/
def Ledger.CanImport (ledger : Ledger) (venue : String) (rows : List ListedOrder) (order : Order) :
    Prop :=
  ∃ row ∈ rows, ∃ id, order.ImportedFrom venue row id ∧ ¬ledger.Carries venue id

section Import

variable (policy : AbsencePolicy) (now : Instant) (venue : String) (rows : List ListedOrder)
  (ledger : Ledger)

theorem Ledger.canImport_of_taken {ledger : Ledger} {order : Order}
    (taken : order ∈ takenOver now venue (ledger.unknownRows venue rows)) :
    ledger.CanImport venue rows order := by
  obtain ⟨row, counts, id, -, isFrom, notCarried⟩ := row_of_taken taken
  exact ⟨row, mem_of_mem_lastRows counts, id, isFrom, notCarried⟩

/-- Under each id lies what lay there, settled, unless an order is imported under it. -/
theorem settled_or_imported (id : OrderId) :
    (alignWithListing policy now venue rows ledger).1.get? id =
        (ledger.get? id).map (Order.settled policy now venue rows) ∨
      ∃ order : Order, order.id = id ∧ ledger.CanImport venue rows order := by
  rw [get?_alignWithListing]
  cases search : (takenOver now venue (ledger.unknownRows venue rows)).find?
      fun order => order.id = id with
  | none => exact Or.inl rfl
  | some order =>
      have orderId : order.id = id := by simpa using List.find?_some search
      exact Or.inr ⟨order, orderId,
        Ledger.canImport_of_taken now venue rows (List.mem_of_find?_eq_some search)⟩

/-- An order that a listing brings in is an imported one. -/
theorem imported_of_arrival {order : Order}
    (arrived : order ∈ ledger.arrivals (alignWithListing policy now venue rows ledger).1) :
    ledger.CanImport venue rows order := by
  obtain ⟨stored, isNew⟩ := List.mem_filter.mp arrived
  have absent : ledger.get? order.id = none := Option.isNone_iff_eq_none.mp isNew
  have found := Ledger.get?_of_mem stored
  rw [get?_alignWithListing, absent] at found
  cases search : (takenOver now venue (ledger.unknownRows venue rows)).find?
      fun other => other.id = order.id with
  | none =>
      rw [search] at found
      cases found
  | some taken =>
      have takenMember := List.mem_of_find?_eq_some search
      obtain ⟨row, -, -, imported, -, -⟩ := row_of_taken takenMember
      rw [search] at found
      have isTaken : taken = order :=
        (stamped_of_imported imported).symm.trans (Option.some.inj found)
      exact isTaken ▸ Ledger.canImport_of_taken now venue rows takenMember

end Import

end OrderKeeper
