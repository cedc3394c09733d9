import OrderKeeper.Proofs.Order.Symbol
import OrderKeeper.Proofs.Text.Numeral
import OrderKeeper.Reconcile.Adoption

/-!
Contract: the order that a listed row stands for.

Owns: the distinctness of the ids of imported orders, the place of such an order on its
venue, and the independence of everything but the two times from the time of the import.

Does not own: the write of the order into the ledger.
-/

set_option autoImplicit false

namespace OrderKeeper

/-! ## Ids of imported orders -/

theorem OrderId.imported_inj {venue first second : String} :
    OrderId.imported venue first = OrderId.imported venue second ↔ first = second := by
  constructor
  · intro same
    have letters := congrArg (fun id => id.text.toList) same
    simp only [OrderId.imported, String.toList_append] at letters
    exact String.toList_inj.mp (List.append_cancel_left letters)
  · intro same
    rw [same]

/-- Ids of orders imported from different venues differ if no venue name has a colon. -/
theorem OrderId.venue_of_imported {venue otherVenue id otherId : String}
    (plain : ':' ∉ venue.toList) (otherPlain : ':' ∉ otherVenue.toList)
    (same : OrderId.imported venue id = OrderId.imported otherVenue otherId) :
    venue = otherVenue := by
  have letters := congrArg (fun imported => imported.text.toList) same
  simp only [OrderId.imported, String.toList_append, List.append_assoc] at letters
  exact String.toList_inj.mp
    (Text.append_colon_inj plain otherPlain (List.append_cancel_left letters))

/-! ## Imported orders -/

/-- What an order has from the row and the venue that it is imported from. -/
structure Order.ImportedFrom (venue : String) (row : ListedOrder) (id : String) (order : Order) :
    Prop where
  row_id : row.orderId = some id
  order_id : order.id = .imported venue id
  symbol : ∃ symbol, row.symbol = some symbol ∧ order.symbol = Symbol.composite symbol venue
  venue_order_id : order.venueOrderId = some id

theorem importedOrder_ok {now : Instant} {venue : String} {row : ListedOrder} {order : Order}
    (taken : importedOrder now venue row = .ok order) :
    (∃ id, order.ImportedFrom venue row id) ∧ order.updatedAt = now := by
  unfold importedOrder at taken
  split at taken
  · cases taken
  · cases taken
  · rename_i id symbol rowId rowSymbol
    split at taken
    · cases taken
    · cases taken
    · cases taken
      exact ⟨⟨id, rowId, rfl, ⟨symbol, rowSymbol, rfl⟩, rfl⟩, rfl⟩

/-- An import has the side of its row; one that is not known is a buy. -/
theorem side_of_imported {now : Instant} {venue : String} {row : ListedOrder} {order : Order}
    (taken : importedOrder now venue row = .ok order) :
    order.side = (row.side.bind Side.ofVendor?).getD .buy := by
  unfold importedOrder at taken
  split at taken
  · cases taken
  · cases taken
  · split at taken
    · cases taken
    · cases taken
    · cases taken
      rfl

/-- An import has the time that a write at that time would give it. -/
theorem stamped_of_imported {now : Instant} {venue : String} {row : ListedOrder} {order : Order}
    (taken : importedOrder now venue row = .ok order) : { order with updatedAt := now } = order := by
  rw [← (importedOrder_ok taken).2]

/-- Of an import only the two times depend on when it happens. -/
theorem importedOrder_at (now later : Instant) (venue : String) (row : ListedOrder) :
    importedOrder later venue row =
      (importedOrder now venue row).map fun order =>
        { order with createdAt := later, updatedAt := later } := by
  unfold importedOrder
  split
  · rfl
  · rfl
  · split
    · rfl
    · rfl
    · rfl

/-- The order of a row on a venue that a symbol can name lies on that venue. -/
theorem Order.ImportedFrom.isOn {venue id : String} {row : ListedOrder} {order : Order}
    (imported : order.ImportedFrom venue row id) (named : Symbol.IsVenueName venue) :
    Symbol.isOn order.symbol venue = true := by
  obtain ⟨symbol, -, composite⟩ := imported.symbol
  rw [composite]
  exact Symbol.isOn_composite symbol named

end OrderKeeper
