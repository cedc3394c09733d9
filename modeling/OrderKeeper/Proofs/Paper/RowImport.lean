import OrderKeeper.Proofs.Paper.Books
import OrderKeeper.Proofs.Reconcile.Writes

/-!
Contract: the rows of a paper venue, read back as orders.

Owns: the words of a row read back, what an imported order has from the one that was placed,
the import of the row of a placed order, and the listing of a venue with backed books as the
rows of its orders.

Does not own: which rows a pass imports.
-/

set_option autoImplicit false

namespace OrderKeeper

/-! ## Words -/

@[simp] theorem Side.ofVendor?_name (side : Side) : Side.ofVendor? side.name = some side := by
  cases side <;> decide

@[simp] theorem Status.ofVendor?_name (status : Status) :
    Status.ofVendor? status.name = some status := by
  cases status <;> decide

@[simp] theorem OrderKind.ofVendor_name (kind : OrderKind) :
    OrderKind.ofVendor (some kind.name) = kind := by
  cases kind <;> decide

@[simp] theorem TimeInForce.ofVendor_name (timeInForce : TimeInForce) :
    TimeInForce.ofVendor (some timeInForce.name) = timeInForce := by
  cases timeInForce <;> decide

theorem refuseNegative_of_positive (field : String) {x : Decimal} (isPositive : ¬x ≤ .zero) :
    refuseNegative field (some x) = .ok (some x) := by
  have notNegative : x.negative = false := by
    cases negative : x.negative with
    | false => rfl
    | true =>
        have below : x ≤ .zero := by
          show x.coefficient * 10 ^ Decimal.zero.scale ≤ Decimal.zero.coefficient * 10 ^ x.scale
          simp [Decimal.coefficient, negative, Decimal.zero]
        exact absurd below isPositive
  simp [refuseNegative, notNegative]

/-! ## One order -/

/-- An imported order has from the written one all that a venue knows of it. -/
structure Order.IsRecoveredBy (written imported : Order) : Prop where
  side : imported.side = written.side
  orderKind : imported.orderKind = written.orderKind
  quantity : imported.quantity = written.quantity
  price : imported.price = written.price
  stopPrice : imported.stopPrice = written.stopPrice
  timeInForce : imported.timeInForce = written.timeInForce
  status : imported.status = written.status
  filledQuantity : imported.filledQuantity = written.filledQuantity
  venueOrderId : imported.venueOrderId = written.venueOrderId
  symbol : Symbol.AgreesUpToVenueCase written.symbol imported.symbol

/-- An order as a placement writes it. -/
structure Order.IsAsPlaced (order : Order) : Prop where
  status : order.status = .new
  filledQuantity : order.filledQuantity = .zero
  isPositive : ¬order.quantity ≤ .zero

/-- The row of an order as it was placed stands for that order. -/
theorem importedOrder_paperRow (now : Instant) {order : Order} {place : BookPlace}
    (asPlaced : order.IsAsPlaced) (atPlace : order.bookPlace? = some place)
    (plainBase : Symbol.isOn (Symbol.base order.symbol) place.label = false) :
    ∃ imported, importedOrder now place.label order.paperRow = .ok imported ∧
      order.IsRecoveredBy imported := by
  obtain ⟨⟨suffix, named, sameLabel⟩, ownId⟩ := (order.bookPlace?_eq_some_iff place).mp atPlace
  have nothingFilled : refuseNegative "executedQty" (some Decimal.zero) = .ok (some .zero) := rfl
  have symbol : Symbol.AgreesUpToVenueCase order.symbol
      (Symbol.composite (Symbol.base order.symbol) place.label) := by
    rw [Symbol.composite_of_not_on plainBase]
    refine ⟨Symbol.base order.symbol, suffix, place.label, Symbol.eq_of_venue? named, rfl, ?_⟩
    rw [Text.sameLetters_iff, ← sameLabel, Text.upper_upper]
  unfold importedOrder Order.paperRow
  simp only [ownId, nothingFilled, refuseNegative_of_positive "origQty" asPlaced.isPositive]
  refine ⟨_, rfl, ⟨?_, ?_, rfl, rfl, rfl, ?_, ?_, ?_, ownId.symm, symbol⟩⟩
  · simp
  · simp
  · simp
  · simp [asPlaced.status]
  · simp [asPlaced.filledQuantity]

/-- Rows that stand for orders are taken over in their order. -/
theorem takenOver_forall₂ (now : Instant) (venue : String) {related : Order → Order → Prop}
    {orders : List Order}
    (standFor : ∀ order ∈ orders, ∃ imported,
      importedOrder now venue order.paperRow = .ok imported ∧ related order imported) :
    List.Forall₂ related orders (takenOver now venue (orders.map Order.paperRow)) := by
  induction orders with
  | nil => exact List.Forall₂.nil
  | cons order rest inductionHypothesis =>
      obtain ⟨imported, taken, isRelated⟩ := standFor order List.mem_cons_self
      have added : takenOver now venue ((order :: rest).map Order.paperRow) =
          imported :: takenOver now venue (rest.map Order.paperRow) := by
        simp [takenOver, taken, Except.toOption]
      rw [added]
      exact List.Forall₂.cons isRelated
        (inductionHypothesis fun other member => standFor other (List.mem_cons_of_mem order member))

/-! ## One listing -/

namespace PaperMarket.Backed

variable {market : PaperMarket} {orders : List Order}

/-- The rows of a venue have distinct ids. -/
theorem listing_ids (backed : market.Backed orders) (label : String) :
    (∀ row ∈ (market.venueAt label).listing, row.orderId ≠ none) ∧
      ((market.venueAt label).listing.map ListedOrder.orderId).Nodup := by
  have ownId : ∀ entry ∈ (market.venueAt label).book.entries, entry.2.orderId = some entry.1 := by
    rintro ⟨id, row⟩ member
    have found : market.rowAt? ⟨label, id⟩ = some row :=
      ((market.venueAt label).book.get?_eq_some_iff id row).mpr member
    obtain ⟨order, -, atPlace, rfl⟩ := backed.rows ⟨label, id⟩ row found
    exact ((order.bookPlace?_eq_some_iff ⟨label, id⟩).mp atPlace).2
  constructor
  · intro row member
    obtain ⟨entry, entryMember, rfl⟩ := List.mem_map.mp member
    rw [ownId entry entryMember]
    exact Option.some_ne_none entry.1
  · have sameKeys : (market.venueAt label).listing.map ListedOrder.orderId =
        (market.venueAt label).book.keys.map some := by
      unfold PaperExchange.listing Dictionary.values Dictionary.keys
      rw [List.map_map, List.map_map]
      exact List.map_congr_left fun entry member => ownId entry member
    rw [sameKeys]
    exact (market.venueAt label).book.keys_nodup.map (Option.some_injective String)

/-- The listing of a venue has the rows of its orders that are still there. -/
theorem listing_perm (backed : market.Backed orders) {label : String}
    (isUpper : Text.upper label = label) :
    (market.venueAt label).listing.Perm
      ((orders.filter fun order =>
        Symbol.isOn order.symbol label = true ∧ market.HasRowOf order).map Order.paperRow) := by
  have stillThere (order : Order) :
      order ∈ (orders.filter fun order =>
          Symbol.isOn order.symbol label = true ∧ market.HasRowOf order) ↔
        order ∈ orders ∧ ∃ id row, order.bookPlace? = some ⟨label, id⟩ ∧
          market.rowAt? ⟨label, id⟩ = some row := by
    rw [List.mem_filter, decide_eq_true_iff]
    refine and_congr_right fun member => ?_
    obtain ⟨⟨own, id⟩, atPlace⟩ := backed.exists_place member
    rw [Order.isOn_iff_of_bookPlace atPlace isUpper, hasRowOf_iff atPlace,
      Option.isSome_iff_exists, atPlace]
    simp only [Option.some.injEq, BookPlace.mk.injEq]
    constructor
    · rintro ⟨rfl, row, found⟩
      exact ⟨id, row, ⟨rfl, rfl⟩, found⟩
    · rintro ⟨_, row, ⟨rfl, rfl⟩, found⟩
      exact ⟨rfl, row, found⟩
  have listingNodup := List.Nodup.of_map _ (backed.listing_ids label).2
  have rowsNodup : ((orders.filter fun order =>
      Symbol.isOn order.symbol label = true ∧ market.HasRowOf order).map Order.paperRow).Nodup := by
    refine List.Nodup.map_on (fun first firstMember second secondMember sameRow => ?_)
      ((List.Nodup.of_map _ backed.apart).filter _)
    obtain ⟨firstStored, id, _, firstPlace, -⟩ := (stillThere first).mp firstMember
    obtain ⟨secondStored, otherId, _, secondPlace, -⟩ := (stillThere second).mp secondMember
    have firstId := ((first.bookPlace?_eq_some_iff ⟨label, id⟩).mp firstPlace).2
    have secondId := ((second.bookPlace?_eq_some_iff ⟨label, otherId⟩).mp secondPlace).2
    have sameId : first.venueOrderId = second.venueOrderId := congrArg ListedOrder.orderId sameRow
    rw [firstId, secondId, Option.some.injEq] at sameId
    dsimp only at sameId
    apply backed.eq_of_same_place firstStored secondStored
    rw [firstPlace, secondPlace, sameId]
  rw [List.perm_ext_iff_of_nodup listingNodup rowsNodup]
  intro row
  rw [mem_listing_iff, List.mem_map]
  constructor
  · rintro ⟨id, found⟩
    obtain ⟨order, member, atPlace, rfl⟩ := backed.rows ⟨label, id⟩ row found
    exact ⟨order, (stillThere order).mpr ⟨member, id, _, atPlace, found⟩, rfl⟩
  · rintro ⟨order, member, rfl⟩
    obtain ⟨stored, id, row, atPlace, found⟩ := (stillThere order).mp member
    exact ⟨id, found.trans (congrArg some (backed.row_eq stored atPlace found))⟩

end PaperMarket.Backed

end OrderKeeper
