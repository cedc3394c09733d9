import OrderKeeper.Proofs.Paper.Placements
import OrderKeeper.Proofs.Reconcile.Accounting

/-!
Contract: orders that are placed on a paper venue while its listing is under way.

Owns: the orders that a listing is too old to have, what a pass that reads them against
that listing makes of them, and of every other order.

A pass reads the ledger when the listing has arrived.  So an order that was placed in
between is known, and its row is never imported a second time; but the listing may be older
than the order, and then the order counts as missing.
-/

set_option autoImplicit false

namespace OrderKeeper

/-- The orders of a later ledger that are new on a venue and have no row in a listing of it. -/
def Ledger.unseenArrivals (before after : Ledger) (venue : String) (rows : List ListedOrder) :
    List Order :=
  (before.arrivals after).filter fun order =>
    Symbol.isOn order.symbol venue = true ∧ ∀ row ∈ rows, row.orderId ≠ order.venueOrderId

section InFlight

variable {ids : Nat → OrderId} {before after : State PaperMarket} {placed : List Order}
  {label : String} {rows : List ListedOrder}

/-- The orders that are new after a run of placements are those that it added. -/
theorem PaperMarket.AddsAll.arrivals_eq (adds : PaperMarket.AddsAll ids before after placed)
    (unused : ∀ number, before.world.ordersPlaced ≤ number →
      before.ledger.get? (ids number) = none) :
    before.ledger.arrivals after.ledger = placed := by
  apply Ledger.arrivals_of_append adds.orders
  · intro order member
    rw [Ledger.get?_of_mem member]
    exact Option.some_ne_none order
  · intro order member
    obtain ⟨number, least, -, orderId⟩ := adds.numbered order member
    rw [orderId]
    exact unused number least

/-- Placements leave every open order on a venue in its book. -/
theorem PaperMarket.AddsAll.open_shown (adds : PaperMarket.AddsAll ids before after placed)
    (isUpper : Text.upper label = label)
    (shown : ∀ order ∈ before.ledger.orders, order.isOpen = true →
      Symbol.isOn order.symbol label = true → before.world.Shows label order)
    {order : Order} (member : order ∈ after.ledger.orders) (isOpen : order.isOpen = true)
    (here : Symbol.isOn order.symbol label = true) : after.world.Shows label order := by
  rw [adds.orders] at member
  rcases List.mem_append.mp member with old | new
  · exact adds.keepsListed.shows (shown order old isOpen here)
  · exact adds.shown order new label isUpper here

/-- An order that a market shows has a row in the listing. -/
theorem PaperMarket.Shows.not_missing {market : PaperMarket} {order : Order}
    (shown : market.Shows label order)
    (snapshot : ((PaperMarket.slot label).gateway.listOpenOrders market).1 = .ok rows)
    (venue : String) : ¬order.IsMissing venue rows := by
  obtain ⟨id, ownId, listed⟩ := shown
  obtain ⟨row, member, rowId⟩ := listed.row_in_listing
  have isListing : (market.venueAt label).listing = rows := by
    have answered : (market.venueAt label).answerListing = .ok rows := snapshot
    unfold PaperExchange.answerListing at answered
    split at answered
    · cases answered
    · exact Except.ok.inj answered
  exact Order.not_missing_of_listed (isListing ▸ member) rowId ownId venue

/-- An order that was added counts as missing exactly if no row has its id. -/
theorem PaperMarket.AddsAll.missing_iff (adds : PaperMarket.AddsAll ids before after placed)
    (isUpper : Text.upper label = label) {order : Order} (member : order ∈ placed) :
    order.IsMissing label rows ↔
      Symbol.isOn order.symbol label = true ∧ ∀ row ∈ rows, row.orderId ≠ order.venueOrderId := by
  unfold Order.IsMissing
  rw [adds.areOpen order member, eq_self, true_and]
  refine and_congr_right fun here => ?_
  obtain ⟨id, ownId, -⟩ := adds.shown order member label isUpper here
  unfold Order.IsUnlisted
  rw [ownId]

/-- The orders that count as missing are the arrivals that the listing is too old to have. -/
theorem PaperMarket.AddsAll.missing_eq (adds : PaperMarket.AddsAll ids before after placed)
    (unused : ∀ number, before.world.ordersPlaced ≤ number →
      before.ledger.get? (ids number) = none)
    (isUpper : Text.upper label = label)
    (shown : ∀ order ∈ before.ledger.orders, order.isOpen = true →
      Symbol.isOn order.symbol label = true → before.world.Shows label order)
    (snapshot : ((PaperMarket.slot label).gateway.listOpenOrders before.world).1 = .ok rows) :
    (after.ledger.orders.filter fun order => order.IsMissing label rows) =
      before.ledger.unseenArrivals after.ledger label rows := by
  have noneBefore : (before.ledger.orders.filter fun order => order.IsMissing label rows) = [] := by
    rw [List.filter_eq_nil_iff]
    intro order member isMissing
    have missing := of_decide_eq_true isMissing
    exact (shown order member missing.1 missing.2.1).not_missing snapshot label missing
  unfold Ledger.unseenArrivals
  rw [adds.arrivals_eq unused, adds.orders, List.filter_append, noneBefore, List.nil_append]
  refine List.filter_congr fun order member => ?_
  rw [decide_eq_decide]
  exact adds.missing_iff isUpper member

/-- A venue takes its listing, then orders are placed, then a pass reads the ledger against the
listing.  Every open order on the venue is in its book all the same, and a pass imports no row
whose id an order on the venue carries, so none that was placed in between.  But it takes for
missing, and closes if its policy is to close, exactly those orders placed in between whose
rows the listing is too old to have. -/
theorem listing_closes_unseen_arrivals (distinctIds : Function.Injective ids)
    (unused : ∀ number, before.world.ordersPlaced ≤ number →
      before.ledger.get? (ids number) = none)
    (isUpper : Text.upper label = label)
    (shown : ∀ order ∈ before.ledger.orders, order.isOpen = true →
      Symbol.isOn order.symbol label = true → before.world.Shows label order)
    (snapshot : ((PaperMarket.slot label).gateway.listOpenOrders before.world).1 = .ok rows)
    (configured : List String) (tickets : List (Instant × OrderTicket)) (policy : AbsencePolicy)
    (now : Instant) :
    let state := (PaperMarket.broker ids configured).placeAll tickets before
    let unseen := before.ledger.unseenArrivals state.ledger label rows
    let after := alignWithListing policy now label rows state.ledger
    (∀ order ∈ state.ledger.orders, order.isOpen = true → Symbol.isOn order.symbol label = true →
      state.world.Shows label order) ∧
    (∀ order ∈ state.ledger.arrivals after.1, state.ledger.CanImport label rows order) ∧
    (state.ledger.orders.filter fun order => order.IsMissing label rows) = unseen ∧
    after.2.closed = (if policy.closingStatus?.isSome then unseen.length else 0) ∧
    ∀ id, after.1.get? id = (state.ledger.get? id).map (Order.settled policy now label rows) ∨
      ∃ order : Order, order.id = id ∧ state.ledger.CanImport label rows order := by
  intro state unseen after
  obtain ⟨placed, adds⟩ := PaperMarket.placeAll_adds distinctIds configured unused tickets
  have missing := adds.missing_eq unused isUpper shown snapshot
  refine ⟨?_, ?_, missing, ?_, ?_⟩
  · intro order member isOpen here
    exact adds.open_shown isUpper shown member isOpen here
  · intro order arrived
    exact imported_of_arrival policy now label rows state.ledger arrived
  · rw [alignWithListing_closed, missing]
  · exact settled_or_imported policy now label rows state.ledger

end InFlight

/-- With one order in the listing and one placed after it, the second is closed, and it alone. -/
theorem listing_closes_late_order :
    let broker := PaperMarket.broker (PaperCore.numberedId "order") ["PAPER"]
    let empty : State PaperMarket := ⟨.empty, .ofNames ["PAPER"]⟩
    let early := (⟨0, 0⟩, OrderTicket.limit "early" "BTC.PAPER" .buy .one .one)
    let late := (⟨1, 0⟩, OrderTicket.limit "late" "ETH.PAPER" .buy .one .one)
    let before := broker.placeAll [early] empty
    let state := broker.placeAll [late] before
    let rows := (before.world.venueAt "PAPER").listing
    let after := alignWithListing .assumeCanceled ⟨2, 0⟩ "PAPER" rows state.ledger
    (∃ order ∈ before.ledger.orders, order.isOpen = true) ∧
      (before.ledger.unseenArrivals state.ledger "PAPER" rows).length = 1 ∧
      after.2.closed = 1 := by
  intro broker empty early late before state rows after
  have unused : ∀ number, before.world.ordersPlaced ≤ number →
      before.ledger.get? (PaperCore.numberedId "order" number) = none := by
    intro number least
    have placedOne : before.world.ordersPlaced = 1 := by decide +kernel
    have onlyFirst : ∀ order ∈ before.ledger.orders, order.id = PaperCore.numberedId "order" 0 := by
      decide +kernel
    rw [Ledger.get?_eq_none_iff]
    intro order member sameId
    have isFirst := PaperCore.numberedId_injective "order"
      ((onlyFirst order member).symm.trans sameId)
    omega
  have shown : ∀ order ∈ before.ledger.orders, order.isOpen = true →
      Symbol.isOn order.symbol "PAPER" = true → before.world.Shows "PAPER" order := by
    decide +kernel
  have oneUnseen : (before.ledger.unseenArrivals state.ledger "PAPER" rows).length = 1 := by
    decide +kernel
  have reachable : ¬(before.world.venueAt "PAPER").failing = true := by decide +kernel
  have snapshot :
      ((PaperMarket.slot "PAPER").gateway.listOpenOrders before.world).1 = .ok rows :=
    if_neg reachable
  have settles := listing_closes_unseen_arrivals (PaperCore.numberedId_injective "order") unused
    (by decide) shown snapshot ["PAPER"] [late] .assumeCanceled ⟨2, 0⟩
  have closed := settles.2.2.2.1
  have closes : AbsencePolicy.assumeCanceled.closingStatus?.isSome = true := rfl
  rw [if_pos closes, oneUnseen] at closed
  refine ⟨by decide +kernel, oneUnseen, ?_⟩
  simpa only [after, state, broker] using closed

/-- An order that is in the book of its venue is closed all the same. -/
theorem order_in_book_closed :
    let broker := PaperMarket.broker (PaperCore.numberedId "order") ["PAPER"]
    let empty : State PaperMarket := ⟨.empty, .ofNames ["PAPER"]⟩
    let early := OrderTicket.limit "early" "BTC.PAPER" .buy .one .one
    let late := OrderTicket.limit "late" "ETH.PAPER" .buy .one .one
    let before := broker.placeAll [(⟨0, 0⟩, early)] empty
    let state := broker.placeAll [(⟨0, 0⟩, late)] before
    let rows := (before.world.venueAt "PAPER").listing
    let after := alignWithListing .assumeFilled ⟨0, 0⟩ "PAPER" rows state.ledger
    (∀ order ∈ before.ledger.orders, before.world.Shows "PAPER" order) ∧
      ∃ order ∈ state.ledger.orders, order.isOpen = true ∧ state.world.Shows "PAPER" order ∧
        ∃ kept ∈ after.1.get? order.id, kept.status = .filled := by
  decide +kernel

end OrderKeeper
