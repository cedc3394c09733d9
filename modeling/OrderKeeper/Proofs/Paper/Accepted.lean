import OrderKeeper.Paper.Core
import OrderKeeper.Proofs.Dictionary
import OrderKeeper.Proofs.Ledger.Contents
import OrderKeeper.Proofs.Text.Numeral

/-!
Contract: one placement on paper venues.

Owns: the distinctness of numbered ids, the row that a placed order has, what a ticket passes on
its way to a venue, and either answer: a refusal that changes nothing, or an order with
everything that its placement changes.

Does not own: what placements leave in the ledger and in the books.
-/

set_option autoImplicit false

namespace OrderKeeper

/-- Ids of one origin differ as their numbers do. -/
theorem PaperCore.numberedId_injective (origin : String) :
    Function.Injective (PaperCore.numberedId origin) := by
  intro first second same
  have letters := congrArg (fun id => id.text.toList) same
  simp only [PaperCore.numberedId, String.toList_append, String.toList_ofList] at letters
  exact Nat.succ.inj (Text.numeral_inj (List.append_cancel_left letters))

/-- The row that the placement of an order enters. -/
def Order.paperRow (order : Order) : ListedOrder where
  orderId := order.venueOrderId
  symbol := some (Symbol.base order.symbol)
  side := some order.side.name
  orderKind := some order.orderKind.name
  orderedQuantity := some order.quantity
  executedQuantity := some .zero
  price := order.price
  stopPrice := order.stopPrice
  timeInForce := some order.timeInForce.name
  status := some Status.new.name

namespace PaperMarket

theorem venueAt_setVenue (market : PaperMarket) (label : String) (venue : PaperExchange)
    (other : String) :
    (market.setVenue label venue).venueAt other =
      if other = label then venue else market.venueAt other := by
  unfold venueAt setVenue
  rw [Dictionary.get?_insert]
  by_cases same : other = label
  · simp [same]
  · simp [same]

/-- Everything that an accepted ticket changes: one order is written, and its row is entered
under the next id of its venue. -/
structure Accepts (ids : Nat → OrderId) (configured : List String) (now : Instant)
    (ticket : OrderTicket) (before after : State PaperMarket) (label : String) (order : Order) :
    Prop where
  isPositive : ¬ticket.quantity ≤ .zero
  named : ∃ suffix, Symbol.venue? ticket.symbol = some suffix ∧ Text.upper suffix = label
  isConfigured : label ∈ venueNames configured
  isOrder : order = PaperBroker.orderOf now ticket (ids before.world.ordersPlaced)
    ((before.world.venueAt label).orderIdAt (before.world.venueAt label).nextNumber)
  ledger : after.ledger = (before.ledger.write now order).1
  venues : ∀ other, after.world.venueAt other =
    if other = label then (before.world.venueAt label).takeOrderId.1.listOrder order.paperRow
    else before.world.venueAt other
  counted : after.world.ordersPlaced = before.world.ordersPlaced + 1

section Place

variable (ids : Nat → OrderId) (configured : List String)

/-- What a ticket that goes through has passed. -/
theorem route_ok {ticket : OrderTicket} {market : PaperMarket} {place : PaperSlot PaperMarket}
    (routed : (broker ids configured).route ticket market = .ok place) :
    ¬ticket.quantity ≤ .zero ∧
      ∃ suffix, Symbol.venue? ticket.symbol = some suffix ∧
        Text.upper suffix ∈ venueNames configured ∧ place = slot (Text.upper suffix) := by
  unfold PaperBroker.route at routed
  by_cases refused : ticket.quantity ≤ .zero
  · rw [if_pos refused] at routed
    cases routed
  rw [if_neg refused] at routed
  cases named : Symbol.venue? ticket.symbol with
  | none =>
      rw [named] at routed
      cases routed
  | some suffix =>
      rw [named] at routed
      dsimp only at routed
      cases reached : (broker ids configured).venues.get? (Text.upper suffix) with
      | none =>
          rw [reached] at routed
          cases routed
      | some found =>
          have entered := Dictionary.mem_of_get?_ofList reached
          obtain ⟨name, member, sameEntry⟩ := List.mem_map.mp entered
          obtain ⟨rfl, rfl⟩ := Prod.mk.inj sameEntry
          rw [reached] at routed
          dsimp only at routed
          split at routed
          · cases routed
          · exact ⟨refused, suffix, rfl, member, (Except.ok.inj routed).symm⟩

/-- A ticket is refused and changes nothing, or it is accepted. -/
theorem refused_or_accepted (now : Instant) (ticket : OrderTicket) (state : State PaperMarket) :
    (∃ cause, (broker ids configured).place now ticket state = (.error cause, state)) ∨
      ∃ label order after,
        (broker ids configured).place now ticket state =
          (.ok ⟨order.id, order.venueOrderId⟩, after) ∧
        Accepts ids configured now ticket state after label order := by
  unfold PaperBroker.place
  cases routed : (broker ids configured).route ticket state.world with
  | error cause => exact Or.inl ⟨cause, rfl⟩
  | ok place =>
      obtain ⟨isPositive, suffix, named, isConfigured, rfl⟩ := route_ok ids configured routed
      refine Or.inr ⟨Text.upper suffix, _, _, rfl, isPositive, ⟨suffix, named, rfl⟩, isConfigured,
        rfl, rfl, fun other => ?_, rfl⟩
      exact venueAt_setVenue state.world (Text.upper suffix) _ other

end Place

namespace Accepts

variable {ids : Nat → OrderId} {configured : List String} {now : Instant} {ticket : OrderTicket}
  {before after : State PaperMarket} {label : String} {order : Order}

theorem isNew (accepts : Accepts ids configured now ticket before after label order) :
    order.status = .new ∧ order.filledQuantity = .zero ∧ order.pairGroup = none ∧
      order.quantity = ticket.quantity := by
  rw [accepts.isOrder]
  exact ⟨rfl, rfl, rfl, rfl⟩

theorem isOpen (accepts : Accepts ids configured now ticket before after label order) :
    order.isOpen = true := by
  rw [Order.isOpen, accepts.isNew.1]
  rfl

theorem symbol (accepts : Accepts ids configured now ticket before after label order) :
    order.symbol = ticket.symbol := by
  rw [accepts.isOrder]
  rfl

theorem orderId (accepts : Accepts ids configured now ticket before after label order) :
    order.id = ids before.world.ordersPlaced := by
  rw [accepts.isOrder]
  rfl

/-- The write does not change the order, since it has the time of the placement. -/
theorem stamped (accepts : Accepts ids configured now ticket before after label order) :
    { order with updatedAt := now } = order := by
  rw [accepts.isOrder]
  rfl

theorem venueOrderId (accepts : Accepts ids configured now ticket before after label order) :
    order.venueOrderId = some
      ((before.world.venueAt label).orderIdAt (before.world.venueAt label).nextNumber) := by
  rw [accepts.isOrder]
  rfl

/-- If the next id of the supply is not in the ledger, the order comes last. -/
theorem orders (accepts : Accepts ids configured now ticket before after label order)
    (unused : before.ledger.get? (ids before.world.ordersPlaced) = none) :
    after.ledger.orders = before.ledger.orders ++ [order] := by
  rw [← accepts.orderId] at unused
  rw [accepts.ledger, (Ledger.write_of_absent now unused).1, accepts.stamped]

/-- If the orders so far have earlier ids of the supply, the order comes last. -/
theorem orders_of_numbered (accepts : Accepts ids configured now ticket before after label order)
    (distinctIds : Function.Injective ids)
    (numbered : ∀ old ∈ before.ledger.orders,
      ∃ number < before.world.ordersPlaced, old.id = ids number) :
    after.ledger.orders = before.ledger.orders ++ [order] := by
  apply accepts.orders
  rw [Ledger.get?_eq_none_iff]
  intro old member sameId
  obtain ⟨number, below, oldId⟩ := numbered old member
  have sameNumber := distinctIds (oldId.symm.trans sameId)
  omega

/-- A venue keeps its name and its state, and counts the order if that is its own. -/
theorem venue_kept (accepts : Accepts ids configured now ticket before after label order)
    (other : String) :
    (after.world.venueAt other).name = (before.world.venueAt other).name ∧
      (after.world.venueAt other).failing = (before.world.venueAt other).failing ∧
      (after.world.venueAt other).nextNumber =
        (before.world.venueAt other).nextNumber + (if other = label then 1 else 0) := by
  rw [accepts.venues]
  by_cases here : other = label
  · rw [if_pos here, if_pos here, here]
    unfold PaperExchange.listOrder
    split <;> exact ⟨rfl, rfl, rfl⟩
  · rw [if_neg here, if_neg here]
    exact ⟨rfl, rfl, rfl⟩

end Accepts

end PaperMarket

end OrderKeeper
