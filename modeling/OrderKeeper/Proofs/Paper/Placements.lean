import OrderKeeper.Proofs.Ledger.Contents
import OrderKeeper.Proofs.Order.Symbol
import OrderKeeper.Proofs.Paper.Accepted

/-!
Contract: what orders placed on paper venues leave in the ledger and in the books.

Owns: the ids that a book lists, one placement as either a refusal or one new order that
its venue shows, and runs of placements.

Does not own: what a pass makes of the orders.
-/

set_option autoImplicit false

namespace OrderKeeper

/-! ## Books -/

namespace PaperExchange

/-- The book has a row of the id. -/
def Lists (venue : PaperExchange) (id : String) : Prop :=
  ∃ row ∈ venue.book.get? id, row.orderId = some id

instance (venue : PaperExchange) (id : String) : Decidable (venue.Lists id) :=
  inferInstanceAs (Decidable (∃ row ∈ venue.book.get? id, row.orderId = some id))

theorem Lists.row_in_listing {venue : PaperExchange} {id : String} (listed : venue.Lists id) :
    ∃ row ∈ venue.listing, row.orderId = some id := by
  obtain ⟨row, found, rowId⟩ := listed
  have entered := (venue.book.get?_eq_some_iff id row).mp found
  exact ⟨row, List.mem_map_of_mem entered, rowId⟩

/-- A row that is entered under its id is listed, and every other one still is. -/
theorem lists_listOrder (venue : PaperExchange) {row : ListedOrder} {id : String}
    (rowId : row.orderId = some id) (other : String) :
    (venue.listOrder row).Lists other ↔ other = id ∨ venue.Lists other := by
  unfold listOrder Lists
  rw [rowId]
  simp only [Dictionary.get?_insert]
  by_cases same : other = id
  · simp [same, rowId]
  · simp [same]

end PaperExchange

namespace PaperMarket

/-- The book of a venue lists the venue order id that an order has. -/
def Shows (market : PaperMarket) (label : String) (order : Order) : Prop :=
  ∃ id ∈ order.venueOrderId, (market.venueAt label).Lists id

instance (market : PaperMarket) (label : String) (order : Order) :
    Decidable (market.Shows label order) :=
  inferInstanceAs (Decidable (∃ id ∈ order.venueOrderId, (market.venueAt label).Lists id))

/-- No id that a market lists on any venue is lost. -/
def KeepsListed (before after : PaperMarket) : Prop :=
  ∀ label id, (before.venueAt label).Lists id → (after.venueAt label).Lists id

theorem KeepsListed.shows {before after : PaperMarket} (keeps : KeepsListed before after)
    {label : String} {order : Order} (shown : before.Shows label order) :
    after.Shows label order := by
  obtain ⟨id, ownId, listed⟩ := shown
  exact ⟨id, ownId, keeps label id listed⟩

/-! ## One placement -/

/-- What one placement adds: an order under the next id from the supply, open, which its venue
shows. -/
structure Adds (ids : Nat → OrderId) (before after : State PaperMarket) (order : Order) : Prop where
  orders : after.ledger.orders = before.ledger.orders ++ [order]
  orderId : order.id = ids before.world.ordersPlaced
  isOpen : order.isOpen = true
  counted : after.world.ordersPlaced = before.world.ordersPlaced + 1
  shown : ∀ label, Text.upper label = label → Symbol.isOn order.symbol label = true →
    after.world.Shows label order
  keepsListed : KeepsListed before.world after.world

/-- An accepted ticket adds its order, if the next id from the supply is not in the ledger. -/
theorem Accepts.adds {ids : Nat → OrderId} {configured : List String} {now : Instant}
    {ticket : OrderTicket} {before after : State PaperMarket} {label : String} {order : Order}
    (accepts : Accepts ids configured now ticket before after label order)
    (isNew : before.ledger.get? (ids before.world.ordersPlaced) = none) :
    Adds ids before after order := by
  have rowId : order.paperRow.orderId = some _ := accepts.venueOrderId
  have listed := PaperExchange.lists_listOrder (before.world.venueAt label).takeOrderId.1 rowId
  refine ⟨accepts.orders isNew, accepts.orderId, accepts.isOpen, accepts.counted, ?_, ?_⟩
  · intro other isUpper here
    obtain ⟨suffix, named, sameLabel⟩ := accepts.named
    have sameLetters : Text.sameLetters suffix other = true := by
      rw [accepts.isOrder] at here
      have onOther : Symbol.isOn ticket.symbol other = true := here
      rwa [Symbol.isOn, named] at onOther
    rw [Text.sameLetters_iff, sameLabel, isUpper] at sameLetters
    refine ⟨_, accepts.venueOrderId, ?_⟩
    rw [accepts.venues, if_pos sameLetters.symm, listed]
    exact Or.inl rfl
  · intro other id listedBefore
    rw [accepts.venues]
    by_cases isLabel : other = label
    · rw [isLabel] at listedBefore
      rw [if_pos isLabel, listed]
      exact Or.inr listedBefore
    · rw [if_neg isLabel]
      exact listedBefore

/-- A placement changes nothing or adds one order. -/
theorem place_cases (ids : Nat → OrderId) (configured : List String) (now : Instant)
    (ticket : OrderTicket) {state : State PaperMarket}
    (isNew : state.ledger.get? (ids state.world.ordersPlaced) = none) :
    ((broker ids configured).place now ticket state).2 = state ∨
      ∃ order, Adds ids state ((broker ids configured).place now ticket state).2 order := by
  rcases refused_or_accepted ids configured now ticket state with
    ⟨cause, refused⟩ | ⟨label, order, after, accepted, accepts⟩
  · rw [refused]
    exact Or.inl rfl
  · rw [accepted]
    exact Or.inr ⟨order, accepts.adds isNew⟩

end PaperMarket

/-! ## Runs of placements -/

/-- Places orders one after the other, each at its own time. -/
def PaperBroker.placeAll {World : Type} (broker : PaperBroker World)
    (tickets : List (Instant × OrderTicket)) (state : State World) : State World :=
  tickets.foldl (fun state ticket => (broker.place ticket.1 ticket.2 state).2) state

namespace PaperMarket

/-- What a run of placements has added so far: orders under ids of the supply that were not
used before, open, which their venues show. -/
structure AddsAll (ids : Nat → OrderId) (before after : State PaperMarket) (placed : List Order) :
    Prop where
  orders : after.ledger.orders = before.ledger.orders ++ placed
  counted : before.world.ordersPlaced ≤ after.world.ordersPlaced
  numbered : ∀ order ∈ placed, ∃ number, before.world.ordersPlaced ≤ number ∧
    number < after.world.ordersPlaced ∧ order.id = ids number
  areOpen : ∀ order ∈ placed, order.isOpen = true
  shown : ∀ order ∈ placed, ∀ label, Text.upper label = label →
    Symbol.isOn order.symbol label = true → after.world.Shows label order
  keepsListed : KeepsListed before.world after.world

variable {ids : Nat → OrderId} {before : State PaperMarket}

theorem AddsAll.refl (ids : Nat → OrderId) (state : State PaperMarket) :
    AddsAll ids state state [] where
  orders := (List.append_nil _).symm
  counted := Nat.le_refl _
  numbered := fun _ impossible => nomatch impossible
  areOpen := fun _ impossible => nomatch impossible
  shown := fun _ impossible => nomatch impossible
  keepsListed := fun _ _ listed => listed

theorem AddsAll.append {middle after : State PaperMarket} {placed : List Order} {order : Order}
    (sofar : AddsAll ids before middle placed) (added : Adds ids middle after order) :
    AddsAll ids before after (placed ++ [order]) where
  orders := by rw [added.orders, sofar.orders, List.append_assoc]
  counted := by
    rw [added.counted]
    exact Nat.le_succ_of_le sofar.counted
  numbered := by
    intro other member
    rw [added.counted]
    rcases List.mem_append.mp member with earlier | isLast
    · obtain ⟨number, least, below, otherId⟩ := sofar.numbered other earlier
      exact ⟨number, least, Nat.lt_succ_of_lt below, otherId⟩
    · rw [List.mem_singleton.mp isLast]
      exact ⟨middle.world.ordersPlaced, sofar.counted, Nat.lt_succ_self _, added.orderId⟩
  areOpen := by
    intro other member
    rcases List.mem_append.mp member with earlier | isLast
    · exact sofar.areOpen other earlier
    · rw [List.mem_singleton.mp isLast]
      exact added.isOpen
  shown := by
    intro other member label isUpper here
    rcases List.mem_append.mp member with earlier | isLast
    · exact added.keepsListed.shows (sofar.shown other earlier label isUpper here)
    · rw [List.mem_singleton.mp isLast] at here ⊢
      exact added.shown label isUpper here
  keepsListed := fun label id listed =>
    added.keepsListed label id (sofar.keepsListed label id listed)

/-- The next id of the supply is not in the ledger. -/
theorem AddsAll.next_isNew {state : State PaperMarket} {placed : List Order}
    (sofar : AddsAll ids before state placed) (distinctIds : Function.Injective ids)
    (unused : ∀ number, before.world.ordersPlaced ≤ number →
      before.ledger.get? (ids number) = none) :
    state.ledger.get? (ids state.world.ordersPlaced) = none := by
  rw [Ledger.get?_eq_none_iff, sofar.orders]
  intro order member sameId
  rcases List.mem_append.mp member with old | new
  · have absent := unused state.world.ordersPlaced sofar.counted
    exact (Ledger.get?_eq_none_iff _ _).mp absent order old sameId
  · obtain ⟨number, -, below, orderId⟩ := sofar.numbered order new
    have sameNumber := distinctIds (orderId.symm.trans sameId)
    omega

/-- A run of placements adds open orders which their venues show, and loses no listed id. -/
theorem placeAll_adds (distinctIds : Function.Injective ids) (configured : List String)
    (unused : ∀ number, before.world.ordersPlaced ≤ number →
      before.ledger.get? (ids number) = none)
    (tickets : List (Instant × OrderTicket)) :
    ∃ placed, AddsAll ids before ((broker ids configured).placeAll tickets before) placed := by
  -- From any state that the run may have reached, with the orders that it has added by then.
  have fromAny : ∀ state placed, AddsAll ids before state placed →
      ∃ all, AddsAll ids before ((broker ids configured).placeAll tickets state) all := by
    induction tickets with
    | nil => exact fun state placed sofar => ⟨placed, sofar⟩
    | cons ticket rest inductionHypothesis =>
        intro state placed sofar
        have isNew := sofar.next_isNew distinctIds unused
        rcases place_cases ids configured ticket.1 ticket.2 isNew with same | ⟨order, added⟩
        · refine inductionHypothesis _ placed ?_
          show AddsAll ids before ((broker ids configured).place ticket.1 ticket.2 state).2 placed
          rw [same]
          exact sofar
        · exact inductionHypothesis _ (placed ++ [order]) (sofar.append added)
  exact fromAny before [] (AddsAll.refl ids before)

end PaperMarket

end OrderKeeper
