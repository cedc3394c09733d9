import OrderKeeper.Pair.Linked
import OrderKeeper.Proofs.Paper.Books
import OrderKeeper.Reconcile.Alignment

/-!
Contract: a ledger and the books of its venues in step.

Owns: the relation between the two, in which every open order has its row and every row its
order, whether or not venues fail, and the single changes that keep it: a placement, a change of
one order that moves it nowhere and does not reopen it, the loss of the row of a closed order,
and anything at a venue but its book.

Does not own: passes and runs, which are made of such changes.
-/

set_option autoImplicit false

namespace OrderKeeper

/-- Every open order has its row. -/
def OpenAreListed (state : State PaperMarket) : Prop :=
  ∀ order ∈ state.ledger.orders, order.isOpen = true → state.world.HasRowOf order

/-- The books have rows of the ledger's orders only, and of every open one.  The orders lie on
configured venues, under ids that the supply has given out. -/
structure InStep (ids : Nat → OrderId) (configured : List String) (state : State PaperMarket) :
    Prop where
  backed : state.world.Backed state.ledger.orders
  atVenues : ∀ order ∈ state.ledger.orders, ∀ place ∈ order.bookPlace?,
    place.label ∈ PaperMarket.venueNames configured
  openListed : OpenAreListed state
  numbered : ∀ order ∈ state.ledger.orders,
    ∃ number < state.world.ordersPlaced, order.id = ids number

/-- Two versions of an order have one id, one place in the books and one row. -/
structure Order.SameListing (first second : Order) : Prop where
  id : first.id = second.id
  place : first.bookPlace? = second.bookPlace?
  row : first.paperRow = second.paperRow

theorem Order.SameListing.refl (order : Order) : order.SameListing order :=
  ⟨rfl, rfl, rfl⟩

/-- An order on a venue is at the place of its venue order id there. -/
theorem Order.bookPlace?_of_isOn {order : Order} {label id : String}
    (isUpper : Text.upper label = label) (here : Symbol.isOn order.symbol label = true)
    (ownId : order.venueOrderId = some id) : order.bookPlace? = some ⟨label, id⟩ := by
  rw [Order.bookPlace?_eq_some_iff]
  refine ⟨?_, ownId⟩
  unfold Symbol.isOn at here
  cases named : Symbol.venue? order.symbol with
  | none => simp [named] at here
  | some suffix =>
      rw [named] at here
      exact ⟨suffix, named, ((Text.sameLetters_iff suffix label).mp here).trans isUpper⟩

theorem PaperMarket.hasRowOf_congr {before after : PaperMarket}
    (sameRows : ∀ place, after.rowAt? place = before.rowAt? place) {first second : Order}
    (samePlace : first.bookPlace? = second.bookPlace?) :
    after.HasRowOf first ↔ before.HasRowOf second := by
  unfold HasRowOf
  rw [samePlace]
  simp only [sameRows]

namespace InStep

variable {ids : Nat → OrderId} {configured : List String} {state : State PaperMarket}

theorem start (ids : Nat → OrderId) (configured : List String) :
    InStep ids configured { ledger := .empty, world := .ofNames configured } where
  backed := .start configured
  atVenues := fun _ impossible => nomatch impossible
  openListed := fun _ impossible => nomatch impossible
  numbered := fun _ impossible => nomatch impossible

/-- Every row is the row of exactly one order on its venue. -/
theorem row_owner (inStep : InStep ids configured state) {label : String} {row : ListedOrder}
    (listed : row ∈ (state.world.venueAt label).listing) :
    ∃ id, row.orderId = some id ∧
      ∃! order, order ∈ state.ledger.onVenue label ∧ order.venueOrderId = some id := by
  obtain ⟨id, found⟩ := (state.world.mem_listing_iff label row).mp listed
  obtain ⟨order, stored, atPlace, rfl⟩ := inStep.backed.rows ⟨label, id⟩ row found
  obtain ⟨⟨suffix, -, isLabel⟩, ownId⟩ := (order.bookPlace?_eq_some_iff ⟨label, id⟩).mp atPlace
  have sameLabel : Text.upper suffix = label := isLabel
  have isUpper : Text.upper label = label := sameLabel ▸ Text.upper_upper suffix
  have here := (Order.isOn_iff_of_bookPlace atPlace isUpper).mpr rfl
  refine ⟨id, ownId, order, ⟨List.mem_filter.mpr ⟨stored, here⟩, ownId⟩, ?_⟩
  rintro other ⟨isOther, otherId⟩
  obtain ⟨otherStored, otherHere⟩ := List.mem_filter.mp isOther
  have otherPlace := Order.bookPlace?_of_isOn isUpper otherHere otherId
  exact inStep.backed.eq_of_same_place otherStored stored (otherPlace.trans atPlace.symm)

/-! ## Placements -/

/-- An accepted ticket adds one order, with its row. -/
theorem accept (inStep : InStep ids configured state) (distinctIds : Function.Injective ids)
    {now : Instant} {ticket : OrderTicket} {after : State PaperMarket} {label : String}
    {order : Order}
    (accepts : PaperMarket.Accepts ids configured now ticket state after label order) :
    InStep ids configured after := by
  have orders := accepts.orders_of_numbered distinctIds inStep.numbered
  have eitherOf {property : Order → Prop} (old : ∀ other ∈ state.ledger.orders, property other)
      (new : property order) : ∀ other ∈ after.ledger.orders, property other := by
    intro other member
    rw [orders] at member
    rcases List.mem_append.mp member with isOld | isLast
    · exact old other isOld
    · rw [List.mem_singleton.mp isLast]
      exact new
  have rowKept {place : BookPlace} (held : (state.world.rowAt? place).isSome = true) :
      (after.world.rowAt? place).isSome = true := by
    rw [accepts.rowAt?]
    by_cases isPlace : order.bookPlace? = some place
    · rw [if_pos isPlace]
      rfl
    · rw [if_neg isPlace]
      exact held
  refine ⟨?_, eitherOf inStep.atVenues ?_, eitherOf ?_ ?_, eitherOf ?_ ?_⟩
  · rw [orders]
    exact inStep.backed.accept accepts
  · intro place atPlace
    rw [accepts.bookPlace] at atPlace
    cases atPlace
    exact accepts.isConfigured
  · intro other member isOpen
    obtain ⟨place, atPlace, held⟩ := inStep.openListed other member isOpen
    exact ⟨place, atPlace, rowKept held⟩
  · intro _
    refine ⟨_, accepts.bookPlace, ?_⟩
    rw [accepts.rowAt?, if_pos accepts.bookPlace]
    rfl
  · intro other member
    obtain ⟨number, below, otherId⟩ := inStep.numbered other member
    refine ⟨number, ?_, otherId⟩
    rw [accepts.counted]
    exact Nat.lt_succ_of_lt below
  · refine ⟨state.world.ordersPlaced, ?_, accepts.orderId⟩
    rw [accepts.counted]
    exact Nat.lt_succ_self _

theorem place (inStep : InStep ids configured state) (distinctIds : Function.Injective ids)
    (now : Instant) (ticket : OrderTicket) :
    InStep ids configured ((PaperMarket.broker ids configured).place now ticket state).2 := by
  rcases PaperMarket.refused_or_accepted ids configured now ticket state with
    ⟨cause, refused⟩ | ⟨label, order, after, accepted, accepts⟩
  · rw [refused]
    exact inStep
  · rw [accepted]
    exact inStep.accept distinctIds accepts

/-! ## Changes of orders -/

/-- Orders may change in anything but their ids, places and rows, if none is reopened. -/
theorem of_change (inStep : InStep ids configured state) {ledger : Ledger}
    {change : Order → Order} (orders : ledger.orders = state.ledger.orders.map change)
    (keeps : ∀ order, (change order).SameListing order)
    (opensNone : ∀ order, (change order).isOpen = true → order.isOpen = true) :
    InStep ids configured { state with ledger } := by
  have ofOld {property : Order → Prop}
      (old : ∀ order ∈ state.ledger.orders, property (change order)) :
      ∀ order ∈ ledger.orders, property order := by
    intro order member
    rw [orders] at member
    obtain ⟨before, beforeMember, rfl⟩ := List.mem_map.mp member
    exact old before beforeMember
  refine ⟨?_, ofOld ?_, ofOld ?_, ofOld ?_⟩
  · dsimp only
    rw [orders]
    exact inStep.backed.map (fun order => (keeps order).place) fun order => (keeps order).row
  · intro order member
    rw [(keeps order).place]
    exact inStep.atVenues order member
  · intro order member isOpen
    have listed := inStep.openListed order member (opensNone order isOpen)
    exact (PaperMarket.hasRowOf_congr (fun _ => rfl) (keeps order).place).mpr listed
  · intro order member
    rw [(keeps order).id]
    exact inStep.numbered order member

/-- One order may change so. -/
theorem of_change_at (inStep : InStep ids configured state) {ledger : Ledger} {id : OrderId}
    {change : Order → Order}
    (orders : ledger.orders =
      state.ledger.orders.map fun order => if order.id = id then change order else order)
    (keeps : ∀ order, (change order).SameListing order)
    (opensNone : ∀ order, (change order).isOpen = true → order.isOpen = true) :
    InStep ids configured { state with ledger } := by
  refine inStep.of_change orders (fun order => ?_) fun order => ?_
  · split
    · exact keeps order
    · exact .refl order
  · split
    · exact opensNone order
    · exact fun isOpen => isOpen

theorem close (inStep : InStep ids configured state) (now : Instant) (id : OrderId)
    (status : Status) :
    InStep ids configured { state with ledger := (state.ledger.close now id status).1 } := by
  refine inStep.of_change_at (state.ledger.close_orders now id status) (fun order => ?_)
    fun order => ?_
  · unfold Order.closed
    split
    · exact ⟨rfl, rfl, rfl⟩
    · exact .refl order
  · unfold Order.closed
    split
    · rename_i closes
      exact fun _ => (Bool.and_eq_true _ _ ▸ closes).1
    · exact fun isOpen => isOpen

theorem joinGroup (inStep : InStep ids configured state) (now : Instant) (id : OrderId)
    (group : String) :
    InStep ids configured { state with ledger := (state.ledger.joinGroup now id group).1 } :=
  inStep.of_change_at (state.ledger.joinGroup_orders now id group) (fun _ => ⟨rfl, rfl, rfl⟩)
    fun _ isOpen => isOpen

theorem link (inStep : InStep ids configured state) (now : Instant) (group : String)
    (first second : Receipt) :
    InStep ids configured
      { state with ledger := (linkPair now group first second state.ledger).2 } := by
  unfold linkPair
  split
  · exact inStep
  · split
    · exact inStep
    · exact (inStep.joinGroup now first.id group).joinGroup now second.id group

/-- Both legs of a pair are placed or refused, and linked if both are placed. -/
theorem placePair (inStep : InStep ids configured state) (distinctIds : Function.Injective ids)
    (now : Instant) (group : String) (first second : OrderTicket) :
    InStep ids configured
      (placePair (PaperMarket.broker ids configured).toBroker now group first second state).2 := by
  have both := (inStep.place distinctIds now first).place distinctIds now second
  unfold OrderKeeper.placePair
  dsimp only
  split
  · exact both
  · exact both
  · exact both.link now group _ _

/-! ## Changes at venues -/

/-- The venues may change in anything but their books, names and numbers. -/
theorem of_world (inStep : InStep ids configured state) {world : PaperMarket}
    (sameIds : ∀ label, (world.venueAt label).name = (state.world.venueAt label).name ∧
      (world.venueAt label).nextNumber = (state.world.venueAt label).nextNumber)
    (counted : world.ordersPlaced = state.world.ordersPlaced)
    (sameRows : ∀ place, world.rowAt? place = state.world.rowAt? place) :
    InStep ids configured { state with world } where
  backed := inStep.backed.of_fewer_rows sameIds fun place _ found => sameRows place ▸ found
  atVenues := inStep.atVenues
  openListed := fun order member isOpen =>
    (PaperMarket.hasRowOf_congr sameRows rfl).mpr (inStep.openListed order member isOpen)
  numbered := counted ▸ inStep.numbered

/-- One venue may change so. -/
theorem setVenue (inStep : InStep ids configured state) {label : String} {venue : PaperExchange}
    (sameBook : venue.book = (state.world.venueAt label).book)
    (sameName : venue.name = (state.world.venueAt label).name)
    (sameNumber : venue.nextNumber = (state.world.venueAt label).nextNumber) :
    InStep ids configured { state with world := state.world.setVenue label venue } := by
  refine inStep.of_world (fun other => ?_) rfl fun place => ?_
  · rw [PaperMarket.venueAt_setVenue]
    by_cases here : other = label
    · rw [if_pos here, here]
      exact ⟨sameName, sameNumber⟩
    · rw [if_neg here]
      exact ⟨rfl, rfl⟩
  · unfold PaperMarket.rowAt?
    rw [PaperMarket.venueAt_setVenue]
    by_cases here : place.label = label
    · rw [if_pos here, here, sameBook]
    · rw [if_neg here]

/-- A row may go if its order is closed. -/
theorem remove (inStep : InStep ids configured state) {place : BookPlace}
    (isClosed : ∀ order ∈ state.ledger.orders, order.bookPlace? = some place →
      order.isOpen = false) :
    InStep ids configured { state with world := state.world.remove place } where
  backed := inStep.backed.removeAll [place]
  atVenues := inStep.atVenues
  openListed := by
    intro order member isOpen
    obtain ⟨own, atOwn, held⟩ := inStep.openListed order member isOpen
    refine ⟨own, atOwn, ?_⟩
    have apart : own ≠ place := by
      intro same
      rw [isClosed order member (same ▸ atOwn)] at isOpen
      cases isOpen
    dsimp only
    rw [PaperMarket.rowAt?_remove, if_neg apart]
    exact held
  numbered := inStep.numbered

end InStep

end OrderKeeper
