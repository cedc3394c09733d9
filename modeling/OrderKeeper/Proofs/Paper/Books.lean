import OrderKeeper.Proofs.Order.Symbol
import OrderKeeper.Proofs.Paper.Accepted
import OrderKeeper.Proofs.Text.Numeral

/-!
Contract: the books of paper venues and the orders that their rows are about.

Owns: the place of an order in the books, the removal of rows, the row that an accepted ticket
enters, the books whose rows are backed by orders and those that are backed by a ledger, with
the changes that keep them so.

Does not own: what a pass makes of the rows.
-/

set_option autoImplicit false

namespace OrderKeeper

/-! ## Places -/

/-- A place in the books of a market. -/
structure BookPlace where
  label : String
  venueOrderId : String
deriving DecidableEq

namespace Order

/-- The place of an order that has a venue order id and lies on a venue. -/
def bookPlace? (order : Order) : Option BookPlace :=
  match order.venue?, order.venueOrderId with
  | some suffix, some id => some ⟨Text.upper suffix, id⟩
  | _, _ => none

theorem bookPlace?_eq_some_iff (order : Order) (place : BookPlace) :
    order.bookPlace? = some place ↔
      (∃ suffix, order.venue? = some suffix ∧ Text.upper suffix = place.label) ∧
        order.venueOrderId = some place.venueOrderId := by
  obtain ⟨label, id⟩ := place
  unfold bookPlace?
  cases order.venue? <;> cases order.venueOrderId <;> simp

def IsAtOneOf (places : List BookPlace) (order : Order) : Prop :=
  ∃ place ∈ order.bookPlace?, place ∈ places

instance (places : List BookPlace) (order : Order) : Decidable (order.IsAtOneOf places) :=
  inferInstanceAs (Decidable (∃ place ∈ order.bookPlace?, place ∈ places))

theorem isAtOneOf_iff (order : Order) {place : BookPlace}
    (atPlace : order.bookPlace? = some place) (places : List BookPlace) :
    order.IsAtOneOf places ↔ place ∈ places := by
  unfold IsAtOneOf
  rw [atPlace]
  simp

/-- An order lies on the venue of its place and on no other one in upper case. -/
theorem isOn_iff_of_bookPlace {order : Order} {place : BookPlace}
    (atPlace : order.bookPlace? = some place) {label : String}
    (isUpper : Text.upper label = label) :
    Symbol.isOn order.symbol label = true ↔ label = place.label := by
  obtain ⟨⟨suffix, named, sameLabel⟩, -⟩ := (order.bookPlace?_eq_some_iff place).mp atPlace
  have ownSuffix : Symbol.venue? order.symbol = some suffix := named
  unfold Symbol.isOn
  rw [ownSuffix]
  dsimp only
  rw [Text.sameLetters_iff, sameLabel, isUpper, eq_comm]

end Order

theorem PaperExchange.orderIdAt_inj {venue : PaperExchange} {first second : Nat}
    (same : venue.orderIdAt first = venue.orderIdAt second) : first = second := by
  have letters := congrArg String.toList same
  simp only [orderIdAt, String.toList_append, String.toList_ofList] at letters
  exact Text.numeral_inj (List.append_cancel_left letters)

namespace PaperMarket

/-! ## Rows -/

def rowAt? (market : PaperMarket) (place : BookPlace) : Option ListedOrder :=
  (market.venueAt place.label).book.get? place.venueOrderId

/-- There is a row at the place of an order. -/
def HasRowOf (market : PaperMarket) (order : Order) : Prop :=
  ∃ place ∈ order.bookPlace?, (market.rowAt? place).isSome = true

instance (market : PaperMarket) (order : Order) : Decidable (market.HasRowOf order) :=
  inferInstanceAs (Decidable (∃ place ∈ order.bookPlace?, (market.rowAt? place).isSome = true))

theorem hasRowOf_iff {market : PaperMarket} {order : Order} {place : BookPlace}
    (atPlace : order.bookPlace? = some place) :
    market.HasRowOf order ↔ (market.rowAt? place).isSome = true := by
  unfold HasRowOf
  rw [atPlace]
  simp

theorem mem_listing_iff (market : PaperMarket) (label : String) (row : ListedOrder) :
    row ∈ (market.venueAt label).listing ↔ ∃ id, market.rowAt? ⟨label, id⟩ = some row := by
  unfold rowAt? PaperExchange.listing Dictionary.values
  simp only [Dictionary.get?_eq_some_iff, List.mem_map, Prod.exists, exists_eq_right]

theorem venueAt_ofNames (configured : List String) (label : String) :
    ((ofNames configured).venueAt label).book = Dictionary.empty ∧
      ((ofNames configured).venueAt label).failing = false := by
  unfold venueAt ofNames
  cases entered : (Dictionary.ofList ((venueNames configured).map fun name =>
      (name, PaperExchange.create name))).get? label with
  | none => exact ⟨rfl, rfl⟩
  | some venue =>
      obtain ⟨name, -, sameEntry⟩ := List.mem_map.mp (Dictionary.mem_of_get?_ofList entered)
      have isCreated : PaperExchange.create name = venue := congrArg Prod.snd sameEntry
      rw [← isCreated]
      exact ⟨rfl, rfl⟩

/-- Takes away the row of a place. -/
def remove (market : PaperMarket) (place : BookPlace) : PaperMarket :=
  market.setVenue place.label ((market.venueAt place.label).delist place.venueOrderId).1

def removeAll (market : PaperMarket) (places : List BookPlace) : PaperMarket :=
  places.foldl remove market

theorem rowAt?_remove (market : PaperMarket) (place other : BookPlace) :
    (market.remove place).rowAt? other = if other = place then none else market.rowAt? other := by
  obtain ⟨label, id⟩ := place
  obtain ⟨otherLabel, otherId⟩ := other
  unfold rowAt? remove
  rw [venueAt_setVenue]
  by_cases sameLabel : otherLabel = label
  · simp [sameLabel, PaperExchange.delist, Dictionary.get?_erase]
  · simp [sameLabel]

theorem rowAt?_removeAll (market : PaperMarket) (places : List BookPlace) (other : BookPlace) :
    (market.removeAll places).rowAt? other =
      if other ∈ places then none else market.rowAt? other := by
  induction places generalizing market with
  | nil => simp [removeAll]
  | cons place rest inductionHypothesis =>
      refine (inductionHypothesis (market.remove place)).trans ?_
      rw [rowAt?_remove]
      by_cases later : other ∈ rest
      · simp [later]
      · by_cases same : other = place <;> simp [later, same]

/-- Removals take the rows of the orders at their places and no others. -/
theorem hasRowOf_removeAll (market : PaperMarket) (places : List BookPlace) (order : Order) :
    (market.removeAll places).HasRowOf order ↔
      market.HasRowOf order ∧ ¬order.IsAtOneOf places := by
  cases atPlace : order.bookPlace? with
  | none => simp [HasRowOf, atPlace]
  | some place =>
      rw [hasRowOf_iff atPlace, hasRowOf_iff atPlace, order.isAtOneOf_iff atPlace,
        rowAt?_removeAll]
      by_cases removed : place ∈ places <;> simp [removed]

/-- Two markets differ in nothing but the books of their venues. -/
def DiffersInBooks (before after : PaperMarket) : Prop :=
  ∀ label, after.venueAt label =
    { before.venueAt label with book := (after.venueAt label).book }

namespace DiffersInBooks

variable {before middle after : PaperMarket}

theorem refl (market : PaperMarket) : DiffersInBooks market market := fun _ => rfl

theorem trans (first : DiffersInBooks before middle) (second : DiffersInBooks middle after) :
    DiffersInBooks before after := by
  intro label
  rw [second label, first label]

theorem failing (differs : DiffersInBooks before after) (label : String) :
    (after.venueAt label).failing = (before.venueAt label).failing := by
  rw [differs label]

/-- The venues have the same names and will give out the same ids. -/
theorem sameIds (differs : DiffersInBooks before after) (label : String) :
    (after.venueAt label).name = (before.venueAt label).name ∧
      (after.venueAt label).nextNumber = (before.venueAt label).nextNumber := by
  rw [differs label]
  exact ⟨rfl, rfl⟩

end DiffersInBooks

theorem differsInBooks_remove (market : PaperMarket) (place : BookPlace) :
    DiffersInBooks market (market.remove place) := by
  intro label
  unfold remove
  rw [venueAt_setVenue]
  by_cases same : label = place.label
  · rw [if_pos same, same]
    rfl
  · rw [if_neg same]

theorem differsInBooks_removeAll (market : PaperMarket) (places : List BookPlace) :
    DiffersInBooks market (market.removeAll places) := by
  induction places generalizing market with
  | nil => exact DiffersInBooks.refl market
  | cons place rest inductionHypothesis =>
      exact (differsInBooks_remove market place).trans (inductionHypothesis (market.remove place))

/-- A venue that fails refuses a cancel and stays as it is. -/
theorem cancel_of_failing (market : PaperMarket) {label : String}
    (failing : (market.venueAt label).failing = true) (id symbol : String) :
    (slot label).gateway.cancel id symbol market =
      (.error (PaperExchange.unreachable (market.venueAt label).name),
        market.setVenue label (market.venueAt label)) := by
  have answered : (market.venueAt label).answerCancel id =
      (market.venueAt label, .error (PaperExchange.unreachable (market.venueAt label).name)) :=
    if_pos failing
  show (((market.venueAt label).answerCancel id).2,
    market.setVenue label ((market.venueAt label).answerCancel id).1) = _
  rw [answered]

/-- A venue that does not fail takes the row of a canceled order away, if there is one. -/
theorem cancel_of_reachable (market : PaperMarket) {label : String}
    (reachable : (market.venueAt label).failing = false) (id symbol : String) :
    (slot label).gateway.cancel id symbol market =
      (match market.rowAt? ⟨label, id⟩ with
        | some _ => .ok ()
        | none => .error (.api ("unknown order " ++ id)),
      market.remove ⟨label, id⟩) := by
  have answered : (market.venueAt label).answerCancel id =
      (((market.venueAt label).delist id).1,
        match market.rowAt? ⟨label, id⟩ with
        | some _ => .ok ()
        | none => .error (.api ("unknown order " ++ id))) := by
    unfold PaperExchange.answerCancel PaperExchange.delist rowAt?
    rw [reachable, if_neg Bool.false_ne_true]
    cases (market.venueAt label).book.get? id <;> rfl
  show (((market.venueAt label).answerCancel id).2,
    market.setVenue label ((market.venueAt label).answerCancel id).1) = _
  rw [answered]
  rfl

/-! ## Accepted tickets -/

namespace Accepts

variable {ids : Nat → OrderId} {configured : List String} {now : Instant} {ticket : OrderTicket}
  {before after : State PaperMarket} {label : String} {order : Order}

theorem bookPlace (accepts : Accepts ids configured now ticket before after label order) :
    order.bookPlace? = some
      ⟨label, (before.world.venueAt label).orderIdAt (before.world.venueAt label).nextNumber⟩ := by
  obtain ⟨suffix, named, sameLabel⟩ := accepts.named
  rw [Order.bookPlace?_eq_some_iff, accepts.isOrder]
  exact ⟨⟨suffix, named, sameLabel⟩, rfl⟩

/-- The row of the order is entered, and every other row is left. -/
theorem rowAt? (accepts : Accepts ids configured now ticket before after label order)
    (place : BookPlace) :
    after.world.rowAt? place =
      if order.bookPlace? = some place then some order.paperRow else before.world.rowAt? place := by
  obtain ⟨other, id⟩ := place
  have entered : order.paperRow.orderId = some
      ((before.world.venueAt label).orderIdAt (before.world.venueAt label).nextNumber) :=
    accepts.venueOrderId
  unfold PaperMarket.rowAt?
  dsimp only
  rw [accepts.venues]
  simp only [accepts.bookPlace, Option.some.injEq, BookPlace.mk.injEq]
  by_cases here : other = label
  · rw [if_pos here, here]
    unfold PaperExchange.listOrder
    rw [entered]
    simp [PaperExchange.takeOrderId, Dictionary.get?_insert, eq_comm]
  · rw [if_neg here]
    simp [Ne.symm here]

end Accepts

/-! ## Backed books -/

/-- Every row is the row of an order at its place, and the orders are at distinct places, under
ids that their venues have given out. -/
structure Backed (market : PaperMarket) (orders : List Order) : Prop where
  rows : ∀ place row, market.rowAt? place = some row →
    ∃ order ∈ orders, order.bookPlace? = some place ∧ row = order.paperRow
  numbered : ∀ order ∈ orders, ∃ label number,
    number < (market.venueAt label).nextNumber ∧
      order.bookPlace? = some ⟨label, (market.venueAt label).orderIdAt number⟩
  apart : (orders.map Order.bookPlace?).Nodup

namespace Backed

variable {market : PaperMarket} {orders : List Order}

theorem start (configured : List String) : Backed (ofNames configured) [] := by
  refine ⟨fun place row found => ?_, fun order member => (nomatch member), List.nodup_nil⟩
  unfold rowAt? at found
  rw [(venueAt_ofNames configured place.label).1] at found
  cases found

theorem exists_place (backed : market.Backed orders) {order : Order} (member : order ∈ orders) :
    ∃ place, order.bookPlace? = some place := by
  obtain ⟨label, number, -, atPlace⟩ := backed.numbered order member
  exact ⟨_, atPlace⟩

theorem eq_of_same_place (backed : market.Backed orders) {first second : Order}
    (firstMember : first ∈ orders) (secondMember : second ∈ orders)
    (same : first.bookPlace? = second.bookPlace?) : first = second :=
  List.inj_on_of_nodup_map backed.apart firstMember secondMember same

/-- Orders are at the places of some of them only if they are among these. -/
theorem isAtOneOf_iff (backed : market.Backed orders) {order : Order} (member : order ∈ orders)
    {others : List Order} (stored : ∀ other ∈ others, other ∈ orders) :
    order.IsAtOneOf (others.filterMap Order.bookPlace?) ↔ order ∈ others := by
  obtain ⟨place, atPlace⟩ := backed.exists_place member
  rw [order.isAtOneOf_iff atPlace, List.mem_filterMap]
  constructor
  · rintro ⟨other, isOther, otherPlace⟩
    rw [backed.eq_of_same_place member (stored other isOther) (atPlace.trans otherPlace.symm)]
    exact isOther
  · intro isOther
    exact ⟨order, isOther, atPlace⟩

/-- The row at the place of an order is that order's. -/
theorem row_eq (backed : market.Backed orders) {order : Order} (member : order ∈ orders)
    {place : BookPlace} (atPlace : order.bookPlace? = some place) {row : ListedOrder}
    (found : market.rowAt? place = some row) : row = order.paperRow := by
  obtain ⟨other, otherMember, otherPlace, isRow⟩ := backed.rows place row found
  rw [isRow, backed.eq_of_same_place otherMember member (otherPlace.trans atPlace.symm)]

/-- Books stay backed while rows are taken away and venues keep their names and numbers. -/
theorem of_fewer_rows (backed : market.Backed orders) {after : PaperMarket}
    (sameIds : ∀ label, (after.venueAt label).name = (market.venueAt label).name ∧
      (after.venueAt label).nextNumber = (market.venueAt label).nextNumber)
    (fewer : ∀ place row, after.rowAt? place = some row → market.rowAt? place = some row) :
    after.Backed orders := by
  refine ⟨fun place row found => backed.rows place row (fewer place row found), ?_, backed.apart⟩
  intro order member
  obtain ⟨label, number, below, atPlace⟩ := backed.numbered order member
  refine ⟨label, number, ?_, ?_⟩
  · rw [(sameIds label).2]
    exact below
  · rw [atPlace, PaperExchange.orderIdAt, PaperExchange.orderIdAt, (sameIds label).1]

theorem removeAll (backed : market.Backed orders) (places : List BookPlace) :
    (market.removeAll places).Backed orders := by
  refine backed.of_fewer_rows (differsInBooks_removeAll market places).sameIds
    fun place row found => ?_
  rw [rowAt?_removeAll] at found
  by_cases removed : place ∈ places
  · rw [if_pos removed] at found
    cases found
  · rwa [if_neg removed] at found

/-- Books stay backed while their orders keep their places and rows. -/
theorem map (backed : market.Backed orders) {change : Order → Order}
    (keepsPlace : ∀ order, (change order).bookPlace? = order.bookPlace?)
    (keepsRow : ∀ order, (change order).paperRow = order.paperRow) :
    market.Backed (orders.map change) := by
  refine ⟨?_, ?_, ?_⟩
  · intro place row found
    obtain ⟨order, member, atPlace, isRow⟩ := backed.rows place row found
    exact ⟨change order, List.mem_map_of_mem member, (keepsPlace order).trans atPlace,
      isRow.trans (keepsRow order).symm⟩
  · intro changed member
    obtain ⟨order, orderMember, rfl⟩ := List.mem_map.mp member
    rw [keepsPlace]
    exact backed.numbered order orderMember
  · rw [List.map_map]
    have sameKey : Order.bookPlace? ∘ change = Order.bookPlace? := funext keepsPlace
    rw [sameKey]
    exact backed.apart

/-- An accepted ticket leaves the books backed by its order and the others. -/
theorem accept {ids : Nat → OrderId} {configured : List String} {now : Instant}
    {ticket : OrderTicket} {before after : State PaperMarket} {label : String} {order : Order}
    (backed : before.world.Backed orders)
    (accepts : Accepts ids configured now ticket before after label order) :
    after.world.Backed (orders ++ [order]) := by
  have idsKept (other : String) (number : Nat) :
      (after.world.venueAt other).orderIdAt number =
        (before.world.venueAt other).orderIdAt number := by
    unfold PaperExchange.orderIdAt
    rw [(accepts.venue_kept other).1]
  refine ⟨?_, ?_, ?_⟩
  · intro place row found
    rw [accepts.rowAt?] at found
    by_cases isNew : order.bookPlace? = some place
    · rw [if_pos isNew] at found
      exact ⟨order, List.mem_append_right orders List.mem_cons_self, isNew,
        (Option.some.inj found).symm⟩
    · rw [if_neg isNew] at found
      obtain ⟨old, member, atPlace, isRow⟩ := backed.rows place row found
      exact ⟨old, List.mem_append_left [order] member, atPlace, isRow⟩
  · intro other member
    rcases List.mem_append.mp member with old | isLast
    · obtain ⟨venue, number, below, atPlace⟩ := backed.numbered other old
      refine ⟨venue, number, ?_, ?_⟩
      · rw [(accepts.venue_kept venue).2.2]
        exact Nat.lt_add_right _ below
      · rw [idsKept]
        exact atPlace
    · rw [List.mem_singleton.mp isLast]
      refine ⟨label, (before.world.venueAt label).nextNumber, ?_, ?_⟩
      · rw [(accepts.venue_kept label).2.2, if_pos rfl]
        exact Nat.lt_succ_self _
      · rw [idsKept]
        exact accepts.bookPlace
  · rw [List.map_append, List.nodup_append]
    refine ⟨backed.apart, List.nodup_singleton _, ?_⟩
    -- The number of the new order is above those of all earlier ones of its venue.
    intro place isOld newPlace isNew same
    obtain ⟨old, member, rfl⟩ := List.mem_map.mp isOld
    rw [List.map_cons, List.map_nil, List.mem_singleton] at isNew
    obtain ⟨venue, number, below, atPlace⟩ := backed.numbered old member
    rw [isNew, accepts.bookPlace, atPlace, Option.some.injEq, BookPlace.mk.injEq] at same
    obtain ⟨rfl, sameId⟩ := same
    have sameNumber := PaperExchange.orderIdAt_inj sameId
    omega

end Backed

end PaperMarket

/-! ## Books of a ledger -/

/-- The books of the venues have rows of the ledger's orders only, each at a configured venue,
and every venue can be reached. -/
structure OnBooks (configured : List String) (state : State PaperMarket) : Prop where
  backed : state.world.Backed state.ledger.orders
  atVenues : ∀ order ∈ state.ledger.orders, ∀ place ∈ order.bookPlace?,
    place.label ∈ PaperMarket.venueNames configured
  reachable : ∀ label, (state.world.venueAt label).failing = false

namespace OnBooks

variable {configured : List String} {state : State PaperMarket}

theorem start (configured : List String) :
    OnBooks configured { ledger := .empty, world := .ofNames configured } where
  backed := .start configured
  atVenues := fun _ impossible => nomatch impossible
  reachable := fun label => (PaperMarket.venueAt_ofNames configured label).2

/-- Orders may change in anything but their places and rows, and rows may go. -/
theorem of_changes (onBooks : OnBooks configured state) {after : State PaperMarket}
    {change : Order → Order} (orders : after.ledger.orders = state.ledger.orders.map change)
    (keepsPlace : ∀ order, (change order).bookPlace? = order.bookPlace?)
    (keepsRow : ∀ order, (change order).paperRow = order.paperRow) {places : List BookPlace}
    (world : after.world = state.world.removeAll places) : OnBooks configured after := by
  have differs := PaperMarket.differsInBooks_removeAll state.world places
  refine ⟨?_, ?_, fun label => ?_⟩
  · rw [orders, world]
    exact (onBooks.backed.removeAll places).map keepsPlace keepsRow
  · intro order member
    rw [orders] at member
    obtain ⟨before, beforeMember, rfl⟩ := List.mem_map.mp member
    rw [keepsPlace]
    exact onBooks.atVenues before beforeMember
  · rw [world, differs.failing]
    exact onBooks.reachable label

end OnBooks

end OrderKeeper
