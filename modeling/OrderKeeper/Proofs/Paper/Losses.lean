import OrderKeeper.Proofs.Paper.Listings
import OrderKeeper.Proofs.Paper.Watch

/-!
Contract: passes over venues that have lost rows of the ledger's orders.

Owns: the ledgers whose orders are all that the books have rows of, the orders that a pass over
the venues fills, the quiet of one if no row is lost, and the siblings that a pass over the
pairs cancels.

Does not own: what both passes together make of a pair.
-/

set_option autoImplicit false

namespace OrderKeeper

/-- An order after a pass over its venue: filled if it was open and has no row. -/
def Order.afterLoss (market : PaperMarket) (now : Instant) (order : Order) : Order :=
  if order.isOpen = true ∧ ¬market.HasRowOf order then
    { order with status := .filled, updatedAt := now }
  else order

/-- A loss reaches nothing but the status of an order and its time. -/
theorem Order.afterLoss_keeps {α : Type} (field : Order → α)
    (apart : ∀ order status now, field { order with status, updatedAt := now } = field order)
    (market : PaperMarket) (now : Instant) (order : Order) :
    field (order.afterLoss market now) = field order := by
  unfold afterLoss
  split
  · exact apart order .filled now
  · rfl

/-- What is still open after the losses was open before and has its row. -/
theorem mem_afterLoss_iff {market : PaperMarket} {orders : List Order} {order : Order}
    (isOpen : order.isOpen = true) (now : Instant) :
    order ∈ orders.map (Order.afterLoss market now) ↔ order ∈ orders ∧ market.HasRowOf order := by
  rw [List.mem_map]
  constructor
  · rintro ⟨old, member, rfl⟩
    unfold Order.afterLoss at isOpen ⊢
    by_cases lost : old.isOpen = true ∧ ¬market.HasRowOf old
    · rw [if_pos lost] at isOpen
      cases isOpen
    · rw [if_neg lost] at isOpen ⊢
      exact ⟨member, by simpa [isOpen] using lost⟩
  · rintro ⟨member, hasRow⟩
    exact ⟨order, member, if_neg fun lost => lost.2 hasRow⟩

section Books

variable {configured : List String} {state : State PaperMarket}

theorem OnBooks.isListedOn (onBooks : OnBooks configured state) {order : Order}
    (member : order ∈ state.ledger.orders) (hasRow : state.world.HasRowOf order) :
    ∃ place, IsListedOn configured state.world order place := by
  obtain ⟨place, atPlace, listed⟩ := hasRow
  exact ⟨place, atPlace, onBooks.atVenues order member place atPlace, onBooks.reachable _, listed⟩

/-! ## A pass over the venues -/

/-- The book of a venue as a listing. -/
def PaperMarket.bookOf (market : PaperMarket) (label : String) : VenueListing where
  venue := label
  rows := (market.venueAt label).listing

/-- The books of the configured venues, in the order of a pass. -/
def PaperMarket.books (market : PaperMarket) (configured : List String) : List VenueListing :=
  (PaperMarket.directory configured).keys.map market.bookOf

variable (trimmed : PaperMarket.AreTrimmed configured)

include trimmed in
theorem OnBooks.books_known (onBooks : OnBooks configured state) :
    ∀ listing ∈ state.world.books configured,
      state.ledger.Knows listing.venue listing.rows := by
  intro listing member
  obtain ⟨label, isKey, rfl⟩ := List.mem_map.mp member
  have isName := (PaperMarket.mem_keys_directory trimmed label).mp isKey
  exact onBooks.backed.knows (PaperMarket.label_of_trimmed trimmed isName).1

include trimmed in
/-- Some book misses an order exactly if the order is open and has no row. -/
theorem OnBooks.missing_iff (onBooks : OnBooks configured state) {order : Order}
    (member : order ∈ state.ledger.orders) :
    (∃ listing ∈ state.world.books configured, order.IsMissing listing.venue listing.rows) ↔
      order.isOpen = true ∧ ¬state.world.HasRowOf order := by
  constructor
  · rintro ⟨_, isBook, missing⟩
    obtain ⟨label, isKey, rfl⟩ := List.mem_map.mp isBook
    have isName := (PaperMarket.mem_keys_directory trimmed label).mp isKey
    have isUpper := (PaperMarket.label_of_trimmed trimmed isName).1
    obtain ⟨isOpen, -, noRow⟩ := (onBooks.backed.isMissing_iff member isUpper).mp missing
    exact ⟨isOpen, noRow⟩
  · rintro ⟨isOpen, noRow⟩
    obtain ⟨place, atPlace⟩ := onBooks.backed.exists_place member
    have isName := onBooks.atVenues order member place atPlace
    have isUpper := (PaperMarket.label_of_trimmed trimmed isName).1
    have isKey := (PaperMarket.mem_keys_directory trimmed place.label).mpr isName
    refine ⟨state.world.bookOf place.label, List.mem_map_of_mem isKey, ?_⟩
    refine (onBooks.backed.isMissing_iff member isUpper).mpr ⟨isOpen, ?_, noRow⟩
    exact (Order.isOn_iff_of_bookPlace atPlace isUpper).mpr rfl

include trimmed in
/-- A pass over the venues applies their books. -/
theorem OnBooks.reconcileAll_eq (onBooks : OnBooks configured state) (policy : AbsencePolicy)
    (now : Instant) :
    let applied := applyAnswers policy now
      ((state.world.books configured).map VenueListing.answer) state.ledger
    reconcileAll (PaperMarket.directory configured) policy now state =
      ({ ledger := applied.1, world := state.world }, ReconcileSummary.empty.addAll applied.2) := by
  have asBooks : (PaperMarket.directory configured).keys.map state.world.listingOf =
      (state.world.books configured).map VenueListing.answer := by
    unfold PaperMarket.books
    rw [List.map_map]
    rfl
  rw [← asBooks]
  exact reconcileAll_on_paper trimmed (fun label _ => onBooks.reachable label) policy now

include trimmed in
/-- A pass over the venues fills the open orders that have no row, and does nothing else. -/
theorem OnBooks.reconcile_fills (onBooks : OnBooks configured state) (now : Instant) :
    let pass := reconcileAll (PaperMarket.directory configured) .assumeFilled now state
    pass.1.ledger.orders = state.ledger.orders.map (Order.afterLoss state.world now) ∧
      pass.1.world = state.world := by
  intro pass
  have isPass : pass = _ := onBooks.reconcileAll_eq trimmed .assumeFilled now
  rw [isPass]
  refine ⟨?_, rfl⟩
  dsimp only
  rw [applyAnswers_of_known .assumeFilled now (onBooks.books_known trimmed)]
  refine List.map_congr_left fun order member => ?_
  have missing := onBooks.missing_iff trimmed member
  unfold Order.afterLoss
  by_cases lost : order.isOpen = true ∧ ¬state.world.HasRowOf order
  · rw [if_pos lost]
    exact Order.settledBy_of_missing .assumeFilled now rfl (missing.mpr lost)
  · rw [if_neg lost]
    exact Order.settledBy_of_present .assumeFilled now fun listing isBook isMissing =>
      lost (missing.mp ⟨listing, isBook, isMissing⟩)

include trimmed in
/-- A pass over the venues does nothing if every open order has its row. -/
theorem OnBooks.reconcile_quiet (onBooks : OnBooks configured state) (listed : OpenAreListed state)
    (policy : AbsencePolicy) (now : Instant) :
    let pass := reconcileAll (PaperMarket.directory configured) policy now state
    pass.1 = state ∧ pass.2.imported = 0 ∧ pass.2.closed = 0 := by
  obtain ⟨same, imported, closed, -⟩ :=
    reconcileAll_finds_nothing trimmed onBooks.backed listed policy now
  exact ⟨same, imported, closed⟩

/-! ## A pass over the pairs -/

include trimmed in
/-- A pass over the pairs cancels the open siblings of filled legs, whose rows go, and does
nothing else. -/
theorem OnBooks.watch_cancels (onBooks : OnBooks configured state) (listed : OpenAreListed state)
    (now : Instant) :
    let siblings := state.ledger.brokenPairs.map BrokenPair.sibling
    let pass := watchOnce (PaperMarket.directory configured) now state
    pass.1.ledger.orders =
        state.ledger.orders.map (Order.afterCancels now (allCanceled siblings)) ∧
      pass.1.world = state.world.withoutRowsOf siblings := by
  intro siblings pass
  have isSibling (pair : BrokenPair) (member : pair ∈ state.ledger.brokenPairs) :
      pair.sibling ∈ state.ledger.orders ∧ pair.sibling.isOpen = true := by
    have isMember := (state.ledger.mem_siblings_iff pair.sibling).mp (List.mem_map_of_mem member)
    obtain ⟨stored, sibling⟩ := List.mem_filter.mp isMember
    exact ⟨stored, (of_decide_eq_true sibling).1⟩
  have areListed : ∀ pair ∈ state.ledger.brokenPairs,
      ∃ place, IsListedOn configured state.world pair.sibling place := by
    intro pair member
    obtain ⟨stored, isOpen⟩ := isSibling pair member
    exact onBooks.isListedOn stored (listed pair.sibling stored isOpen)
  have areBroken : ∀ pair ∈ state.ledger.brokenPairs, ∃ group, state.ledger.Breaks group pair := by
    intro pair member
    obtain ⟨group, -, breaks⟩ := (state.ledger.mem_brokenPairs pair).mp member
    exact ⟨group, breaks⟩
  have apart : (state.ledger.brokenPairs.map fun pair => pair.sibling.bookPlace?).Nodup := by
    have distinct : (siblings.map Order.bookPlace?).Nodup := by
      refine state.ledger.siblings_nodup.map_on fun first isFirst second isSecond same => ?_
      obtain ⟨pair, member, rfl⟩ := List.mem_map.mp isFirst
      obtain ⟨other, otherMember, rfl⟩ := List.mem_map.mp isSecond
      exact onBooks.backed.eq_of_same_place (isSibling pair member).1
        (isSibling other otherMember).1 same
    rwa [List.map_map] at distinct
  have nothingYet : state.ledger.orders =
      state.ledger.orders.map (Order.afterCancels now (allCanceled [])) :=
    ((List.map_congr_left fun order _ => order.afterCancels_nil now).trans
      (List.map_id' state.ledger.orders)).symm
  have isPass : pass.1 = _ := (watchOnce_eq (PaperMarket.directory configured) now state).1
  rw [isPass]
  exact cancelSiblings_on_paper trimmed areBroken areListed apart nothingYet

end Books

end OrderKeeper
