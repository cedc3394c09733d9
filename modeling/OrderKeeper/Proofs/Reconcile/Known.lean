import OrderKeeper.Proofs.Reconcile.Answers
import OrderKeeper.Proofs.Reconcile.Stability

/-!
Contract: listings of which the ledger knows every row.

Owns: such listings, applied one by one and in a row: they import nothing, close the orders
that are missing from one of them, and change nothing if no order is.

Does not own: how a ledger comes to know the rows.
-/

set_option autoImplicit false

namespace OrderKeeper

/-- Every row has an id that an order on the venue carries. -/
def Ledger.Knows (ledger : Ledger) (venue : String) (rows : List ListedOrder) : Prop :=
  ∀ row ∈ rows, ∃ id, row.orderId = some id ∧ ledger.Carries venue id

/-- The listing of a venue. -/
structure VenueListing where
  venue : String
  rows : List ListedOrder

def VenueListing.answer (listing : VenueListing) : String × ListingAnswer :=
  (listing.venue, .ok listing.rows)

/-- An order after listings one after the other. -/
def Order.settledBy (policy : AbsencePolicy) (now : Instant) (listings : List VenueListing)
    (order : Order) : Order :=
  listings.foldl (fun order listing => order.settled policy now listing.venue listing.rows) order

section Known

variable (policy : AbsencePolicy) (now : Instant) {venue : String} {rows : List ListedOrder}
  {ledger : Ledger}

theorem Ledger.Knows.unknownRows (known : ledger.Knows venue rows) :
    ledger.unknownRows venue rows = [] := by
  unfold Ledger.unknownRows
  rw [List.filter_eq_nil_iff]
  intro row member unknown
  obtain ⟨id, rowId, carried⟩ := known row (mem_of_mem_lastRows member)
  exact (of_decide_eq_true unknown id rowId).1 carried

theorem Ledger.Knows.countWithoutId (known : ledger.Knows venue rows) :
    countWithoutId rows = 0 := by
  apply countWithoutId_of_ids
  intro row member noId
  obtain ⟨id, rowId, -⟩ := known row member
  rw [noId] at rowId
  cases rowId

/-- What a ledger knows depends on the places of its orders alone. -/
theorem Ledger.Knows.of_settled (known : ledger.Knows venue rows) {after : Ledger}
    {change : Order → Order} (orders : after.orders = ledger.orders.map change)
    (keepsSymbol : ∀ order, (change order).symbol = order.symbol)
    (keepsId : ∀ order, (change order).venueOrderId = order.venueOrderId) :
    after.Knows venue rows := by
  intro row member
  obtain ⟨id, rowId, order, orderMember, ownId⟩ := known row member
  obtain ⟨stored, here⟩ := (ledger.mem_onVenue venue order).mp orderMember
  refine ⟨id, rowId, change order, (after.mem_onVenue venue _).mpr ⟨?_, ?_⟩, ?_⟩
  · rw [orders]
    exact List.mem_map_of_mem stored
  · rw [keepsSymbol]
    exact here
  · rw [keepsId]
    exact ownId

/-- A listing of known rows closes the missing orders and does nothing else. -/
theorem alignWithListing_of_known (known : ledger.Knows venue rows) :
    let aligned := alignWithListing policy now venue rows ledger
    aligned.1 = ledger.afterCloses policy now venue rows ∧ aligned.2.imported = 0 ∧
      aligned.2.malformed = 0 := by
  obtain ⟨taken, perm, rounds⟩ := alignWithListing_eq policy now venue rows ledger
  rw [known.unknownRows] at perm
  intro aligned
  have isAligned : aligned = _ := rounds
  rw [isAligned, perm.eq_nil, known.countWithoutId]
  exact ⟨rfl, rfl, rfl⟩

/-- A listing of known rows from which no order is missing changes nothing. -/
theorem alignWithListing_of_current (known : ledger.Knows venue rows)
    (noneMissing : ∀ order ∈ ledger.orders, ¬order.IsMissing venue rows) :
    alignWithListing policy now venue rows ledger = (ledger, ⟨0, 0, 0⟩) := by
  have aligned : ledger.AlignedWith policy venue rows := by
    refine ⟨fun _ => noneMissing, fun later => ?_⟩
    rw [known.unknownRows]
    rfl
  rw [alignWithListing_of_aligned aligned, known.unknownRows, known.countWithoutId]
  rfl

end Known

section Listings

variable (policy : AbsencePolicy) (now : Instant) {listings : List VenueListing} {ledger : Ledger}

/-- Listings of known rows settle every order. -/
theorem applyAnswers_of_known
    (known : ∀ listing ∈ listings, ledger.Knows listing.venue listing.rows) :
    (applyAnswers policy now (listings.map VenueListing.answer) ledger).1.orders =
      ledger.orders.map (Order.settledBy policy now listings) := by
  induction listings generalizing ledger with
  | nil => exact (List.map_id ledger.orders).symm
  | cons listing rest inductionHypothesis =>
      obtain ⟨isClosed, -, -⟩ :=
        alignWithListing_of_known policy now (known listing List.mem_cons_self)
      have nextOrders : (alignWithListing policy now listing.venue listing.rows ledger).1.orders =
          ledger.orders.map (Order.settled policy now listing.venue listing.rows) := by
        rw [isClosed, Ledger.afterCloses_orders]
      have restKnown : ∀ later ∈ rest,
          (alignWithListing policy now listing.venue listing.rows ledger).1.Knows later.venue
            later.rows := by
        intro later member
        exact (known later (List.mem_cons_of_mem listing member)).of_settled nextOrders
          (Order.settled_symbol policy now listing.venue listing.rows)
          (Order.settled_venueOrderId policy now listing.venue listing.rows)
      refine (inductionHypothesis restKnown).trans ?_
      rw [nextOrders, List.map_map]
      rfl

/-- A final order stays as it is. -/
theorem Order.settledBy_of_final {order : Order} (final : order.status.isFinal = true) :
    order.settledBy policy now listings = order := by
  induction listings with
  | nil => rfl
  | cons listing rest inductionHypothesis =>
      refine Eq.trans ?_ inductionHypothesis
      unfold settledBy
      rw [List.foldl_cons, Order.settled_of_final final]

/-- An order that is missing from no listing stays as it is. -/
theorem Order.settledBy_of_present {order : Order}
    (present : ∀ listing ∈ listings, ¬order.IsMissing listing.venue listing.rows) :
    order.settledBy policy now listings = order := by
  induction listings with
  | nil => rfl
  | cons listing rest inductionHypothesis =>
      refine Eq.trans ?_ (inductionHypothesis
        fun later member => present later (List.mem_cons_of_mem listing member))
      unfold settledBy
      rw [List.foldl_cons, Order.settled_of_not_missing policy now
        (present listing List.mem_cons_self)]

/-- An order that is missing from one of the listings has the status of the policy. -/
theorem Order.settledBy_of_missing {order : Order} {status : Status}
    (closes : policy.closingStatus? = some status)
    (missing : ∃ listing ∈ listings, order.IsMissing listing.venue listing.rows) :
    order.settledBy policy now listings = { order with status, updatedAt := now } := by
  have final := AbsencePolicy.closingStatus?_final closes
  induction listings with
  | nil =>
      obtain ⟨listing, impossible, -⟩ := missing
      cases impossible
  | cons listing rest inductionHypothesis =>
      unfold settledBy
      rw [List.foldl_cons]
      by_cases here : order.IsMissing listing.venue listing.rows
      · have closed : order.settled policy now listing.venue listing.rows =
            { order with status, updatedAt := now } := by
          rw [Order.settled, closes]
          exact if_pos here
        rw [closed]
        exact Order.settledBy_of_final policy now final
      · rw [Order.settled_of_not_missing policy now here]
        obtain ⟨later, member, isMissing⟩ := missing
        rcases List.mem_cons.mp member with isHead | inRest
        · exact absurd (isHead ▸ isMissing) here
        · exact inductionHypothesis ⟨later, inRest, isMissing⟩

end Listings

end OrderKeeper
