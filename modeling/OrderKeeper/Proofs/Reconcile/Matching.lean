import OrderKeeper.Proofs.Ledger.Contents
import OrderKeeper.Proofs.Reconcile.Listing

/-!
Contract: how the orders of a ledger and the rows of a listing account for each other.

Owns: when an order is missing from a listing, when a row is unknown to the ledger, and
the agreement of both with the claims that a pass computes.

Does not own: what becomes of a missing order or of an unknown row.
-/

set_option autoImplicit false

namespace OrderKeeper

namespace Order

/-- A row has the base symbol and the side of the order. -/
def Resembles (order : Order) (row : ListedOrder) : Prop :=
  (∃ symbol ∈ row.symbol,
    Text.sameLetters (Symbol.base symbol) (Symbol.base order.symbol) = true) ∧
    row.side.bind Side.ofVendor? = some order.side

theorem matchesBySymbol_iff (order : Order) (row : ListedOrder) :
    matchesBySymbol order row = true ↔ order.Resembles row := by
  unfold matchesBySymbol Resembles
  rw [Bool.and_eq_true, decide_eq_true_iff]
  cases row.symbol with
  | none => simp
  | some symbol => simp

instance (order : Order) (row : ListedOrder) : Decidable (order.Resembles row) :=
  decidable_of_iff _ (matchesBySymbol_iff order row)

/-- No row is the order's: none has its venue order id or, if it has none, none of those
that count resembles it. -/
def IsUnlisted (rows : List ListedOrder) (order : Order) : Prop :=
  match order.venueOrderId with
  | some id => ∀ row ∈ rows, row.orderId ≠ some id
  | none => ∀ row ∈ lastRows rows, ¬order.Resembles row

instance (rows : List ListedOrder) (order : Order) : Decidable (order.IsUnlisted rows) := by
  unfold IsUnlisted
  cases order.venueOrderId with
  | none => exact inferInstanceAs (Decidable (∀ row ∈ lastRows rows, ¬order.Resembles row))
  | some id => exact inferInstanceAs (Decidable (∀ row ∈ rows, row.orderId ≠ some id))

/-- An open order on the venue that has no row. -/
def IsMissing (venue : String) (rows : List ListedOrder) (order : Order) : Prop :=
  order.isOpen = true ∧ Symbol.isOn order.symbol venue = true ∧ order.IsUnlisted rows

instance (venue : String) (rows : List ListedOrder) (order : Order) :
    Decidable (order.IsMissing venue rows) :=
  inferInstanceAs (Decidable (_ ∧ _ ∧ _))

/-- An order without a venue order id holds back the row of least id among those that
resemble it. -/
def HoldsBack (rows : List ListedOrder) (order : Order) (id : String) : Prop :=
  order.venueOrderId = none ∧
    (∃ row ∈ lastRows rows, row.orderId = some id ∧ order.Resembles row) ∧
    ∀ row ∈ lastRows rows, order.Resembles row → ∀ other ∈ row.orderId, id ≤ other

instance (rows : List ListedOrder) (order : Order) (id : String) :
    Decidable (order.HoldsBack rows id) :=
  inferInstanceAs (Decidable (_ ∧ _ ∧ _))

/-- An order that holds a row back is not missing. -/
theorem not_missing_of_holdsBack {rows : List ListedOrder} {order : Order} {id : String}
    (holds : order.HoldsBack rows id) (venue : String) : ¬order.IsMissing venue rows := by
  intro missing
  obtain ⟨row, counts, -, resembles⟩ := holds.2.1
  have unlisted := missing.2.2
  unfold IsUnlisted at unlisted
  rw [holds.1] at unlisted
  exact unlisted row counts resembles

/-- An order whose venue order id is listed is not missing. -/
theorem not_missing_of_listed {rows : List ListedOrder} {order : Order} {row : ListedOrder}
    {id : String} (listed : row ∈ rows) (rowId : row.orderId = some id)
    (ownId : order.venueOrderId = some id) (venue : String) : ¬order.IsMissing venue rows := by
  intro missing
  have unlisted := missing.2.2
  unfold IsUnlisted at unlisted
  rw [ownId] at unlisted
  exact unlisted row listed rowId

end Order

/-! ## Claims -/

/-- The first row that resembles an order, in the order of ids, is the one of least id. -/
theorem find?_resembling_eq_some_iff (rows : List ListedOrder) (order : Order)
    (entry : String × ListedOrder) :
    ((listedById rows).entries.find? fun entry => matchesBySymbol order entry.2) = some entry ↔
      entry.2 ∈ lastRows rows ∧ entry.2.orderId = some entry.1 ∧ order.Resembles entry.2 ∧
        ∀ row ∈ lastRows rows, order.Resembles row → ∀ other ∈ row.orderId, entry.1 ≤ other := by
  rw [find?_ascending_eq_some_iff (listedById rows).ascending, mem_listedById,
    Order.matchesBySymbol_iff, and_assoc]
  refine and_congr_right fun _ => and_congr_right fun _ => and_congr_right fun _ => ?_
  constructor
  · intro least row member resembles other otherId
    exact least (other, row) ((mem_listedById rows other row).mpr ⟨member, otherId⟩)
      ((Order.matchesBySymbol_iff order row).mpr resembles)
  · rintro least ⟨other, row⟩ member resembles
    obtain ⟨rowMember, rowId⟩ := (mem_listedById rows other row).mp member
    exact least row rowMember ((Order.matchesBySymbol_iff order row).mp resembles) other rowId

theorem claimedId?_of_venueOrderId {order : Order} {own : String}
    (ownId : order.venueOrderId = some own) (rows : List ListedOrder) (id : String) :
    claimedId? (listedById rows) order = some id ↔
      own = id ∧ ∃ row ∈ rows, row.orderId = some id := by
  unfold claimedId?
  rw [ownId]
  dsimp only
  by_cases listed : (listedById rows).contains own = true
  · rw [if_pos listed, Option.some.injEq]
    refine ⟨fun same => ⟨same, same ▸ (listedById_contains rows own).mp listed⟩, And.left⟩
  · rw [if_neg listed]
    constructor
    · intro impossible
      cases impossible
    · rintro ⟨rfl, row⟩
      exact absurd ((listedById_contains rows own).mpr row) listed

theorem claimedId?_of_no_venueOrderId {order : Order} (noId : order.venueOrderId = none)
    (rows : List ListedOrder) (id : String) :
    claimedId? (listedById rows) order = some id ↔ order.HoldsBack rows id := by
  unfold claimedId? Order.HoldsBack
  rw [noId]
  dsimp only
  rw [Option.map_eq_some_iff]
  constructor
  · rintro ⟨entry, found, rfl⟩
    obtain ⟨member, rowId, resembles, least⟩ :=
      (find?_resembling_eq_some_iff rows order entry).mp found
    exact ⟨rfl, ⟨entry.2, member, rowId, resembles⟩, least⟩
  · rintro ⟨-, ⟨row, member, rowId, resembles⟩, least⟩
    exact ⟨(id, row),
      (find?_resembling_eq_some_iff rows order (id, row)).mpr ⟨member, rowId, resembles, least⟩, rfl⟩

/-- What an order claims is its own venue order id, if that is listed, or what it holds back. -/
theorem claimedId?_eq_some_iff (rows : List ListedOrder) (order : Order) (id : String) :
    claimedId? (listedById rows) order = some id ↔
      (order.venueOrderId = some id ∧ ∃ row ∈ rows, row.orderId = some id) ∨
        order.HoldsBack rows id := by
  cases ownId : order.venueOrderId with
  | none =>
      rw [claimedId?_of_no_venueOrderId ownId]
      simp
  | some own =>
      have holdsNone : ¬order.HoldsBack rows id := by
        intro holds
        rw [holds.1] at ownId
        cases ownId
      rw [claimedId?_of_venueOrderId ownId, Option.some.injEq]
      simp [holdsNone]

/-- An order claims nothing exactly if no row is its own. -/
theorem claimedId?_isNone_iff (rows : List ListedOrder) (order : Order) :
    (claimedId? (listedById rows) order).isNone = true ↔ order.IsUnlisted rows := by
  unfold claimedId? Order.IsUnlisted
  cases order.venueOrderId with
  | some own =>
      dsimp only
      by_cases listed : (listedById rows).contains own = true
      · rw [if_pos listed]
        obtain ⟨row, member, rowId⟩ := (listedById_contains rows own).mp listed
        refine ⟨fun impossible => ?_, fun unlisted => absurd rowId (unlisted row member)⟩
        cases impossible
      · rw [if_neg listed]
        refine ⟨fun _ row member rowId => ?_, fun _ => rfl⟩
        exact listed ((listedById_contains rows own).mpr ⟨row, member, rowId⟩)
  | none =>
      dsimp only
      rw [Option.isNone_map, Option.isNone_iff_eq_none, List.find?_eq_none]
      constructor
      · intro noEntry row member resembles
        obtain ⟨id, rowId⟩ := id_of_mem_lastRows member
        exact noEntry (id, row) ((mem_listedById rows id row).mpr ⟨member, rowId⟩)
          ((Order.matchesBySymbol_iff order row).mpr resembles)
      · rintro noRow ⟨id, row⟩ member resembles
        exact noRow row ((mem_listedById rows id row).mp member).1
          ((Order.matchesBySymbol_iff order row).mp resembles)

namespace Ledger

theorem mem_onVenue (ledger : Ledger) (venue : String) (order : Order) :
    order ∈ ledger.onVenue venue ↔ order ∈ ledger.orders ∧ Symbol.isOn order.symbol venue = true :=
  List.mem_filter

/-- An order on the venue, open or closed, has the venue order id. -/
def Carries (ledger : Ledger) (venue id : String) : Prop :=
  ∃ order ∈ ledger.onVenue venue, order.venueOrderId = some id

/-- An open order on the venue holds back the row of the id. -/
def HoldsBack (ledger : Ledger) (venue : String) (rows : List ListedOrder) (id : String) : Prop :=
  ∃ order ∈ ledger.onVenue venue, order.isOpen = true ∧ order.HoldsBack rows id

/-- No order carries the row's id or holds the row back. -/
def IsUnknown (ledger : Ledger) (venue : String) (rows : List ListedOrder) (row : ListedOrder) :
    Prop :=
  ∀ id ∈ row.orderId, ¬ledger.Carries venue id ∧ ¬ledger.HoldsBack venue rows id

instance (ledger : Ledger) (venue id : String) : Decidable (ledger.Carries venue id) :=
  inferInstanceAs (Decidable (∃ order ∈ ledger.onVenue venue, order.venueOrderId = some id))

instance (ledger : Ledger) (venue : String) (rows : List ListedOrder) (id : String) :
    Decidable (ledger.HoldsBack venue rows id) :=
  inferInstanceAs
    (Decidable (∃ order ∈ ledger.onVenue venue, order.isOpen = true ∧ order.HoldsBack rows id))

instance (ledger : Ledger) (venue : String) (rows : List ListedOrder) (row : ListedOrder) :
    Decidable (ledger.IsUnknown venue rows row) :=
  inferInstanceAs (Decidable (∀ id ∈ row.orderId, _))

/-- The rows that count and that the ledger does not know. -/
def unknownRows (ledger : Ledger) (venue : String) (rows : List ListedOrder) : List ListedOrder :=
  (lastRows rows).filter fun row => ledger.IsUnknown venue rows row

theorem mem_unknownRows (ledger : Ledger) (venue : String) (rows : List ListedOrder)
    (row : ListedOrder) :
    row ∈ ledger.unknownRows venue rows ↔ row ∈ lastRows rows ∧ ledger.IsUnknown venue rows row := by
  unfold unknownRows
  rw [List.mem_filter, decide_eq_true_iff]

/-- The orders that a pass treats as missing. -/
theorem filter_claimsNothing (ledger : Ledger) (venue : String) (rows : List ListedOrder) :
    (((ledger.onVenue venue).filter Order.isOpen).filter fun order =>
        (claimedId? (listedById rows) order).isNone) =
      ledger.orders.filter fun order => order.IsMissing venue rows := by
  unfold onVenue
  rw [List.filter_filter, List.filter_filter]
  refine List.filter_congr fun order _ => ?_
  rw [Bool.eq_iff_iff, Bool.and_eq_true, Bool.and_eq_true, decide_eq_true_iff,
    claimedId?_isNone_iff, Order.IsMissing]
  constructor
  · rintro ⟨⟨unlisted, isOpen⟩, here⟩
    exact ⟨isOpen, here, unlisted⟩
  · rintro ⟨isOpen, here, unlisted⟩
    exact ⟨⟨unlisted, isOpen⟩, here⟩

/-- An id is neither claimed nor carried exactly if the row of that id is unknown. -/
theorem not_claimed_iff {ledger : Ledger} {venue : String} {rows : List ListedOrder} {id : String}
    {row : ListedOrder} (rowId : row.orderId = some id) :
    (id ∉ ((ledger.onVenue venue).filter Order.isOpen).filterMap (claimedId? (listedById rows)) ∧
        id ∉ (ledger.onVenue venue).filterMap Order.venueOrderId) ↔
      ledger.IsUnknown venue rows row := by
  unfold IsUnknown Carries HoldsBack
  simp only [rowId, Option.mem_some_iff, forall_eq', List.mem_filterMap, List.mem_filter,
    claimedId?_eq_some_iff]
  constructor
  · rintro ⟨notClaimed, notCarried⟩
    refine ⟨notCarried, ?_⟩
    rintro ⟨order, member, isOpen, holds⟩
    exact notClaimed ⟨order, ⟨member, isOpen⟩, Or.inr holds⟩
  · rintro ⟨notCarried, notHeld⟩
    refine ⟨?_, notCarried⟩
    rintro ⟨order, ⟨member, isOpen⟩, ⟨ownId, -⟩ | holds⟩
    · exact notCarried ⟨order, member, ownId⟩
    · exact notHeld ⟨order, member, isOpen, holds⟩

/-- The rows that a pass takes over. -/
theorem filter_unclaimed_perm (ledger : Ledger) (venue : String) (rows : List ListedOrder) :
    (((listedById rows).entries.filter fun entry =>
        !(((ledger.onVenue venue).filter Order.isOpen).filterMap
            (claimedId? (listedById rows))).contains entry.1 &&
          !((ledger.onVenue venue).filterMap Order.venueOrderId).contains entry.1).map
        Prod.snd).Perm
      (ledger.unknownRows venue rows) := by
  have unclaimed : ∀ entry ∈ (listedById rows).entries,
      (!(((ledger.onVenue venue).filter Order.isOpen).filterMap
            (claimedId? (listedById rows))).contains entry.1 &&
          !((ledger.onVenue venue).filterMap Order.venueOrderId).contains entry.1) =
        decide (ledger.IsUnknown venue rows entry.2) := by
    intro entry member
    have rowId := ((mem_listedById rows entry.1 entry.2).mp member).2
    rw [Bool.eq_iff_iff, decide_eq_true_iff, ← not_claimed_iff rowId]
    simp only [Bool.and_eq_true, Bool.not_eq_true', List.contains_eq_mem, decide_eq_false_iff_not]
  rw [List.filter_congr unclaimed]
  have commuted := List.filter_map (f := Prod.snd)
    (p := fun row => decide (ledger.IsUnknown venue rows row)) (l := (listedById rows).entries)
  refine List.Perm.trans (List.Perm.of_eq commuted.symm) ?_
  exact (listedById_values_perm rows).filter _

end Ledger

end OrderKeeper
