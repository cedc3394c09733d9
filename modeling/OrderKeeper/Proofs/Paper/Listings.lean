import OrderKeeper.Proofs.Paper.InStep
import OrderKeeper.Proofs.Paper.Passes
import OrderKeeper.Proofs.Reconcile.Known

/-!
Contract: the books of paper venues as the listings of a pass.

Owns: the rows that the ledger knows, the orders that a book misses, and a pass over venues
that list every open order: it finds nothing, also where a venue fails.

Does not own: passes that find something.
-/

set_option autoImplicit false

namespace OrderKeeper

/-- A visit that neither brings anything in nor closes anything. -/
def VenueVisit.FindsNothing (visit : VenueVisit) : Prop :=
  ∀ delta, visit = .checked delta → delta = ⟨0, 0, 0⟩

theorem ReconcileSummary.add_of_nothing (summary : ReconcileSummary) (venue : String)
    {visit : VenueVisit} (nothing : visit.FindsNothing) :
    (summary.add venue visit).imported = summary.imported ∧
      (summary.add venue visit).closed = summary.closed ∧
      (summary.add venue visit).malformed = summary.malformed := by
  cases visit with
  | skipped => exact ⟨rfl, rfl, rfl⟩
  | failed fault => exact ⟨rfl, rfl, rfl⟩
  | checked delta =>
      rw [nothing delta rfl]
      exact ⟨rfl, rfl, rfl⟩

/-- One round of a pass. -/
def visitRound {World : Type} (directory : VenueDirectory World) (policy : AbsencePolicy)
    (now : Instant) (counted : State World × ReconcileSummary) (venue : String) :
    State World × ReconcileSummary :=
  let met := visitVenue directory policy now venue counted.1
  (met.1, counted.2.add venue met.2)

theorem reconcileAll_eq_foldl {World : Type} (directory : VenueDirectory World)
    (policy : AbsencePolicy) (now : Instant) (state : State World) :
    reconcileAll directory policy now state =
      directory.keys.foldl (visitRound directory policy now) (state, .empty) :=
  rfl

/-- Visits that find nothing make a pass that changes nothing. -/
theorem foldl_visitRound_of_nothing {World : Type} (directory : VenueDirectory World)
    (policy : AbsencePolicy) (now : Instant) {state : State World} {venues : List String}
    (visits : ∀ venue ∈ venues, ∃ visit,
      visitVenue directory policy now venue state = (state, visit) ∧ visit.FindsNothing)
    (summary : ReconcileSummary) :
    let pass := venues.foldl (visitRound directory policy now) (state, summary)
    pass.1 = state ∧ pass.2.imported = summary.imported ∧ pass.2.closed = summary.closed ∧
      pass.2.malformed = summary.malformed := by
  induction venues generalizing summary with
  | nil => exact ⟨rfl, rfl, rfl, rfl⟩
  | cons venue later inductionHypothesis =>
      obtain ⟨visit, met, nothing⟩ := visits venue List.mem_cons_self
      obtain ⟨imported, closed, malformed⟩ := summary.add_of_nothing venue nothing
      have rest := inductionHypothesis
        (fun other member => visits other (List.mem_cons_of_mem venue member))
        (summary.add venue visit)
      have round : visitRound directory policy now (state, summary) venue =
          (state, summary.add venue visit) := by
        unfold visitRound
        dsimp only
        rw [met]
      rw [imported, closed, malformed] at rest
      rw [List.foldl_cons, round]
      exact rest

section Books

variable {configured : List String} {state : State PaperMarket}

theorem PaperMarket.Backed.knows (backed : state.world.Backed state.ledger.orders)
    {label : String} (isUpper : Text.upper label = label) :
    state.ledger.Knows label (state.world.venueAt label).listing := by
  intro row member
  obtain ⟨id, found⟩ := (state.world.mem_listing_iff label row).mp member
  obtain ⟨order, stored, atPlace, rfl⟩ := backed.rows ⟨label, id⟩ row found
  have ownId := ((order.bookPlace?_eq_some_iff ⟨label, id⟩).mp atPlace).2
  refine ⟨id, ownId, order, (state.ledger.mem_onVenue label order).mpr ⟨stored, ?_⟩, ownId⟩
  exact (Order.isOn_iff_of_bookPlace atPlace isUpper).mpr rfl

/-- An order is missing from the book of its venue exactly if it is open and has no row. -/
theorem PaperMarket.Backed.isMissing_iff {market : PaperMarket} {orders : List Order}
    (backed : market.Backed orders) {order : Order} (member : order ∈ orders) {label : String}
    (isUpper : Text.upper label = label) :
    order.IsMissing label (market.venueAt label).listing ↔
      order.isOpen = true ∧ Symbol.isOn order.symbol label = true ∧ ¬market.HasRowOf order := by
  obtain ⟨⟨own, id⟩, atPlace⟩ := backed.exists_place member
  have ownId : order.venueOrderId = some id :=
    ((order.bookPlace?_eq_some_iff ⟨own, id⟩).mp atPlace).2
  unfold Order.IsMissing
  refine and_congr_right fun _ => and_congr_right fun here => ?_
  have isLabel : label = own := (Order.isOn_iff_of_bookPlace atPlace isUpper).mp here
  rw [PaperMarket.hasRowOf_iff atPlace, Order.IsUnlisted, ownId]
  constructor
  · intro unlisted held
    obtain ⟨row, found⟩ := Option.isSome_iff_exists.mp held
    refine unlisted row ((market.mem_listing_iff label row).mpr ⟨id, isLabel ▸ found⟩) ?_
    rw [backed.row_eq member atPlace found]
    exact ownId
  · intro noRow row listed rowId
    obtain ⟨other, found⟩ := (market.mem_listing_iff label row).mp listed
    obtain ⟨stored, -, storedPlace, rfl⟩ := backed.rows ⟨label, other⟩ row found
    have storedId := ((stored.bookPlace?_eq_some_iff ⟨label, other⟩).mp storedPlace).2
    have sameId : other = id := Option.some.inj (storedId.symm.trans rowId)
    apply noRow
    rw [← isLabel, ← sameId, found]
    rfl

/-- A venue that lists every open order has nothing for the ledger, and one that fails neither. -/
theorem visitVenue_finds_nothing (trimmed : PaperMarket.AreTrimmed configured)
    (backed : state.world.Backed state.ledger.orders) (listed : OpenAreListed state)
    {label : String} (isName : label ∈ PaperMarket.venueNames configured) (policy : AbsencePolicy)
    (now : Instant) :
    ∃ visit, visitVenue (PaperMarket.directory configured) policy now label state = (state, visit) ∧
      visit.FindsNothing := by
  have isUpper := (PaperMarket.label_of_trimmed trimmed isName).1
  have reached :
      visitVenue (PaperMarket.directory configured) policy now label state =
        let met := applyListing policy now label (state.world.venueAt label).answerListing
          state.ledger
        ({ ledger := met.1, world := state.world }, met.2) := by
    unfold visitVenue
    rw [PaperMarket.gatewayFor_directory trimmed isName isUpper]
    rfl
  rw [reached]
  cases failing : (state.world.venueAt label).failing with
  | true =>
      have answer : (state.world.venueAt label).answerListing =
          .error (PaperExchange.unreachable (state.world.venueAt label).name) := if_pos failing
      rw [answer]
      exact ⟨_, rfl, fun _ impossible => nomatch impossible⟩
  | false =>
      have answer : (state.world.venueAt label).answerListing =
          .ok (state.world.venueAt label).listing :=
        if_neg (by rw [failing]; exact Bool.false_ne_true)
      have noneMissing : ∀ order ∈ state.ledger.orders,
          ¬order.IsMissing label (state.world.venueAt label).listing := by
        intro order member missing
        obtain ⟨isOpen, -, noRow⟩ := (backed.isMissing_iff member isUpper).mp missing
        exact noRow (listed order member isOpen)
      rw [answer]
      unfold applyListing
      dsimp only
      rw [alignWithListing_of_current policy now (backed.knows isUpper) noneMissing]
      exact ⟨_, rfl, fun _ isDelta => (VenueVisit.checked.inj isDelta).symm⟩

/-- A pass over venues that list every open order changes nothing. -/
theorem reconcileAll_finds_nothing (trimmed : PaperMarket.AreTrimmed configured)
    (backed : state.world.Backed state.ledger.orders) (listed : OpenAreListed state)
    (policy : AbsencePolicy) (now : Instant) :
    let pass := reconcileAll (PaperMarket.directory configured) policy now state
    pass.1 = state ∧ pass.2.imported = 0 ∧ pass.2.closed = 0 ∧ pass.2.malformed = 0 := by
  rw [reconcileAll_eq_foldl]
  refine foldl_visitRound_of_nothing (PaperMarket.directory configured) policy now ?_ .empty
  intro label isKey
  have isName := (PaperMarket.mem_keys_directory trimmed label).mp isKey
  exact visitVenue_finds_nothing trimmed backed listed isName policy now

end Books

end OrderKeeper
