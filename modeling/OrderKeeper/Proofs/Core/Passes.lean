import OrderKeeper.Paper.Broker
import OrderKeeper.Pair.Linked
import OrderKeeper.Pair.Watch
import OrderKeeper.Proofs.Ledger.Evolution
import OrderKeeper.Reconcile.Pass
import OrderKeeper.Trailing.Tick

/-!
Contract: every pass and every placement as an evolution of the ledger.

Owns: which calls each of them makes.  A listing closes and writes, a pass over pairs only
closes, a tick and a placement only write, and linking a pair only joins a group.

Does not own: what a particular order becomes.
-/

set_option autoImplicit false

namespace OrderKeeper

open Ledger (Evolves)

variable {World : Type}

/-! ## Listings -/

theorem closeAll_evolves (now : Instant) (status : Status) (orders : List Order) (ledger : Ledger) :
    Evolves LedgerCall.IsClose ledger (closeAll now status orders ledger).1 := by
  unfold closeAll
  refine Evolves.foldl Prod.fst _ (fun counted order => ?_) orders (ledger, 0)
  exact Evolves.single counted.1 (.close now order.id status) trivial

theorem closeMissing_evolves (policy : AbsencePolicy) (now : Instant) (missing : List Order)
    (ledger : Ledger) :
    Evolves LedgerCall.IsClose ledger (closeMissing policy now missing ledger).1 := by
  unfold closeMissing
  cases policy.closingStatus? with
  | none => exact Evolves.refl ledger
  | some status => exact closeAll_evolves now status missing ledger

theorem importAll_evolves (now : Instant) (venue : String) (rows : List ListedOrder)
    (ledger : Ledger) :
    Evolves LedgerCall.IsWrite ledger (importAll now venue rows ledger).1 := by
  unfold importAll
  refine Evolves.foldl Prod.fst _ (fun counted row => ?_) rows (ledger, 0, 0)
  cases importedOrder now venue row with
  | error _ => exact Evolves.refl counted.1
  | ok order => exact Evolves.single counted.1 (.write now order) trivial

theorem alignWithListing_evolves (policy : AbsencePolicy) (now : Instant) (venue : String)
    (rows : List ListedOrder) (ledger : Ledger) :
    Evolves LedgerCall.Any ledger (alignWithListing policy now venue rows ledger).1 :=
  (closeMissing_evolves policy now _ ledger).any.trans (importAll_evolves now venue _ _).any

theorem applyListing_evolves (policy : AbsencePolicy) (now : Instant) (venue : String)
    (answer : Except VenueFault (List ListedOrder)) (ledger : Ledger) :
    Evolves LedgerCall.Any ledger (applyListing policy now venue answer ledger).1 := by
  unfold applyListing
  split
  · exact alignWithListing_evolves policy now venue _ ledger
  · exact Evolves.refl ledger
  · exact Evolves.refl ledger

theorem visitVenue_evolves (directory : VenueDirectory World) (policy : AbsencePolicy)
    (now : Instant) (venue : String) (state : State World) :
    Evolves LedgerCall.Any state.ledger (visitVenue directory policy now venue state).1.ledger := by
  unfold visitVenue
  split
  · exact Evolves.refl state.ledger
  · exact applyListing_evolves policy now venue _ state.ledger

theorem reconcileAll_evolves (directory : VenueDirectory World) (policy : AbsencePolicy)
    (now : Instant) (state : State World) :
    Evolves LedgerCall.Any state.ledger (reconcileAll directory policy now state).1.ledger := by
  unfold reconcileAll
  refine Evolves.foldl (fun visited => visited.1.ledger) _ (fun visited venue => ?_)
    directory.keys (state, ReconcileSummary.empty)
  exact visitVenue_evolves directory policy now venue visited.1

/-! ## Pairs -/

theorem settleCancel_evolves (now : Instant) (pair : BrokenPair) (answer : Except VenueFault Unit)
    (ledger : Ledger) :
    Evolves LedgerCall.IsClose ledger (settleCancel now pair answer ledger).1 := by
  unfold settleCancel
  cases answer with
  | error _ => exact Evolves.single ledger (.close now pair.filled.id .filled) trivial
  | ok _ =>
      exact (Evolves.single ledger (.close now pair.sibling.id .canceled) trivial).trans
        (Evolves.single _ (.close now pair.filled.id .filled) trivial)

theorem cancelSibling_evolves (directory : VenueDirectory World) (now : Instant)
    (pair : BrokenPair) (state : State World) :
    Evolves LedgerCall.IsClose state.ledger
      (cancelSibling directory now pair state).1.ledger := by
  unfold cancelSibling
  split
  · exact Evolves.refl state.ledger
  · exact settleCancel_evolves now pair _ state.ledger

theorem watchGroups_evolves (directory : VenueDirectory World) (now : Instant)
    (groups : List (List Order)) (state : State World) (summary : PairSummary) :
    Evolves LedgerCall.IsClose state.ledger
      (watchGroups directory now groups (state, summary)).1.ledger := by
  induction groups generalizing state summary with
  | nil => exact Evolves.refl state.ledger
  | cons members rest inductionHypothesis =>
      unfold watchGroups
      cases groupState members with
      | settled => exact inductionHypothesis state summary
      | notAPair => exact inductionHypothesis state _
      | broken pair =>
          exact (cancelSibling_evolves directory now pair state).trans (inductionHypothesis _ _)

/-- A pass over the pairs only closes orders. -/
theorem watchOnce_evolves (directory : VenueDirectory World) (now : Instant)
    (state : State World) :
    Evolves LedgerCall.IsClose state.ledger (watchOnce directory now state).1.ledger :=
  watchGroups_evolves directory now _ state .empty

theorem linkPair_evolves (now : Instant) (group : String) (first second : Receipt)
    (ledger : Ledger) :
    Evolves LedgerCall.Any ledger (linkPair now group first second ledger).2 := by
  unfold linkPair
  split
  · exact Evolves.refl ledger
  · split
    · exact Evolves.refl ledger
    · exact (Evolves.single ledger (.joinGroup now first.id group) trivial).trans
        (Evolves.single _ (.joinGroup now second.id group) trivial)

/-! ## Placements -/

/-- The broker changes the ledger by writing orders into it, and in no other way. -/
def Broker.WritesThrough (broker : Broker World) : Prop :=
  ∀ now ticket state,
    Evolves LedgerCall.IsWrite state.ledger (broker.place now ticket state).2.ledger

theorem PaperBroker.writesThrough (broker : PaperBroker World) :
    broker.toBroker.WritesThrough := by
  intro now ticket state
  show Evolves _ _ (broker.place now ticket state).2.ledger
  unfold PaperBroker.place
  cases broker.route ticket state.world with
  | error _ => exact Evolves.refl state.ledger
  | ok slot => exact Evolves.single state.ledger (.write now _) trivial

section Broker

variable {broker : Broker World}

theorem placePair_evolves (writesThrough : broker.WritesThrough) (now : Instant) (group : String)
    (first second : OrderTicket) (state : State World) :
    Evolves LedgerCall.Any state.ledger
      (placePair broker now group first second state).2.ledger := by
  have placed : Evolves LedgerCall.Any state.ledger
      (broker.place now second (broker.place now first state).2).2.ledger :=
    (writesThrough now first state).any.trans (writesThrough now second _).any
  unfold placePair
  dsimp only
  split
  · exact placed
  · exact placed
  · exact placed.trans (linkPair_evolves now group _ _ _)

/-- A tick keeps what the reading of prices and every placement keep. -/
theorem tickTrail_keeps (invariant : State World → Prop) (directory : VenueDirectory World)
    (now : Instant)
    (afterPrice : ∀ symbol state, invariant state →
      invariant { state with world := (usablePrice? directory symbol state.world).2 })
    (afterPlacement : ∀ ticket state, invariant state → invariant (broker.place now ticket state).2)
    (id : String) (book : TrailBook) {state : State World} (holds : invariant state) :
    invariant (tickTrail directory broker now id book state).2.1 := by
  unfold tickTrail
  split
  · exact holds
  · rename_i trail _
    have priced := afterPrice trail.symbol state holds
    split
    · rename_i world unpriced
      rw [unpriced] at priced
      exact priced
    · rename_i price world found
      rw [found] at priced
      dsimp only
      split
      · exact priced
      · exact priced
      · rename_i stop triggered _
        exact afterPlacement (triggered.protectiveOrder stop) { state with world } priced
      · exact priced

theorem tickTrails_keeps (invariant : State World → Prop) (directory : VenueDirectory World)
    (now : Instant)
    (afterPrice : ∀ symbol state, invariant state →
      invariant { state with world := (usablePrice? directory symbol state.world).2 })
    (afterPlacement : ∀ ticket state, invariant state → invariant (broker.place now ticket state).2)
    (ids : List String) (book : TrailBook) {state : State World} (holds : invariant state) :
    invariant (tickTrails directory broker now ids book state).state := by
  induction ids generalizing book state with
  | nil => exact holds
  | cons id rest inductionHypothesis =>
      have looked := tickTrail_keeps invariant directory now afterPrice afterPlacement id book holds
      unfold tickTrails
      split
      · rename_i result
        rw [result] at looked
        exact looked
      · rename_i result
        rw [result] at looked
        exact inductionHypothesis _ looked

/-- A tick writes the orders that its trails fire. -/
theorem tickTrails_evolves (writesThrough : broker.WritesThrough)
    (directory : VenueDirectory World) (now : Instant) (ids : List String) (book : TrailBook)
    (state : State World) :
    Evolves LedgerCall.IsWrite state.ledger
      (tickTrails directory broker now ids book state).state.ledger :=
  tickTrails_keeps (fun after => Evolves LedgerCall.IsWrite state.ledger after.ledger) directory now
    (fun _ _ evolves => evolves)
    (fun ticket after evolves => evolves.trans (writesThrough now ticket after)) ids book
    (.refl state.ledger)

end Broker

end OrderKeeper
