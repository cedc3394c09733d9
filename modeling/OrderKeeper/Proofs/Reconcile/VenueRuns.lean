import OrderKeeper.Proofs.Core.Passes
import OrderKeeper.Proofs.Reconcile.Growth

/-!
Contract: listings of one venue, one after the other, with closes in between.

Owns: the events of such a run, the log of all orders that a run brings in, and the main
statement: every row is accounted for, and no order of the venue is brought in twice.
-/

set_option autoImplicit false

namespace OrderKeeper

open Ledger (Evolves GrowsBy)

/-- Something that happens to the ledger while a venue is listed again and again. -/
inductive VenueEvent (World : Type) where
  | listing (policy : AbsencePolicy) (rows : List ListedOrder)
  | close (id : OrderId) (status : Status)
  | watchPairs (directory : VenueDirectory World) (world : World)

namespace Ledger

variable {World : Type}

def afterEvent (ledger : Ledger) (venue : String) (now : Instant) : VenueEvent World → Ledger
  | .listing policy rows => (alignWithListing policy now venue rows ledger).1
  | .close id status => (ledger.close now id status).1
  | .watchPairs directory world => (watchOnce directory now { ledger, world }).1.ledger

/-- The ledger after events, each at its own time, and the log of all orders that came in. -/
def runVenue (ledger : Ledger) (venue : String) :
    List (Instant × VenueEvent World) → Ledger × List Order
  | [] => (ledger, [])
  | (now, event) :: rest =>
      let next := ledger.afterEvent venue now event
      let (last, later) := next.runVenue venue rest
      (last, ledger.arrivals next ++ later)

/-- One event brings in only what the ledger did not carry. -/
theorem growsBy_afterEvent {venue : String} (named : Symbol.IsVenueName venue) {ledger : Ledger}
    (importsKept : ledger.ImportsKept venue) (now : Instant) (event : VenueEvent World) :
    let next := ledger.afterEvent venue now event
    GrowsBy venue ledger next (ledger.arrivals next) := by
  cases event with
  | listing policy rows => exact GrowsBy.of_listing named importsKept policy now rows
  | close id status =>
      apply GrowsBy.of_same_whereabouts
      exact whereabouts_of_evolves (Evolves.single ledger (.close now id status) trivial)
  | watchPairs directory world =>
      apply GrowsBy.of_same_whereabouts
      exact whereabouts_of_evolves (watchOnce_evolves directory now { ledger, world })

theorem growsBy_runVenue {venue : String} (named : Symbol.IsVenueName venue) {ledger : Ledger}
    (importsKept : ledger.ImportsKept venue) (events : List (Instant × VenueEvent World)) :
    GrowsBy venue ledger (ledger.runVenue venue events).1 (ledger.runVenue venue events).2 := by
  induction events generalizing ledger with
  | nil =>
      refine ⟨(List.append_nil ledger.whereabouts).symm, ?_, List.nodup_nil⟩
      intro order member
      cases member
  | cons event rest inductionHypothesis =>
      have step := growsBy_afterEvent named importsKept event.1 event.2
      exact step.trans (inductionHypothesis (step.importsKept (fun _ _ _ => rfl) importsKept))

end Ledger

/-- At a venue that a symbol can name, while imported orders keep to it: every row of a listing
is accounted for, the new orders are those of the unknown rows that are not refused, and both
counts are exact.  Over any run of listings, closes and passes over the pairs, no order of the
venue is brought in twice or although it was carried before, and orders with one venue order id
were both there at first. -/
theorem venue_runs_import_once {World : Type} {venue : String} (named : Symbol.IsVenueName venue)
    {before : Ledger} (importsKept : before.ImportsKept venue) :
    (∀ policy now rows,
      let unknown := before.unknownRows venue rows
      let after := alignWithListing policy now venue rows before
      let new := before.arrivals after.1
      (∀ row ∈ lastRows rows,
        (∃ id, row.orderId = some id ∧ after.1.Carries venue id) ∨
          (∃ id, row.orderId = some id ∧
            ∃ order ∈ before.onVenue venue, order ∈ after.1.onVenue venue ∧ order.isOpen = true ∧
              order.HoldsBack rows id ∧ order.Resembles row) ∨
          row ∈ refusedRows now venue unknown) ∧
      new.Perm (takenOver now venue unknown) ∧ after.2.imported = new.length ∧
      after.2.malformed = countWithoutId rows + (refusedRows now venue unknown).length) ∧
    ∀ events : List (Instant × VenueEvent World),
      let final := (before.runVenue venue events).1
      let log := (before.runVenue venue events).2
      (log.map Order.venueOrderId).Nodup ∧
      (∀ order ∈ log, ∃ id, order.venueOrderId = some id ∧ ¬before.Carries venue id) ∧
      ∀ first ∈ final.onVenue venue, ∀ second ∈ final.onVenue venue, first.id ≠ second.id →
        ∀ id, first.venueOrderId = some id → second.venueOrderId = some id →
          (∃ old ∈ before.onVenue venue, old.id = first.id ∧ old.venueOrderId = some id) ∧
          ∃ old ∈ before.onVenue venue, old.id = second.id ∧ old.venueOrderId = some id := by
  refine ⟨fun policy now rows => ?_, fun events => ?_⟩
  · obtain ⟨perm, -, imported, malformed⟩ := alignWithListing_orders importsKept policy now rows
    exact ⟨fun row counts => row_accounted named importsKept policy now counts, perm, imported,
      malformed⟩
  · intro final log
    have grows : Ledger.GrowsBy venue before final log :=
      Ledger.growsBy_runVenue named importsKept events
    refine ⟨grows.venueOrderIds_nodup, fun order logged => ?_, ?_⟩
    · obtain ⟨id, -, -, ownId, notCarried⟩ := grows.imported order logged
      exact ⟨id, ownId, notCarried⟩
    · intro first firstMember second secondMember different id firstId secondId
      obtain ⟨firstOld, secondOld⟩ :=
        grows.duplicates_kept firstMember secondMember different firstId secondId
      have firstHere := ((final.mem_onVenue venue first).mp firstMember).2
      have secondHere := ((final.mem_onVenue venue second).mp secondMember).2
      rw [← firstId]
      refine ⟨Ledger.onVenue_of_whereabouts firstOld firstHere, ?_⟩
      rw [firstId, ← secondId]
      exact Ledger.onVenue_of_whereabouts secondOld secondHere

/-- An order that was imported before is not imported again, and another one is, once. -/
theorem paper_run_imports_once :
    let order := { Order.create ⟨0, 0⟩ (.imported "PAPER" "x1") importTag "BTC.PAPER" .buy .limit
      .one with venueOrderId := some "x1" }
    let row := fun id => { (default : ListedOrder) with
      orderId := some id, symbol := some "BTC", side := some "BUY" }
    let before := (Ledger.empty.write ⟨0, 0⟩ order).1
    let listing : VenueEvent Unit := .listing .assumeFilled [row "x1", row "x2"]
    let log := (before.runVenue "PAPER" [(⟨1, 0⟩, listing), (⟨2, 0⟩, listing)]).2
    Symbol.IsVenueName "PAPER" ∧ before.ImportsKept "PAPER" ∧
      log.map Order.venueOrderId = [some "x2"] ∧ (log.map Order.venueOrderId).Nodup := by
  intro order row before listing log
  have named : Symbol.IsVenueName "PAPER" := by decide
  have importsKept : before.ImportsKept "PAPER" := by
    intro stored member id sameId
    have isOrder : stored = order := List.mem_singleton.mp member
    rw [isOrder] at sameId ⊢
    have isFirst : "x1" = id := OrderId.imported_inj.mp sameId
    exact ⟨by decide, congrArg some isFirst⟩
  exact ⟨named, importsKept, by decide,
    ((venue_runs_import_once named importsKept).2 [(⟨1, 0⟩, listing), (⟨2, 0⟩, listing)]).1⟩

end OrderKeeper
