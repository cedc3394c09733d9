import OrderKeeper.Paper.Core
import OrderKeeper.Proofs.Core.Passes

/-!
Contract: orders are permanent, and so are final statuses.

Owns: the events of a core, runs of any events in any order, and the main statement: an
id that is in use stays in use, an order that is final stays so with its status, and a
refused write or close changes nothing.

A pass waits at each of its calls to a venue or a broker, and anything may happen while it
waits.  So the parts of a pass between two waits are events of their own, beside the
passes that no other event interrupts.
-/

set_option autoImplicit false

namespace OrderKeeper

open Ledger (Evolves)

variable {World : Type}

/-- Something that happens to a core. -/
inductive CoreEvent (World : Type) where
  | write (order : Order)
  | close (id : OrderId) (status : Status)
  | joinGroup (id : OrderId) (group : String)
  | place (ticket : OrderTicket)
  | submitPair (group : String) (first second : OrderTicket)
  | reconcile
  | watchPairs
  | tick
  /-- A pass wakes up with the listing of one venue. -/
  | listingArrives (venue : String) (answer : Except VenueFault (List ListedOrder))
  /-- A pass wakes up with the answer to a cancel of a pair that it saw broken. -/
  | cancelAnswered (pair : BrokenPair) (answer : Except VenueFault Unit)
  /-- The placement of a pair wakes up with both receipts. -/
  | legsPlaced (group : String) (first second : Receipt)
  /-- Trails are armed and removed, and the world goes its own way. -/
  | elsewhere (book : TrailBook) (world : World)

namespace Core

/-- The core after an event. -/
def after (core : Core World) (now : Instant) : CoreEvent World → Core World
  | .write order => (core.updateLedger fun ledger => ledger.write now order).1
  | .close id status => (core.updateLedger fun ledger => ledger.close now id status).1
  | .joinGroup id group => (core.updateLedger fun ledger => ledger.joinGroup now id group).1
  | .place ticket => (core.place now ticket).1
  | .submitPair group first second => (core.submitPair now group first second).1
  | .reconcile => (core.reconcile now).1
  | .watchPairs => (core.watchPairs now).1
  | .tick => (core.tick now).1
  | .listingArrives venue answer =>
      (core.updateLedger (applyListing core.settings.absencePolicy now venue answer)).1
  | .cancelAnswered pair answer => (core.updateLedger (settleCancel now pair answer)).1
  | .legsPlaced group first second =>
      (core.updateLedger fun ledger => (linkPair now group first second ledger).swap).1
  | .elsewhere book world => { core with book, state := { core.state with world } }

/-- The core after events, each at its own time. -/
def run (core : Core World) (events : List (Instant × CoreEvent World)) : Core World :=
  events.foldl (fun core event => core.after event.1 event.2) core

theorem after_broker (core : Core World) (now : Instant) (event : CoreEvent World) :
    (core.after now event).broker = core.broker := by
  cases event <;> rfl

/-- No event changes the ledger but by calls to it. -/
theorem after_evolves {core : Core World} (writesThrough : core.broker.WritesThrough)
    (now : Instant) (event : CoreEvent World) :
    Evolves LedgerCall.Any core.state.ledger (core.after now event).state.ledger := by
  cases event with
  | write order =>
      exact Evolves.single core.state.ledger (.write now order) trivial
  | close id status =>
      exact Evolves.single core.state.ledger (.close now id status) trivial
  | joinGroup id group =>
      exact Evolves.single core.state.ledger (.joinGroup now id group) trivial
  | place ticket => exact (writesThrough now ticket core.state).any
  | submitPair group first second =>
      exact placePair_evolves writesThrough now group first second core.state
  | reconcile =>
      exact reconcileAll_evolves core.directory core.settings.absencePolicy now core.state
  | watchPairs => exact (watchOnce_evolves core.directory now core.state).any
  | tick =>
      exact (tickTrails_evolves writesThrough core.directory now _ core.book core.state).any
  | listingArrives venue answer =>
      exact applyListing_evolves core.settings.absencePolicy now venue answer core.state.ledger
  | cancelAnswered pair answer =>
      exact (settleCancel_evolves now pair answer core.state.ledger).any
  | legsPlaced group first second =>
      exact linkPair_evolves now group first second core.state.ledger
  | elsewhere book world => exact Evolves.refl core.state.ledger

theorem run_broker (core : Core World) (events : List (Instant × CoreEvent World)) :
    (core.run events).broker = core.broker := by
  induction events generalizing core with
  | nil => rfl
  | cons event rest inductionHypothesis =>
      exact (inductionHypothesis (core.after event.1 event.2)).trans
        (core.after_broker event.1 event.2)

theorem run_evolves {core : Core World} (writesThrough : core.broker.WritesThrough)
    (events : List (Instant × CoreEvent World)) :
    Evolves LedgerCall.Any core.state.ledger (core.run events).state.ledger := by
  induction events generalizing core with
  | nil => exact Evolves.refl core.state.ledger
  | cons event rest inductionHypothesis =>
      have nextWritesThrough : (core.after event.1 event.2).broker.WritesThrough := by
        rw [after_broker]
        exact writesThrough
      exact (after_evolves writesThrough event.1 event.2).trans
        (inductionHypothesis nextWritesThrough)

/-- At any two moments of any run, what the ledger holds at the first it still holds at the
second, a final order with its status and so never again among the open ones.  At every
moment a rejected write and a refused close leave the ledger as it is. -/
theorem run_keeps_stored_orders (core : Core World) (writesThrough : core.broker.WritesThrough)
    (earlier later : List (Instant × CoreEvent World)) :
    let present := (core.run earlier).state.ledger
    let future := ((core.run earlier).run later).state.ledger
    (∀ id order, present.get? id = some order →
      ∃ kept, future.get? id = some kept ∧ kept.id = id ∧
        (order.status.isFinal = true →
          kept.status = order.status ∧ ∀ listed ∈ future.stillOpen, listed.id ≠ id)) ∧
    (∀ now order, (present.write now order).2 = .rejectedTerminal →
      (present.write now order).1 = present) ∧
    (∀ now id status, (present.close now id status).2 = false →
      (present.close now id status).1 = present) := by
  intro present future
  have presentWritesThrough : (core.run earlier).broker.WritesThrough := by
    rw [run_broker]
    exact writesThrough
  have keepsOrders : present.KeepsOrders future :=
    (run_evolves presentWritesThrough later).keepsOrders
  refine ⟨fun id order stored => ?_, fun now order => Ledger.write_of_rejected,
    fun now id status => Ledger.close_of_false⟩
  obtain ⟨kept, keptStored, keptStatus⟩ := keepsOrders id order stored
  refine ⟨kept, keptStored, Ledger.id_of_get? keptStored, fun final => ⟨keptStatus final, ?_⟩⟩
  intro listed listedOpen listedId
  obtain ⟨listedMember, isOpen⟩ := List.mem_filter.mp listedOpen
  have sameOrder : listed = kept := by
    have found := Ledger.get?_of_mem listedMember
    rw [listedId, keptStored] at found
    exact (Option.some.inj found).symm
  have listedFinal : listed.status.isFinal = true := by
    rw [sameOrder, keptStatus final]
    exact final
  rw [Order.isOpen_of_final listedFinal] at isOpen
  cases isOpen

/-- A filled order of a paper core outlasts an attempt to reopen it, one to cancel it, and a
pass of each daemon. -/
theorem filled_order_outlasts_run :
    let core := PaperCore.create (PaperCore.numberedId "paper") Settings.default
    let order := { Order.create ⟨0, 0⟩ ⟨"a"⟩ "key" "BTC.PAPER" .buy .limit .one with
      status := .filled }
    let earlier := [(⟨0, 0⟩, .write order)]
    let later := [(⟨1, 0⟩, .write { order with status := .new }),
      (⟨2, 0⟩, .close order.id .canceled), (⟨3, 0⟩, .reconcile), (⟨4, 0⟩, .watchPairs),
      (⟨5, 0⟩, .tick)]
    core.broker.WritesThrough ∧ (core.run earlier).state.ledger.get? order.id = some order ∧
      ∃ kept, ((core.run earlier).run later).state.ledger.get? order.id = some kept ∧
        kept.status = .filled := by
  intro core order earlier later
  have writesThrough : core.broker.WritesThrough := PaperBroker.writesThrough _
  have stored : (core.run earlier).state.ledger.get? order.id = some order := by decide
  obtain ⟨kept, keptStored, -, keptFinal⟩ :=
    (run_keeps_stored_orders core writesThrough earlier later).1 order.id order stored
  exact ⟨writesThrough, stored, kept, keptStored, (keptFinal rfl).1⟩

end Core

end OrderKeeper
