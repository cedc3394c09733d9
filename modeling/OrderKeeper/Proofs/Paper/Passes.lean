import OrderKeeper.Paper.Core
import OrderKeeper.Proofs.Paper.Directory

/-!
Contract: the passes of a core as passes over its state.

Owns: the state and the summary that either pass of a core leaves, and the reconciliation of
paper venues of which none fails as the application of their books.

Does not own: what the books do to the ledger.
-/

set_option autoImplicit false

namespace OrderKeeper

variable {World : Type}

/-- A pass of a core is the pass over its state, counted. -/
theorem Core.reconcile_eq (core : Core World) (now : Instant) :
    let pass := reconcileAll core.directory core.settings.absencePolicy now core.state
    core.reconcile now =
      ({ core with state := pass.1, counters := core.counters.addReconcile pass.2 }, pass.2) := by
  unfold Core.reconcile
  generalize reconcileAll core.directory core.settings.absencePolicy now core.state = pass
  rfl

theorem Core.watchPairs_eq (core : Core World) (now : Instant) :
    let pass := watchOnce core.directory now core.state
    core.watchPairs now =
      ({ core with state := pass.1, counters := core.counters.addPairPass pass.2 }, pass.2) := by
  unfold Core.watchPairs
  generalize watchOnce core.directory now core.state = pass
  rfl

/-- A pass over paper venues applies their books one after the other and changes none. -/
theorem reconcileAll_on_paper {configured : List String}
    (trimmed : PaperMarket.AreTrimmed configured) {state : State PaperMarket}
    (reachable : ∀ label ∈ PaperMarket.venueNames configured,
      (state.world.venueAt label).failing = false)
    (policy : AbsencePolicy) (now : Instant) :
    let directory := PaperMarket.directory configured
    let applied :=
      applyAnswers policy now (directory.keys.map state.world.listingOf) state.ledger
    reconcileAll directory policy now state =
      ({ ledger := applied.1, world := state.world }, ReconcileSummary.empty.addAll applied.2) := by
  intro directory applied
  have areNames : ∀ label ∈ directory.keys, label ∈ PaperMarket.venueNames configured :=
    fun label member => (PaperMarket.mem_keys_directory trimmed label).mp member
  have answers := PaperMarket.answersOf_directory trimmed areNames
    fun label member => reachable label (areNames label member)
  unfold reconcileAll
  rw [foldl_visitVenue, answers]

end OrderKeeper
