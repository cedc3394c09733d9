import OrderKeeper.Proofs.Core.Passes
import OrderKeeper.Proofs.Paper.Listings
import OrderKeeper.Proofs.Paper.Watch

/-!
Contract: runs of a core on paper venues, with the ledger and the books in step throughout.

Owns: the passes as changes that keep the two in step, the moves of a run, and the main
statement: open orders are listed, rows have their orders, refused placements change nothing,
and no reconciliation of the run finds anything.

Three writers change the two sides: placements enter an order and its row together, a pass over
the pairs takes a row away once it has closed the order, and orders that are closed by hand keep
theirs.  So an open order never lacks its row and a row never lacks its order, whether a venue
fails in between or not.
-/

set_option autoImplicit false

namespace OrderKeeper

/-! ## Passes -/

theorem Order.isOpen_closed (now : Instant) {status : Status} (final : status.isFinal = true)
    (order : Order) : (order.closed now status).isOpen = false := by
  unfold Order.closed
  cases isOpen : order.isOpen with
  | false => simpa using isOpen
  | true =>
      rw [final]
      exact Order.isOpen_of_final final

theorem Order.bookPlace?_of_whereabouts {first second : Order}
    (same : first.whereabouts = second.whereabouts) : first.bookPlace? = second.bookPlace? := by
  have sameSymbol : first.symbol = second.symbol := congrArg Whereabouts.symbol same
  have sameId : first.venueOrderId = second.venueOrderId := congrArg Whereabouts.venueOrderId same
  unfold Order.bookPlace? Order.venue?
  rw [sameSymbol, sameId]

namespace InStep

variable {ids : Nat → OrderId} {configured : List String} {state : State PaperMarket}

/-- An order that is closed loses its row, if it still has one. -/
theorem closeAndRemove (inStep : InStep ids configured state) (now : Instant) {status : Status}
    (final : status.isFinal = true) {order : Order} (member : order ∈ state.ledger.orders)
    {place : BookPlace} (atPlace : order.bookPlace? = some place) :
    InStep ids configured
      { ledger := (state.ledger.close now order.id status).1
        world := state.world.remove place } := by
  refine (inStep.close now order.id status).remove ?_
  intro closed closedMember closedPlace
  rw [Ledger.close_orders] at closedMember
  obtain ⟨before, beforeMember, rfl⟩ := List.mem_map.mp closedMember
  by_cases here : before.id = order.id
  · rw [if_pos here]
    exact before.isOpen_closed now final
  · rw [if_neg here] at closedPlace
    have same := inStep.backed.eq_of_same_place beforeMember member
      (closedPlace.trans atPlace.symm)
    exact absurd (congrArg Order.id same) here

/-- A sibling is canceled and leaves its book, or its venue refuses and it stays in both. -/
theorem cancelSibling (trimmed : PaperMarket.AreTrimmed configured)
    (inStep : InStep ids configured state) (now : Instant) {pair : BrokenPair}
    (isThere : pair.sibling.whereabouts ∈ state.ledger.whereabouts) :
    InStep ids configured
      (cancelSibling (PaperMarket.directory configured) now pair state).1 := by
  obtain ⟨order, member, sameWhereabouts⟩ := (state.ledger.mem_whereabouts _).mp isThere
  obtain ⟨place, atPlace⟩ := inStep.backed.exists_place member
  have sameId : order.id = pair.sibling.id := congrArg Whereabouts.id sameWhereabouts
  have siblingPlace : pair.sibling.bookPlace? = some place :=
    (Order.bookPlace?_of_whereabouts sameWhereabouts).symm.trans atPlace
  rw [cancelSibling_at trimmed siblingPlace (inStep.atVenues order member place atPlace)]
  cases failing : (state.world.venueAt place.label).failing with
  | true =>
      rw [PaperMarket.cancel_of_failing state.world failing]
      exact (inStep.close now pair.filled.id .filled).setVenue rfl rfl rfl
  | false =>
      rw [PaperMarket.cancel_of_reachable state.world failing]
      cases found : state.world.rowAt? place with
      | some row =>
          have isFinal : Status.canceled.isFinal = true := rfl
          have canceled := inStep.closeAndRemove now isFinal member atPlace
          rw [sameId] at canceled
          exact canceled.close now pair.filled.id .filled
      | none =>
          refine (inStep.remove fun other otherMember otherPlace => ?_).close now pair.filled.id
            .filled
          rw [Bool.eq_false_iff]
          intro isOpen
          have hasRow := inStep.openListed other otherMember isOpen
          rw [PaperMarket.hasRowOf_iff otherPlace, found] at hasRow
          cases hasRow

theorem cancelSiblings (trimmed : PaperMarket.AreTrimmed configured)
    (inStep : InStep ids configured state) (now : Instant) {pairs : List BrokenPair}
    (areThere : ∀ pair ∈ pairs, pair.sibling.whereabouts ∈ state.ledger.whereabouts) :
    InStep ids configured
      (cancelSiblings (PaperMarket.directory configured) now pairs state) := by
  induction pairs generalizing state with
  | nil => exact inStep
  | cons pair rest inductionHypothesis =>
      refine inductionHypothesis
        (inStep.cancelSibling trimmed now (areThere pair List.mem_cons_self)) fun later member => ?_
      -- The cancel of one sibling only closes orders, so the others stay where they are.
      rw [Ledger.whereabouts_of_evolves (cancelSibling_evolves _ now pair state)]
      exact areThere later (List.mem_cons_of_mem pair member)

theorem watch (trimmed : PaperMarket.AreTrimmed configured)
    (inStep : InStep ids configured state) (now : Instant) :
    InStep ids configured (watchOnce (PaperMarket.directory configured) now state).1 := by
  rw [(watchOnce_eq (PaperMarket.directory configured) now state).1]
  refine inStep.cancelSiblings trimmed now fun pair member => ?_
  have isSibling := (state.ledger.mem_siblings_iff pair.sibling).mp (List.mem_map_of_mem member)
  exact Ledger.whereabouts_mem (List.mem_filter.mp isSibling).1

theorem tick (inStep : InStep ids configured state) (distinctIds : Function.Injective ids)
    (now : Instant) (book : TrailBook) :
    InStep ids configured
      (tickOnce (PaperMarket.directory configured) (PaperMarket.broker ids configured).toBroker now
        book state).state := by
  refine tickTrails_keeps (InStep ids configured) _ now (fun symbol before holds => ?_)
    (fun ticket before holds => holds.place distinctIds now ticket) _ book inStep
  rw [PaperMarket.usablePrice?_keeps_world]
  exact holds

end InStep

/-! ## Moves -/

/-- What happens at a venue beside its book. -/
inductive VenueEdit where
  | setFailing (failing : Bool)
  | quote (symbol : String) (price : Decimal)
  | unquote (symbol : String)
  | drift (bound : Binary64) (word : Nat → UInt64)

namespace VenueEdit

def apply (venue : PaperExchange) : VenueEdit → PaperExchange
  | .setFailing failing => venue.withFailing failing
  | .quote symbol price => venue.quote symbol price
  | .unquote symbol => venue.unquote symbol
  | .drift bound word => (venue.drift bound word).1

theorem apply_keeps (venue : PaperExchange) (edit : VenueEdit) :
    (edit.apply venue).book = venue.book ∧ (edit.apply venue).name = venue.name ∧
      (edit.apply venue).nextNumber = venue.nextNumber := by
  cases edit with
  | setFailing failing => exact ⟨rfl, rfl, rfl⟩
  | quote symbol price => exact ⟨rfl, rfl, rfl⟩
  | unquote symbol => exact ⟨rfl, rfl, rfl⟩
  | drift bound word =>
      have onlyPrices : (venue.drift bound word).1 =
          { venue with prices := (venue.drift bound word).1.prices } := by
        unfold PaperExchange.drift
        split <;> rfl
      show (venue.drift bound word).1.book = venue.book ∧
        (venue.drift bound word).1.name = venue.name ∧
        (venue.drift bound word).1.nextNumber = venue.nextNumber
      rw [onlyPrices]
      exact ⟨rfl, rfl, rfl⟩

end VenueEdit

/-- Writes an order over itself with a fill. -/
def Ledger.recordFill (ledger : Ledger) (now : Instant) (id : OrderId) (status : Status)
    (filled : Decimal) (average : Option Decimal) : Ledger :=
  match ledger.get? id with
  | none => ledger
  | some order =>
      (ledger.write now
        { order with status, filledQuantity := filled, averageFillPrice := average }).1

/-- An order after a fill was recorded; a final one keeps its status. -/
def Order.withFill (now : Instant) (status : Status) (filled : Decimal)
    (average : Option Decimal) (order : Order) : Order :=
  if order.status.isFinal && order.status != status then order
  else { order with
    status, filledQuantity := filled, averageFillPrice := average, updatedAt := now }

theorem Ledger.recordFill_orders (ledger : Ledger) (now : Instant) (id : OrderId)
    (status : Status) (filled : Decimal) (average : Option Decimal) :
    (ledger.recordFill now id status filled average).orders =
      ledger.orders.map fun order =>
        if order.id = id then order.withFill now status filled average else order := by
  unfold recordFill
  cases stored : ledger.get? id with
  | none =>
      refine ((List.map_congr_left fun order member => ?_).trans (List.map_id _)).symm
      exact if_neg ((ledger.get?_eq_none_iff id).mp stored order member)
  | some current =>
      obtain ⟨isStored, rfl⟩ := (ledger.get?_eq_some_iff id current).mp stored
      let recorded := { current with status, filledQuantity := filled, averageFillPrice := average }
      have isOver : ledger.get? recorded.id = some current := stored
      refine (write_orders_of_stored now isOver).trans ?_
      refine List.map_congr_left fun order member => ?_
      by_cases here : order.id = current.id
      · rw [if_pos here, if_pos here, eq_of_same_id member isStored here]
        rfl
      · rw [if_neg here, if_neg here]

/-- Something that happens to a core on paper venues, at which it does not rewrite a book. -/
inductive PaperMove where
  | place (ticket : OrderTicket)
  | submitPair (group : String) (first second : OrderTicket)
  | editVenue (label : String) (edit : VenueEdit)
  | recordFill (id : OrderId) (status : Status) (filled : Decimal) (average : Option Decimal)
  | close (id : OrderId) (status : Status)
  /-- Trails are armed and removed. -/
  | setTrails (book : TrailBook)
  | watchPairs
  | tick
  | reconcile

namespace Core

/-- The core after a move, and what a reconciliation reports. -/
def makeMove (core : Core PaperMarket) (now : Instant) :
    PaperMove → Core PaperMarket × Option ReconcileSummary
  | .place ticket => ((core.place now ticket).1, none)
  | .submitPair group first second => ((core.submitPair now group first second).1, none)
  | .editVenue label edit =>
      let market := core.state.world
      let edited := market.setVenue label (edit.apply (market.venueAt label))
      ({ core with state := { core.state with world := edited } }, none)
  | .recordFill id status filled average =>
      let ledger := core.state.ledger.recordFill now id status filled average
      ({ core with state := { core.state with ledger } }, none)
  | .close id status => ((core.updateLedger fun ledger => ledger.close now id status).1, none)
  | .setTrails book => ({ core with book }, none)
  | .watchPairs => ((core.watchPairs now).1, none)
  | .tick => ((core.tick now).1, none)
  | .reconcile =>
      let (core, summary) := core.reconcile now
      (core, some summary)

/-- The core after moves, each at its own time, and the reports of the run. -/
def makeMoves (core : Core PaperMarket) :
    List (Instant × PaperMove) → Core PaperMarket × List ReconcileSummary
  | [] => (core, [])
  | (now, move) :: rest =>
      let (next, report) := core.makeMove now move
      let (last, reports) := next.makeMoves rest
      (last, report.toList ++ reports)

/-- A core on paper venues whose ledger is in step with their books. -/
structure IsInStep (ids : Nat → OrderId) (configured : List String) (core : Core PaperMarket) :
    Prop where
  directory : core.directory = PaperMarket.directory configured
  broker : core.broker = (PaperMarket.broker ids configured).toBroker
  inStep : InStep ids configured core.state

end Core

namespace InStep

variable {ids : Nat → OrderId} {configured : List String} {state : State PaperMarket}

theorem recordFill (inStep : InStep ids configured state) (now : Instant) (id : OrderId)
    (status : Status) (filled : Decimal) (average : Option Decimal) :
    InStep ids configured
      { state with ledger := state.ledger.recordFill now id status filled average } := by
  refine inStep.of_change_at (state.ledger.recordFill_orders now id status filled average)
    (fun order => ?_) fun order => ?_
  · unfold Order.withFill
    split
    · exact .refl order
    · exact ⟨rfl, rfl, rfl⟩
  · unfold Order.withFill
    split
    · exact fun isOpen => isOpen
    · rename_i accepted
      intro isOpen
      by_contra notOpen
      have final : order.status.isFinal = true := by
        simpa [Status.isFinal, Order.isOpen] using notOpen
      have sameStatus : order.status = status := by simpa [final] using accepted
      have statusOpen : status.isOpen = true := isOpen
      rw [← sameStatus] at statusOpen
      exact notOpen statusOpen

end InStep

namespace Core

variable {ids : Nat → OrderId} {configured : List String} {core : Core PaperMarket}

theorem makeMove_wiring (core : Core PaperMarket) (now : Instant) (move : PaperMove) :
    (core.makeMove now move).1.directory = core.directory ∧
      (core.makeMove now move).1.broker = core.broker := by
  cases move <;> exact ⟨rfl, rfl⟩

/-- A move keeps the ledger and the books in step. -/
theorem IsInStep.makeMove (distinctIds : Function.Injective ids)
    (trimmed : PaperMarket.AreTrimmed configured) (inStep : core.IsInStep ids configured)
    (now : Instant) (move : PaperMove) : (core.makeMove now move).1.IsInStep ids configured := by
  obtain ⟨isDirectory, isBroker, inStep⟩ := inStep
  obtain ⟨sameDirectory, sameBroker⟩ := core.makeMove_wiring now move
  refine ⟨sameDirectory.trans isDirectory, sameBroker.trans isBroker, ?_⟩
  cases move with
  | place ticket =>
      show InStep ids configured (core.broker.place now ticket core.state).2
      rw [isBroker]
      exact inStep.place distinctIds now ticket
  | submitPair group first second =>
      show InStep ids configured (placePair core.broker now group first second core.state).2
      rw [isBroker]
      exact inStep.placePair distinctIds now group first second
  | editVenue label edit =>
      obtain ⟨sameBook, sameName, sameNumber⟩ := edit.apply_keeps (core.state.world.venueAt label)
      exact inStep.setVenue sameBook sameName sameNumber
  | recordFill id status filled average => exact inStep.recordFill now id status filled average
  | close id status => exact inStep.close now id status
  | setTrails book => exact inStep
  | watchPairs =>
      show InStep ids configured (watchOnce core.directory now core.state).1
      rw [isDirectory]
      exact inStep.watch trimmed now
  | tick =>
      show InStep ids configured
        (tickOnce core.directory core.broker now core.book core.state).state
      rw [isDirectory, isBroker]
      exact inStep.tick distinctIds now core.book
  | reconcile =>
      show InStep ids configured
        (reconcileAll core.directory core.settings.absencePolicy now core.state).1
      rw [isDirectory, (reconcileAll_finds_nothing trimmed inStep.backed inStep.openListed
        core.settings.absencePolicy now).1]
      exact inStep

/-- While the two are in step, a reconciliation finds nothing. -/
theorem IsInStep.quiet (trimmed : PaperMarket.AreTrimmed configured)
    (inStep : core.IsInStep ids configured) (now : Instant) (move : PaperMove) :
    ∀ report ∈ (core.makeMove now move).2,
      report.imported = 0 ∧ report.closed = 0 ∧ report.malformed = 0 := by
  obtain ⟨isDirectory, -, inStep⟩ := inStep
  cases move with
  | reconcile =>
      have nothing := (reconcileAll_finds_nothing trimmed inStep.backed inStep.openListed
        core.settings.absencePolicy now).2
      rw [← isDirectory] at nothing
      intro report isReport
      rw [← Option.some.inj isReport]
      exact nothing
  | _ => exact fun _ none => nomatch none

theorem IsInStep.makeMoves (distinctIds : Function.Injective ids)
    (trimmed : PaperMarket.AreTrimmed configured) (inStep : core.IsInStep ids configured)
    (moves : List (Instant × PaperMove)) :
    (core.makeMoves moves).1.IsInStep ids configured ∧
      ∀ report ∈ (core.makeMoves moves).2,
        report.imported = 0 ∧ report.closed = 0 ∧ report.malformed = 0 := by
  induction moves generalizing core with
  | nil => exact ⟨inStep, fun _ impossible => nomatch impossible⟩
  | cons move rest inductionHypothesis =>
      obtain ⟨last, restQuiet⟩ :=
        inductionHypothesis (inStep.makeMove distinctIds trimmed move.1 move.2)
      refine ⟨last, fun report isReport => ?_⟩
      rcases List.mem_append.mp isReport with early | late
      · exact inStep.quiet trimmed move.1 move.2 report (Option.mem_toList.mp early)
      · exact restQuiet report late

end Core

/-- Whatever a core on paper venues has been through, short of a book that was rewritten by hand,
every open order has its row, every row belongs to exactly one order on its venue, and no
reconciliation has found anything.  A refused placement changes nothing, then or ever. -/
theorem PaperCore.makeMoves_keep_step {ids : Nat → OrderId} (distinctIds : Function.Injective ids)
    (settings : Settings) (trimmed : PaperMarket.AreTrimmed settings.paperVenues)
    (moves : List (Instant × PaperMove)) :
    let run := (PaperCore.create ids settings).makeMoves moves
    let state := run.1.state
    (∀ order ∈ state.ledger.orders, order.isOpen = true → state.world.HasRowOf order) ∧
      (∀ label, ∀ row ∈ (state.world.venueAt label).listing, ∃ id, row.orderId = some id ∧
        ∃! order, order ∈ state.ledger.onVenue label ∧ order.venueOrderId = some id) ∧
      (∀ now ticket before cause, (run.1.broker.place now ticket before).1 = .error cause →
        (run.1.broker.place now ticket before).2 = before) ∧
      ∀ report ∈ run.2, report.imported = 0 ∧ report.closed = 0 ∧ report.malformed = 0 := by
  intro run state
  have start : (PaperCore.create ids settings).IsInStep ids settings.paperVenues :=
    ⟨rfl, rfl, .start ids settings.paperVenues⟩
  obtain ⟨⟨-, isBroker, inStep⟩, quiet⟩ := start.makeMoves distinctIds trimmed moves
  refine ⟨inStep.openListed, fun label row listed => inStep.row_owner listed, ?_, quiet⟩
  intro now ticket before cause refused
  have isPlaced : run.1.broker.place now ticket before =
      (PaperMarket.broker ids settings.paperVenues).place now ticket before := by
    rw [isBroker]
    rfl
  rw [isPlaced] at refused ⊢
  rcases PaperMarket.refused_or_accepted ids settings.paperVenues now ticket before with
    ⟨other, isRefused⟩ | ⟨label, order, after, accepted, -⟩
  · rw [isRefused]
  · rw [accepted] at refused
    cases refused

/-- One leg of a pair is refused by a venue that fails, and an order is filled while its row
stands.  What is left open has its row, and the reconciliation finds nothing. -/
theorem half_placed_pair_keeps_step :
    let ids := PaperCore.numberedId "order"
    let settings := { Settings.default with paperVenues := ["Paper", "Desk"] }
    let moves : List (Instant × PaperMove) :=
      [(⟨0, 0⟩, .place (.limit "early" "BTC.paper" .buy .one .one)),
        (⟨1, 0⟩, .editVenue "DESK" (.setFailing true)),
        (⟨2, 0⟩, .submitPair "pair" (.stopMarket "stop" "BTC.paper" .sell .one .one)
          (.limit "target" "BTC.desk" .sell .one .one)),
        (⟨3, 0⟩, .recordFill ⟨"order:1"⟩ .filled .one (some .one))]
    let placed := (PaperCore.create ids settings).makeMoves moves
    let run := (PaperCore.create ids settings).makeMoves (moves ++ [(⟨4, 0⟩, .reconcile)])
    placed.1.state.ledger.orders.map (fun order => (order.id.text, order.status)) =
        [("order:1", .filled), ("order:2", .new)] ∧
      (∀ order ∈ placed.1.state.ledger.orders, order.isOpen = true →
        placed.1.state.world.HasRowOf order) ∧
      run.2.length = 1 ∧
      ∀ report ∈ run.2, report.imported = 0 ∧ report.closed = 0 ∧ report.malformed = 0 := by
  intro ids settings moves placed run
  have distinctIds : Function.Injective ids := PaperCore.numberedId_injective "order"
  have trimmed : PaperMarket.AreTrimmed settings.paperVenues := by decide
  obtain ⟨listed, -⟩ := PaperCore.makeMoves_keep_step distinctIds settings trimmed moves
  obtain ⟨-, -, -, quiet⟩ := PaperCore.makeMoves_keep_step distinctIds settings trimmed
    (moves ++ [(⟨4, 0⟩, .reconcile)])
  exact ⟨by decide +kernel, listed, rfl, quiet⟩

end OrderKeeper
