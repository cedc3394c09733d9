import OrderKeeper.Proofs.Paper.Passes
import OrderKeeper.Proofs.Paper.RowImport
import OrderKeeper.Proofs.Reconcile.Accounting

/-!
Contract: the orders of a paper venue, recovered from its listing by a core without a ledger.

Owns: the history of a market with the orders as they were written, the soundness of every
history, and the main statement: a pass of a new core imports one order for each that is still
listed, equal to the written one in everything that the venue knows.

The books that placements leave are those that an import understands: `Backed` is where the
two halves meet.
-/

set_option autoImplicit false

namespace OrderKeeper

/-! ## Histories -/

/-- Something that happens on paper venues. -/
inductive PaperEvent where
  | place (now : Instant) (ticket : OrderTicket)
  /-- A venue is asked to cancel an order. -/
  | cancel (label venueOrderId symbol : String)
  /-- A row goes without a word, as that of a filled order does. -/
  | remove (place : BookPlace)
  | setFailing (label : String) (failing : Bool)

/-- A market after some events, with the ledger of its broker. -/
structure PaperHistory where
  state : State PaperMarket
  /-- The orders of accepted tickets, each as the ledger had it right after its placement. -/
  written : List Order

namespace PaperHistory

variable (ids : Nat → OrderId) (configured : List String)

def start : PaperHistory where
  state := { ledger := .empty, world := .ofNames configured }
  written := []

def after (history : PaperHistory) : PaperEvent → PaperHistory
  | .place now ticket =>
      match (PaperMarket.broker ids configured).place now ticket history.state with
      | (.ok receipt, state) =>
          { state, written := history.written ++ (state.ledger.get? receipt.id).toList }
      | (.error _, state) => { history with state }
  | .cancel label id symbol =>
      { history with
        state.world :=
          ((PaperMarket.slot label).gateway.cancel id symbol history.state.world).2 }
  | .remove place => { history with state.world := history.state.world.remove place }
  | .setFailing label failing =>
      let venue := history.state.world.venueAt label
      { history with
        state.world := history.state.world.setVenue label (venue.withFailing failing) }

def run (events : List PaperEvent) : PaperHistory :=
  events.foldl (after ids configured) (start configured)

/-- The written orders back the books, as they were placed; and the ledger, which nothing but
placements changes, has open orders only. -/
structure IsSound (history : PaperHistory) : Prop where
  backed : history.state.world.Backed history.written
  asPlaced : ∀ order ∈ history.written, order.IsAsPlaced
  areOpen : ∀ order ∈ history.state.ledger.orders, order.isOpen = true

variable {ids configured} {history : PaperHistory}

theorem IsSound.start : (start configured).IsSound :=
  ⟨.start configured, fun _ impossible => (nomatch impossible),
    fun _ impossible => (nomatch impossible)⟩

/-- An accepted ticket adds its order to the written ones. -/
theorem IsSound.place (sound : history.IsSound) {now : Instant} {ticket : OrderTicket}
    {label : String} {order : Order} {state : State PaperMarket}
    (accepts : PaperMarket.Accepts ids configured now ticket history.state state label order) :
    IsSound { state, written := history.written ++ (state.ledger.get? order.id).toList } := by
  obtain ⟨isNew, nothingFilled, -, quantity⟩ := accepts.isNew
  -- What lay under the id was open, so that the write is not refused.
  have written : order.writtenOver now (history.state.ledger.get? order.id) = order := by
    cases stored : history.state.ledger.get? order.id with
    | none => exact accepts.stamped
    | some current =>
        have isOpen := sound.areOpen current
          ((history.state.ledger.get?_eq_some_iff order.id current).mp stored).1
        have notFinal : current.status.isFinal = false := by
          unfold Status.isFinal
          rw [show current.status.isOpen = true from isOpen]
          rfl
        rw [Order.writtenOver, notFinal, Bool.false_and, if_neg Bool.false_ne_true]
        exact accepts.stamped
  have lookup (id : OrderId) : state.ledger.get? id =
      if id = order.id then some order else history.state.ledger.get? id := by
    rw [accepts.ledger, Ledger.get?_write, written]
  have found : state.ledger.get? order.id = some order := by
    rw [lookup, if_pos rfl]
  rw [found, Option.toList_some]
  refine ⟨sound.backed.accept accepts, fun other member => ?_, fun other member => ?_⟩
  · rcases List.mem_append.mp member with old | isLast
    · exact sound.asPlaced other old
    · rw [List.mem_singleton.mp isLast]
      exact ⟨isNew, nothingFilled, quantity ▸ accepts.isPositive⟩
  · have stored := Ledger.get?_of_mem member
    rw [lookup] at stored
    by_cases here : other.id = order.id
    · rw [if_pos here] at stored
      rw [← Option.some.inj stored]
      exact accepts.isOpen
    · rw [if_neg here] at stored
      exact sound.areOpen other ((history.state.ledger.get?_eq_some_iff other.id other).mp stored).1

theorem IsSound.after (sound : history.IsSound) (event : PaperEvent) :
    (history.after ids configured event).IsSound := by
  cases event with
  | place now ticket =>
      rcases PaperMarket.refused_or_accepted ids configured now ticket history.state with
        ⟨cause, refused⟩ | ⟨label, order, state, accepted, accepts⟩
      · simp only [PaperHistory.after, refused]
        exact sound
      · simp only [PaperHistory.after, accepted]
        exact sound.place accepts
  | cancel label id symbol =>
      refine ⟨?_, sound.asPlaced, sound.areOpen⟩
      show PaperMarket.Backed
        ((PaperMarket.slot label).gateway.cancel id symbol history.state.world).2 history.written
      cases failing : (history.state.world.venueAt label).failing with
      | false =>
          rw [PaperMarket.cancel_of_reachable history.state.world failing]
          exact sound.backed.removeAll [⟨label, id⟩]
      | true =>
          have unchanged : ((PaperMarket.slot label).gateway.cancel id symbol
              history.state.world).2 =
                history.state.world.setVenue label (history.state.world.venueAt label) := by
            simp [PaperSlot.gateway, PaperMarket.slot, PaperExchange.answerCancel, failing]
          have sameVenues (other : String) :
              (history.state.world.setVenue label (history.state.world.venueAt label)).venueAt
                other = history.state.world.venueAt other := by
            rw [PaperMarket.venueAt_setVenue]
            by_cases here : other = label
            · rw [if_pos here, here]
            · rw [if_neg here]
          rw [unchanged]
          refine sound.backed.of_fewer_rows (fun other => ?_) fun place row found => ?_
          · rw [sameVenues]
            exact ⟨rfl, rfl⟩
          · rwa [PaperMarket.rowAt?, sameVenues] at found
  | remove place => exact ⟨sound.backed.removeAll [place], sound.asPlaced, sound.areOpen⟩
  | setFailing label failing =>
      refine ⟨?_, sound.asPlaced, sound.areOpen⟩
      have venues (other : String) := PaperMarket.venueAt_setVenue history.state.world label
        ((history.state.world.venueAt label).withFailing failing) other
      refine sound.backed.of_fewer_rows (fun other => ?_) fun place row found => ?_
      · show ((history.state.world.setVenue label _).venueAt other).name = _ ∧
          ((history.state.world.setVenue label _).venueAt other).nextNumber = _
        rw [venues]
        by_cases here : other = label
        · rw [if_pos here, here]
          exact ⟨rfl, rfl⟩
        · rw [if_neg here]
          exact ⟨rfl, rfl⟩
      · change ((history.state.world.setVenue label _).venueAt place.label).book.get?
          place.venueOrderId = some row at found
        rw [venues] at found
        by_cases here : place.label = label
        · rw [if_pos here] at found
          rw [PaperMarket.rowAt?, here]
          exact found
        · rw [if_neg here] at found
          exact found

theorem isSound_run (ids : Nat → OrderId) (configured : List String) (events : List PaperEvent) :
    (run ids configured events).IsSound := by
  have fromAny : ∀ history : PaperHistory, history.IsSound →
      (events.foldl (PaperHistory.after ids configured) history).IsSound := by
    induction events with
    | nil => exact fun _ sound => sound
    | cons event rest inductionHypothesis =>
        exact fun history sound => inductionHypothesis _ (sound.after event)
  exact fromAny _ .start

end PaperHistory

/-! ## The first pass of a new core -/

/-- An empty ledger takes over every row of distinct ids. -/
theorem unknownRows_of_empty (venue : String) {rows : List ListedOrder}
    (haveIds : ∀ row ∈ rows, row.orderId ≠ none)
    (distinct : (rows.map ListedOrder.orderId).Nodup) :
    Ledger.empty.unknownRows venue rows = rows := by
  unfold Ledger.unknownRows
  rw [lastRows_of_distinct haveIds distinct, List.filter_eq_self]
  intro row _
  rw [decide_eq_true_iff]
  intro id _
  constructor
  · rintro ⟨order, impossible, -⟩
    cases impossible
  · rintro ⟨order, impossible, -⟩
    cases impossible

/-- What one listing brings into an empty ledger. -/
theorem alignWithListing_of_empty (policy : AbsencePolicy) (now : Instant) (venue : String)
    {rows : List ListedOrder} (haveIds : ∀ row ∈ rows, row.orderId ≠ none)
    (distinct : (rows.map ListedOrder.orderId).Nodup) :
    let aligned := alignWithListing policy now venue rows .empty
    aligned.1.orders.Perm (takenOver now venue rows) ∧
      aligned.2 = { imported := aligned.1.orders.length
                    closed := 0
                    malformed := (refusedRows now venue rows).length } := by
  intro aligned
  have importsKept : Ledger.empty.ImportsKept venue := fun _ impossible => (nomatch impossible)
  obtain ⟨perm, orders, imported, malformed⟩ :=
    alignWithListing_orders importsKept policy now rows
  rw [unknownRows_of_empty venue haveIds distinct] at perm malformed
  rw [countWithoutId_of_ids haveIds, Nat.zero_add] at malformed
  have closed : aligned.2.closed = 0 :=
    (alignWithListing_closed policy now venue rows .empty).trans (ite_self 0)
  have onlyNew : aligned.1.orders = Ledger.empty.arrivals aligned.1 := orders
  rw [← onlyNew] at perm imported
  refine ⟨perm, ?_⟩
  rw [← imported, ← malformed, ← closed]

section Backed

variable {market : PaperMarket} {orders : List Order} {name : String}

/-- The orders of a venue that are still listed are imported from its listing, and no row is
refused. -/
theorem listing_recovers (backed : market.Backed orders)
    (asPlaced : ∀ order ∈ orders, order.IsAsPlaced)
    (plainBases : ∀ order ∈ orders, Symbol.isOn order.symbol name = true →
      Symbol.isOn (Symbol.base order.symbol) name = false) (now : Instant) :
    let rows := (market.venueAt (Text.upper name)).listing
    let listed := orders.filter fun order =>
      Symbol.isOn order.symbol name = true ∧ market.HasRowOf order
    rows.Perm (listed.map Order.paperRow) ∧ refusedRows now (Text.upper name) rows = [] ∧
      List.Forall₂ Order.IsRecoveredBy listed
        (takenOver now (Text.upper name) (listed.map Order.paperRow)) := by
  intro rows listed
  have isUpper := Text.upper_upper name
  have rowsPerm : rows.Perm (listed.map Order.paperRow) := by
    have perm := backed.listing_perm isUpper
    simp only [Symbol.isOn_upper] at perm
    exact perm
  have standFor : ∀ order ∈ listed, ∃ imported,
      importedOrder now (Text.upper name) order.paperRow = .ok imported ∧
        order.IsRecoveredBy imported := by
    intro order member
    obtain ⟨stored, isListed⟩ := List.mem_filter.mp member
    have here := (of_decide_eq_true isListed).1
    obtain ⟨place, atPlace⟩ := backed.exists_place stored
    have isLabel : Text.upper name = place.label := by
      rw [← Order.isOn_iff_of_bookPlace atPlace isUpper, Symbol.isOn_upper]
      exact here
    rw [isLabel]
    refine importedOrder_paperRow now (asPlaced order stored) atPlace ?_
    rw [← isLabel, Symbol.isOn_upper]
    exact plainBases order stored here
  refine ⟨rowsPerm, ?_, takenOver_forall₂ now (Text.upper name) standFor⟩
  unfold refusedRows
  rw [List.filter_eq_nil_iff]
  intro row member
  obtain ⟨order, orderMember, rfl⟩ := List.mem_map.mp (rowsPerm.mem_iff.mp member)
  obtain ⟨imported, taken, -⟩ := standFor order orderMember
  rw [taken]
  exact Bool.false_ne_true

/-- The first pass of a new core is one listing, applied to an empty ledger. -/
theorem first_pass_eq (trimmed : Text.trim name = name)
    (reachable : (market.venueAt (Text.upper name)).failing = false) (settings : Settings)
    (broker : Broker PaperMarket) (now : Instant) :
    let pass := (Core.create settings (PaperMarket.directory [name]) broker market).reconcile now
    let aligned := alignWithListing settings.absencePolicy now (Text.upper name)
      (market.venueAt (Text.upper name)).listing .empty
    pass.1.state.ledger = aligned.1 ∧
      pass.2 = ReconcileSummary.empty.add (Text.upper name) (.checked aligned.2) := by
  have allTrimmed : PaperMarket.AreTrimmed [name] := by
    intro other member
    rw [List.mem_singleton.mp member]
    exact trimmed
  have isName : Text.upper name ∈ PaperMarket.venueNames [name] := List.mem_singleton_self _
  have keys : (PaperMarket.directory [name]).keys = [Text.upper name] := by
    have oneKey : (PaperMarket.directory [name]).keys =
        [venueKey (Text.upper name)].mergeSort fun a b => decide (a ≤ b) := rfl
    rw [oneKey, List.mergeSort_singleton, PaperMarket.venueKey_label allTrimmed isName]
  have allReachable : ∀ label ∈ PaperMarket.venueNames [name],
      (market.venueAt label).failing = false := by
    intro label member
    rw [List.mem_singleton.mp member]
    exact reachable
  have pass := @reconcileAll_on_paper [name] allTrimmed { ledger := .empty, world := market }
    allReachable settings.absencePolicy now
  dsimp only at pass
  rw [keys] at pass
  rw [Core.reconcile_eq]
  simp only [Core.create, pass, List.map_cons, List.map_nil, PaperMarket.listingOf, applyAnswers,
    applyListing, ReconcileSummary.addAll, List.foldl_cons, List.foldl_nil, and_self]

end Backed

/-- Tickets are placed on paper venues, and the venues cancel and lose orders.  Then a core with
an empty ledger passes over one of the venues, which does not fail and whose name has no blanks
around it.  It imports one order for each that is still listed and refuses none, and each
imported order equals the one that was written, in its symbol up to the case of the venue.  This
takes that no base lies on the venue itself; a name with a point is no venue of any symbol. -/
theorem fresh_core_recovers_listed_orders (ids : Nat → OrderId) (configured : List String)
    (events : List PaperEvent) {name : String} (trimmed : Text.trim name = name)
    (reachable : ((PaperHistory.run ids configured events).state.world.venueAt
      (Text.upper name)).failing = false)
    (plainBases : ∀ order ∈ (PaperHistory.run ids configured events).written,
      Symbol.isOn order.symbol name = true →
        Symbol.isOn (Symbol.base order.symbol) name = false)
    (settings : Settings) (broker : Broker PaperMarket) (now : Instant) :
    let history := PaperHistory.run ids configured events
    let market := history.state.world
    let listed := history.written.filter fun order =>
      Symbol.isOn order.symbol name = true ∧ market.HasRowOf order
    let pass := (Core.create settings (PaperMarket.directory [name]) broker market).reconcile now
    (market.venueAt (Text.upper name)).listing.length = listed.length ∧
      pass.2 = { imported := listed.length
                 closed := 0
                 venuesChecked := 1
                 venuesSkipped := 0
                 venuesFailed := []
                 malformed := 0 } ∧
      ∃ imported, imported.Perm pass.1.state.ledger.orders ∧
        List.Forall₂ Order.IsRecoveredBy listed imported := by
  intro history market listed pass
  have sound : history.IsSound := PaperHistory.isSound_run ids configured events
  obtain ⟨haveIds, distinct⟩ := sound.backed.listing_ids (Text.upper name)
  obtain ⟨rowsPerm, noneRefused, recovered⟩ :=
    listing_recovers sound.backed sound.asPlaced plainBases now
  obtain ⟨ledger, summary⟩ := first_pass_eq trimmed reachable settings broker now
  obtain ⟨ordersPerm, delta⟩ := alignWithListing_of_empty settings.absencePolicy now
    (Text.upper name) haveIds distinct
  have importedPerm := ordersPerm.trans (takenOver_perm now (Text.upper name) rowsPerm)
  have count := importedPerm.length_eq.trans recovered.length_eq.symm
  refine ⟨?_, ?_, _, ?_, recovered⟩
  · rw [rowsPerm.length_eq, List.length_map]
  · rw [noneRefused, count] at delta
    refine summary.trans ?_
    rw [delta]
    simp [ReconcileSummary.add, ReconcileSummary.empty, listed, market, history]
  · rw [ledger]
    exact importedPerm.symm

/-- Two orders are placed on a venue, one of them is canceled, and the venue fails for a while.
The other one is recovered. -/
theorem fresh_core_recovers_uncanceled_order :
    let ids := PaperCore.numberedId "order"
    let history := PaperHistory.run ids ["Paper"]
      [.place ⟨0, 0⟩ (.limit "entry" "BTC.USD.paper" .buy .one .one),
        .place ⟨1, 0⟩ (.stopMarket "exit" "ETH.Paper" .sell .one .one),
        .setFailing "PAPER" true, .cancel "PAPER" "PAPER-2" "ETH",
        .setFailing "PAPER" false, .cancel "PAPER" "PAPER-1" "BTC.USD"]
    let pass := (Core.create Settings.default (PaperMarket.directory ["Paper"])
      (PaperMarket.broker ids ["Paper"]).toBroker history.state.world).reconcile ⟨2, 0⟩
    history.written.length = 2 ∧ pass.2 = ⟨1, 0, 1, 0, [], 0⟩ ∧
      ∃ written ∈ history.written, ∃ imported,
        pass.1.state.ledger.orders = [imported] ∧ written.IsRecoveredBy imported := by
  intro ids history pass
  have reachable : (history.state.world.venueAt (Text.upper "Paper")).failing = false := by
    decide +kernel
  have plainBases : ∀ order ∈ history.written, Symbol.isOn order.symbol "Paper" = true →
      Symbol.isOn (Symbol.base order.symbol) "Paper" = false := by
    decide +kernel
  have oneListed : (history.written.filter fun order =>
      Symbol.isOn order.symbol "Paper" = true ∧ history.state.world.HasRowOf order).length = 1 := by
    decide +kernel
  obtain ⟨-, summary, imported, perm, recovered⟩ :=
    fresh_core_recovers_listed_orders ids ["Paper"] _ (by decide) reachable plainBases
      Settings.default (PaperMarket.broker ids ["Paper"]).toBroker ⟨2, 0⟩
  obtain ⟨written, isWritten⟩ := List.length_eq_one_iff.mp oneListed
  rw [oneListed] at summary
  rw [isWritten] at recovered
  have member : written ∈ history.written :=
    (List.mem_filter.mp (isWritten ▸ List.mem_singleton_self written)).1
  cases recovered with
  | @cons _ recoveredOrder _ _ isRecovered none =>
      cases none
      have onlyOne := (List.singleton_perm.mp perm).symm
      refine ⟨by decide +kernel, summary, written, member, recoveredOrder, ?_, isRecovered⟩
      simp only [pass, history]
      exact onlyOne

end OrderKeeper
