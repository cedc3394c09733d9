import OrderKeeper.Proofs.Pair.Cancels
import OrderKeeper.Proofs.Paper.Books
import OrderKeeper.Proofs.Paper.Directory

/-!
Contract: a pass over the pairs whose legs lie on paper venues.

Owns: the cancel of a listed sibling on a venue that does not fail, and a whole pass over
broken pairs with such siblings: each is canceled in the ledger and leaves its book.

Does not own: which pairs are broken.
-/

set_option autoImplicit false

namespace OrderKeeper

/-- Cancels the siblings of broken pairs one after the other. -/
def cancelSiblings {World : Type} (directory : VenueDirectory World) (now : Instant)
    (pairs : List BrokenPair) (state : State World) : State World :=
  pairs.foldl (fun state pair => (cancelSibling directory now pair state).1) state

/-- A pass cancels the siblings of the broken pairs among its groups, and counts them. -/
theorem watchGroups_eq {World : Type} (directory : VenueDirectory World) (now : Instant)
    (groups : List (List Order)) (state : State World) (summary : PairSummary) :
    let pairs := groups.filterMap fun members => (groupState members).pair?
    let result := watchGroups directory now groups (state, summary)
    result.1 = cancelSiblings directory now pairs state ∧
      result.2.triggered = summary.triggered + pairs.length := by
  induction groups generalizing state summary with
  | nil => exact ⟨rfl, rfl⟩
  | cons members rest inductionHypothesis =>
      unfold watchGroups
      cases called : groupState members with
      | settled =>
          rw [List.filterMap_cons_none (by simp [called, GroupState.pair?])]
          exact inductionHypothesis state summary
      | notAPair =>
          rw [List.filterMap_cons_none (by simp [called, GroupState.pair?])]
          exact inductionHypothesis state
            { summary with ignoredGroups := summary.ignoredGroups + 1 }
      | broken pair =>
          rw [List.filterMap_cons_some (by rw [called]; rfl)]
          obtain ⟨last, triggered⟩ := inductionHypothesis
            (cancelSibling directory now pair state).1
            (summary.addOutcome (cancelSibling directory now pair state).2)
          have counted (outcome : CancelOutcome) :
              (summary.addOutcome outcome).triggered = summary.triggered + 1 := by
            cases outcome <;> rfl
          refine ⟨last, triggered.trans ?_⟩
          rw [counted, List.length_cons]
          omega

theorem watchOnce_eq {World : Type} (directory : VenueDirectory World) (now : Instant)
    (state : State World) :
    (watchOnce directory now state).1 =
        cancelSiblings directory now state.ledger.brokenPairs state ∧
      (watchOnce directory now state).2.triggered = state.ledger.brokenPairs.length := by
  obtain ⟨last, triggered⟩ := watchGroups_eq directory now
    (state.ledger.groupIds.map state.ledger.groupMembers) state .empty
  exact ⟨last, triggered.trans (Nat.zero_add _)⟩

/-- What is left of a market once orders have left their books. -/
def PaperMarket.withoutRowsOf (market : PaperMarket) (orders : List Order) : PaperMarket :=
  market.removeAll (orders.filterMap Order.bookPlace?)

/-- The attempts of which every one succeeded. -/
def allCanceled (orders : List Order) : List (Order × CancelAnswer) :=
  orders.map fun order => (order, .ok ())

theorem mem_allCanceled_iff (order : Order) (canceled : List Order) :
    (order, .ok ()) ∈ allCanceled canceled ↔ order ∈ canceled := by
  simp [allCanceled]

theorem Order.afterCancels_allCanceled (now : Instant) (canceled : List Order) (order : Order) :
    order.afterCancels now (allCanceled canceled) =
      if order ∈ canceled then { order with status := .canceled, updatedAt := now } else order := by
  unfold afterCancels
  simp only [mem_allCanceled_iff]

section Paper

variable {configured : List String} (trimmed : PaperMarket.AreTrimmed configured) {now : Instant}
  {state : State PaperMarket}

/-- A listed order on a configured venue. -/
structure IsListedOn (configured : List String) (market : PaperMarket) (order : Order)
    (place : BookPlace) : Prop where
  atPlace : order.bookPlace? = some place
  isConfigured : place.label ∈ PaperMarket.venueNames configured
  reachable : (market.venueAt place.label).failing = false
  hasRow : (market.rowAt? place).isSome = true

include trimmed in
/-- A sibling with a place on a configured venue is asked for there. -/
theorem cancelSibling_at {pair : BrokenPair} {place : BookPlace}
    (atPlace : pair.sibling.bookPlace? = some place)
    (isConfigured : place.label ∈ PaperMarket.venueNames configured) :
    let request := (PaperMarket.slot place.label).gateway.cancel place.venueOrderId
      (Symbol.base pair.sibling.symbol) state.world
    (cancelSibling (PaperMarket.directory configured) now pair state).1 =
      { ledger := (settleCancel now pair request.1 state.ledger).1, world := request.2 } := by
  obtain ⟨⟨suffix, named, sameLabel⟩, ownId⟩ :=
    (pair.sibling.bookPlace?_eq_some_iff place).mp atPlace
  unfold cancelSibling requestCancel
  rw [named, Option.getD_some, PaperMarket.gatewayFor_directory trimmed isConfigured sameLabel,
    ownId]

include trimmed in
/-- A listed sibling is canceled and leaves its book. -/
theorem cancelSibling_on_paper {pair : BrokenPair} {place : BookPlace}
    (listed : IsListedOn configured state.world pair.sibling place) :
    (cancelSibling (PaperMarket.directory configured) now pair state).1 =
      { ledger := (settleCancel now pair (.ok ()) state.ledger).1
        world := state.world.remove place } := by
  obtain ⟨row, found⟩ := Option.isSome_iff_exists.mp listed.hasRow
  rw [cancelSibling_at trimmed listed.atPlace listed.isConfigured,
    PaperMarket.cancel_of_reachable state.world listed.reachable, found]

theorem IsListedOn.remove {market : PaperMarket} {order : Order} {place other : BookPlace}
    (listed : IsListedOn configured market order place) (apart : place ≠ other) :
    IsListedOn configured (market.remove other) order place where
  atPlace := listed.atPlace
  isConfigured := listed.isConfigured
  reachable := by
    rw [(PaperMarket.differsInBooks_remove market other).failing]
    exact listed.reachable
  hasRow := by
    rw [PaperMarket.rowAt?_remove, if_neg apart]
    exact listed.hasRow

include trimmed in
/-- The siblings of broken pairs are canceled and leave their books, if all of them are listed,
each at its own place. -/
theorem cancelSiblings_on_paper {before : Ledger} {pairs : List BrokenPair}
    (areBroken : ∀ pair ∈ pairs, ∃ group, before.Breaks group pair)
    (listed : ∀ pair ∈ pairs, ∃ place, IsListedOn configured state.world pair.sibling place)
    (apart : (pairs.map fun pair => pair.sibling.bookPlace?).Nodup) {done : List Order}
    (orders : state.ledger.orders =
      before.orders.map (Order.afterCancels now (allCanceled done))) :
    let siblings := pairs.map BrokenPair.sibling
    let last := cancelSiblings (PaperMarket.directory configured) now pairs state
    last.ledger.orders =
        before.orders.map (Order.afterCancels now (allCanceled (done ++ siblings))) ∧
      last.world = state.world.withoutRowsOf siblings := by
  induction pairs generalizing state done with
  | nil => exact ⟨by simpa [cancelSiblings] using orders, rfl⟩
  | cons pair rest inductionHypothesis =>
      obtain ⟨group, breaks⟩ := areBroken pair List.mem_cons_self
      obtain ⟨place, isListed⟩ := listed pair List.mem_cons_self
      rw [List.map_cons, List.nodup_cons] at apart
      have canceled := settleCancel_orders breaks orders (.ok ())
      have doneMore : allCanceled done ++ [(pair.sibling, .ok ())] =
          allCanceled (done ++ [pair.sibling]) := by
        simp [allCanceled]
      rw [doneMore] at canceled
      -- The other siblings are at other places, so that they stay listed.
      have restListed : ∀ later ∈ rest, ∃ other,
          IsListedOn configured (state.world.remove place) later.sibling other := by
        intro later member
        obtain ⟨other, laterListed⟩ := listed later (List.mem_cons_of_mem pair member)
        refine ⟨other, laterListed.remove fun same => apart.1 ?_⟩
        rw [isListed.atPlace, ← same, ← laterListed.atPlace]
        exact List.mem_map_of_mem member
      let next : State PaperMarket :=
        { ledger := (settleCancel now pair (.ok ()) state.ledger).1
          world := state.world.remove place }
      have nextOrders : next.ledger.orders =
          before.orders.map (Order.afterCancels now (allCanceled (done ++ [pair.sibling]))) :=
        canceled
      obtain ⟨lastOrders, lastWorld⟩ := inductionHypothesis
        (fun later member => areBroken later (List.mem_cons_of_mem pair member)) restListed apart.2
        nextOrders
      rw [List.append_assoc] at lastOrders
      have isNext : cancelSiblings (PaperMarket.directory configured) now (pair :: rest) state =
          cancelSiblings (PaperMarket.directory configured) now rest next := by
        unfold cancelSiblings
        rw [List.foldl_cons, cancelSibling_on_paper trimmed isListed]
      have rowsGone : next.world.withoutRowsOf (rest.map BrokenPair.sibling) =
          state.world.withoutRowsOf ((pair :: rest).map BrokenPair.sibling) := by
        unfold PaperMarket.withoutRowsOf
        rw [List.map_cons, List.filterMap_cons_some isListed.atPlace]
        rfl
      rw [isNext]
      exact ⟨lastOrders, lastWorld.trans rowsGone⟩

end Paper

end OrderKeeper
