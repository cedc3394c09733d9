import OrderKeeper.Proofs.Paper.InFlight
import OrderKeeper.Proofs.Paper.Losses
import OrderKeeper.Proofs.Paper.Pairs

/-!
Contract: pairs on paper venues that lose legs, settled by one pass over the venues and one
over the pairs.

Owns: what both passes make of each order, the fate of a leg from the losses of its pair, and
the main statement, with the quiet of any further passes.

Does not own: what each of the passes does, and how the pairs were placed.
-/

set_option autoImplicit false

namespace OrderKeeper

/-! ## Both passes -/

/-- An order was canceled and left its book. -/
structure HasCanceled (state : State PaperMarket) (order : Order) : Prop where
  status : (state.ledger.get? order.id).map Order.status = some .canceled
  isGone : ¬state.world.HasRowOf order

/-- An open order is as it was, and listed. -/
structure StillHas (state : State PaperMarket) (order : Order) : Prop where
  stored : state.ledger.get? order.id = some order
  isOpen : order.isOpen = true
  isListed : state.world.HasRowOf order

/-- One state leads to another by a pass over the venues, which leaves the ledger in the
middle, and a pass over the pairs, which cancels some orders. -/
structure Settles (before : State PaperMarket) (venuesAt pairsAt : Instant) (middle : Ledger)
    (canceled : List Order) (after : State PaperMarket) : Prop where
  filled : middle.orders = before.ledger.orders.map (Order.afterLoss before.world venuesAt)
  siblings : ∀ order, order ∈ canceled ↔ order ∈ middle.orders ∧ middle.IsSibling order
  orders : after.ledger.orders =
    middle.orders.map (Order.afterCancels pairsAt (allCanceled canceled))
  world : after.world = before.world.withoutRowsOf canceled

section Settles

variable {configured : List String} {before after : State PaperMarket}
  {venuesAt pairsAt : Instant} {middle : Ledger} {canceled : List Order}

theorem Settles.of_canceled (settles : Settles before venuesAt pairsAt middle canceled after)
    {order : Order} (isCanceled : order ∈ canceled) :
    order.isOpen = true ∧ order ∈ before.ledger.orders := by
  obtain ⟨member, sibling⟩ := (settles.siblings order).mp isCanceled
  rw [settles.filled, mem_afterLoss_iff sibling.1] at member
  exact ⟨sibling.1, member.1⟩

theorem Settles.get? (settles : Settles before venuesAt pairsAt middle canceled after)
    {order : Order} (member : order ∈ before.ledger.orders) :
    after.ledger.get? order.id = some
      ((order.afterLoss before.world venuesAt).afterCancels pairsAt (allCanceled canceled)) := by
  rw [Ledger.get?_of_map settles.orders (Order.afterCancels_id pairsAt (allCanceled canceled)),
    Ledger.get?_of_map settles.filled
      (Order.afterLoss_keeps Order.id (fun _ _ _ => rfl) before.world venuesAt),
    Ledger.get?_of_mem member]
  rfl

/-- The rows that are left are those that were there, but for the canceled orders. -/
theorem Settles.hasRowOf_iff (settles : Settles before venuesAt pairsAt middle canceled after)
    (backed : before.world.Backed before.ledger.orders) {order : Order}
    (member : order ∈ before.ledger.orders) :
    after.world.HasRowOf order ↔ before.world.HasRowOf order ∧ order ∉ canceled := by
  rw [settles.world, PaperMarket.withoutRowsOf, PaperMarket.hasRowOf_removeAll,
    backed.isAtOneOf_iff member fun other isCanceled => (settles.of_canceled isCanceled).2]

/-- A lost order is filled. -/
theorem Settles.of_lost (settles : Settles before venuesAt pairsAt middle canceled after)
    {order : Order} (member : order ∈ before.ledger.orders) (isOpen : order.isOpen = true)
    (noRow : ¬before.world.HasRowOf order) :
    (after.ledger.get? order.id).map Order.status = some .filled := by
  have filled : order.afterLoss before.world venuesAt =
      { order with status := .filled, updatedAt := venuesAt } := if_pos ⟨isOpen, noRow⟩
  have notCanceled : order.afterLoss before.world venuesAt ∉ canceled := by
    intro isCanceled
    have wasOpen := (settles.of_canceled isCanceled).1
    rw [filled] at wasOpen
    cases wasOpen
  rw [settles.get? member, Order.afterCancels_allCanceled, if_neg notCanceled, filled]
  rfl

/-- A listed order is canceled or stays as it is. -/
theorem Settles.of_listed (settles : Settles before venuesAt pairsAt middle canceled after)
    (backed : before.world.Backed before.ledger.orders) {order : Order}
    (member : order ∈ before.ledger.orders) (isOpen : order.isOpen = true)
    (hasRow : before.world.HasRowOf order) :
    (order ∈ canceled → HasCanceled after order) ∧ (order ∉ canceled → StillHas after order) := by
  have kept : order.afterLoss before.world venuesAt = order := if_neg fun lost => lost.2 hasRow
  have stored := settles.get? member
  rw [kept, Order.afterCancels_allCanceled] at stored
  have listed := settles.hasRowOf_iff backed member
  constructor
  · intro isCanceled
    rw [if_pos isCanceled] at stored
    refine ⟨?_, fun held => (listed.mp held).2 isCanceled⟩
    rw [stored]
    rfl
  · intro notCanceled
    rw [if_neg notCanceled] at stored
    exact ⟨stored, isOpen, listed.mpr ⟨hasRow, notCanceled⟩⟩

/-- Nothing open is lost any more, and no pair is broken. -/
theorem Settles.leaves_nothing (settles : Settles before venuesAt pairsAt middle canceled after)
    (backed : before.world.Backed before.ledger.orders) :
    OpenAreListed after ∧ after.ledger.brokenPairs = [] := by
  constructor
  · intro order member isOpen
    rw [settles.orders] at member
    obtain ⟨old, oldMember, rfl⟩ := List.mem_map.mp member
    obtain ⟨notCanceled, same⟩ := Order.eq_of_afterCancels_open isOpen
    rw [mem_allCanceled_iff] at notCanceled
    rw [same] at isOpen ⊢
    rw [settles.filled, mem_afterLoss_iff isOpen] at oldMember
    obtain ⟨stored, hasRow⟩ := oldMember
    exact (settles.hasRowOf_iff backed stored).mpr ⟨hasRow, notCanceled⟩
  · have areOpen : ∀ order, (order, .ok ()) ∈ allCanceled canceled → order.isOpen = true := by
      intro order isCanceled
      exact (settles.of_canceled ((mem_allCanceled_iff order canceled).mp isCanceled)).1
    rw [List.eq_nil_iff_forall_not_mem]
    intro pair member
    have isSibling := (after.ledger.mem_siblings_iff pair.sibling).mp
      (List.mem_map_of_mem member)
    rw [List.mem_filter, decide_eq_true_iff,
      isSibling_of_afterCancels settles.orders areOpen] at isSibling
    apply isSibling.2
    rw [mem_allCanceled_iff]
    exact (settles.siblings pair.sibling).mpr isSibling.1

/-- Two passes settle a state whose books are those of its orders. -/
theorem OnBooks.settles (onBooks : OnBooks configured before)
    (trimmed : PaperMarket.AreTrimmed configured) (venuesAt pairsAt : Instant) :
    let directory := PaperMarket.directory configured
    let reconciled := (reconcileAll directory .assumeFilled venuesAt before).1
    let watched := (watchOnce directory pairsAt reconciled).1
    OnBooks configured watched ∧
      ∃ canceled, Settles before venuesAt pairsAt reconciled.ledger canceled watched := by
  intro directory reconciled watched
  obtain ⟨filled, sameWorld⟩ := onBooks.reconcile_fills trimmed venuesAt
  have afterVenues : OnBooks configured reconciled := onBooks.of_changes filled
    (Order.afterLoss_keeps Order.bookPlace? (fun _ _ _ => rfl) before.world venuesAt)
    (Order.afterLoss_keeps Order.paperRow (fun _ _ _ => rfl) before.world venuesAt)
    (show reconciled.world = before.world.removeAll [] from sameWorld)
  have openListed : OpenAreListed reconciled := by
    intro order member isOpen
    rw [filled, mem_afterLoss_iff isOpen] at member
    rw [sameWorld]
    exact member.2
  obtain ⟨orders, world⟩ := afterVenues.watch_cancels trimmed openListed pairsAt
  refine ⟨?_, _, filled, fun order => ?_, orders, ?_⟩
  · exact afterVenues.of_changes orders
      (Order.afterCancels_keeps Order.bookPlace? (fun _ _ _ => rfl) pairsAt _)
      (Order.afterCancels_keeps Order.paperRow (fun _ _ _ => rfl) pairsAt _) world
  · rw [reconciled.ledger.mem_siblings_iff, List.mem_filter, decide_eq_true_iff]
  · rw [← sameWorld]
    exact world

/-! ## Legs -/

/-- What became of a leg of a pair of which some legs were lost. -/
structure LegSettled (isLost : Order → Prop) (after : State PaperMarket) (leg other : Order) :
    Prop where
  filled : isLost leg → (after.ledger.get? leg.id).map Order.status = some .filled
  canceled : ¬isLost leg → isLost other → HasCanceled after leg
  kept : ¬isLost leg → ¬isLost other → StillHas after leg

/-- The fate of an open leg depends on the rows of its pair alone. -/
theorem Settles.leg (settles : Settles before venuesAt pairsAt middle canceled after)
    (backed : before.world.Backed before.ledger.orders)
    (areOpen : ∀ order ∈ before.ledger.orders, order.isOpen = true) {isLost : Order → Prop}
    (lost_iff : ∀ order ∈ before.ledger.orders, isLost order ↔ ¬before.world.HasRowOf order)
    {group : String} {leg other : Order}
    (legs : (before.ledger.groupMembers group).Perm [leg, other]) :
    LegSettled isLost after leg other := by
  have isStored {order : Order} (isLeg : order ∈ [leg, other]) : order ∈ before.ledger.orders :=
    ((before.ledger.mem_groupMembers group order).mp (legs.mem_iff.mpr isLeg)).1
  have legStored := isStored (List.mem_cons_self)
  have otherStored := isStored (List.mem_cons_of_mem leg List.mem_cons_self)
  have legOpen := areOpen leg legStored
  -- A listed leg is canceled exactly if the other one was filled by the first of the passes.
  have canceled_iff (hasRow : before.world.HasRowOf leg) :
      leg ∈ canceled ↔ ¬before.world.HasRowOf other := by
    have legKept : leg.afterLoss before.world venuesAt = leg := if_neg fun lost => lost.2 hasRow
    have middleLegs : (middle.groupMembers group).Perm
        [leg, other.afterLoss before.world venuesAt] := by
      rw [Ledger.groupMembers_of_map settles.filled
        (Order.afterLoss_keeps Order.pairGroup (fun _ _ _ => rfl) before.world venuesAt)]
      have mapped := legs.map (Order.afterLoss before.world venuesAt)
      rwa [List.map_cons, List.map_cons, List.map_nil, legKept] at mapped
    have legMember : leg ∈ middle.orders := by
      rw [settles.filled, mem_afterLoss_iff legOpen]
      exact ⟨legStored, hasRow⟩
    rw [settles.siblings, Ledger.isSibling_iff_of_legs middleLegs]
    unfold Order.afterLoss
    by_cases otherRow : before.world.HasRowOf other
    · have notFilled : other.status ≠ .filled := by
        intro isFilled
        have otherOpen := areOpen other otherStored
        rw [Order.not_open_of_filled isFilled] at otherOpen
        cases otherOpen
      simp [otherRow, notFilled]
    · simp [otherRow, areOpen other otherStored, legMember, legOpen]
  have ofRow := settles.of_listed backed legStored legOpen
  refine ⟨fun lost => ?_, fun notLost otherLost => ?_, fun notLost otherNotLost => ?_⟩
  · exact settles.of_lost legStored legOpen ((lost_iff leg legStored).mp lost)
  · rw [lost_iff leg legStored, not_not] at notLost
    have otherGone := (lost_iff other otherStored).mp otherLost
    exact (ofRow notLost).1 ((canceled_iff notLost).mpr otherGone)
  · rw [lost_iff leg legStored, not_not] at notLost
    rw [lost_iff other otherStored] at otherNotLost
    exact (ofRow notLost).2 fun isCanceled => otherNotLost ((canceled_iff notLost).mp isCanceled)

end Settles

/-! ## Cores -/

/-- The passes of a core on books that have lost rows: the first two settle it, and the next two
do nothing. -/
theorem Core.settles_losses {core : Core PaperMarket} {configured : List String}
    (trimmed : PaperMarket.AreTrimmed configured)
    (isDirectory : core.directory = PaperMarket.directory configured)
    (fills : core.settings.absencePolicy = .assumeFilled)
    (onBooks : OnBooks configured core.state) (firstAt secondAt thirdAt fourthAt : Instant) :
    let watched := ((core.reconcile firstAt).1.watchPairs secondAt).1
    let again := watched.reconcile thirdAt
    let last := again.1.watchPairs fourthAt
    (∃ middle canceled, Settles core.state firstAt secondAt middle canceled watched.state) ∧
      again.2.imported = 0 ∧ again.2.closed = 0 ∧ last.2.triggered = 0 := by
  intro watched again last
  obtain ⟨stillOnBooks, canceled, settles⟩ := onBooks.settles trimmed firstAt secondAt
  have isState : watched.state = (watchOnce (PaperMarket.directory configured) secondAt
      (reconcileAll (PaperMarket.directory configured) .assumeFilled firstAt core.state).1).1 := by
    simp only [watched, Core.reconcile_eq, Core.watchPairs_eq, isDirectory, fills]
  have sameDirectory : watched.directory = PaperMarket.directory configured := by
    simp only [watched, Core.reconcile_eq, Core.watchPairs_eq, isDirectory]
  rw [← isState] at stillOnBooks settles
  obtain ⟨openListed, noPairs⟩ := settles.leaves_nothing onBooks.backed
  obtain ⟨sameState, imported, closed⟩ := stillOnBooks.reconcile_quiet trimmed openListed
    watched.settings.absencePolicy thirdAt
  have isAgain : again.2 = (reconcileAll (PaperMarket.directory configured)
      watched.settings.absencePolicy thirdAt watched.state).2 := by
    simp only [again, Core.reconcile_eq, sameDirectory]
  have againState : again.1.state = watched.state := by
    simp only [again, Core.reconcile_eq, sameDirectory, sameState]
  refine ⟨⟨_, canceled, settles⟩, isAgain ▸ imported, isAgain ▸ closed, ?_⟩
  have triggered := (watchOnce_eq again.1.directory fourthAt again.1.state).2
  rw [againState, noPairs] at triggered
  simpa only [last, Core.watchPairs_eq, againState, List.length_nil] using triggered

/-- Pairs are placed on paper venues whose names have no blanks around them, and any of their
rows go.  Then a pass over the venues, under the policy that takes missing orders as filled, and a
pass over the pairs leave every lost leg filled, the other leg of a pair that lost one canceled
and gone from its book, and both legs of a pair that lost none as they were.  The next two passes
do nothing: the first has nothing to import or to close, the second meets no broken pair. -/
theorem lost_legs_settle_pairs {ids : Nat → OrderId} (distinctIds : Function.Injective ids)
    {settings : Settings} (trimmed : PaperMarket.AreTrimmed settings.paperVenues)
    (fills : settings.absencePolicy = .assumeFilled) {attempts : List PairAttempt}
    (distinctGroups : (attempts.map PairAttempt.group).Nodup) (removed : List BookPlace)
    (firstAt secondAt thirdAt fourthAt : Instant) :
    let placed := (PaperCore.create ids settings).submitPairs attempts
    let before := placed.1.state
    let core := { placed.1 with state.world := before.world.removeAll removed }
    let watched := ((core.reconcile firstAt).1.watchPairs secondAt).1
    let again := watched.reconcile thirdAt
    let last := again.1.watchPairs fourthAt
    (∀ order ∈ before.ledger.orders, order.isOpen = true ∧ before.world.HasRowOf order) ∧
      (∀ pair ∈ placed.2, ∃ first second,
        before.ledger.get? pair.first.id = some first ∧
        before.ledger.get? pair.second.id = some second ∧
        LegSettled (Order.IsAtOneOf removed) watched.state first second ∧
        LegSettled (Order.IsAtOneOf removed) watched.state second first) ∧
      again.2.imported = 0 ∧ again.2.closed = 0 ∧ last.2.triggered = 0 := by
  intro placed before core watched again last
  obtain ⟨placedPairs, directory, sameSettings⟩ :=
    PaperCore.submitPairs_places distinctIds settings distinctGroups
  have placedOrders : PlacedOrders ids settings.paperVenues before := placedPairs.placed
  have onBooks : OnBooks settings.paperVenues core.state :=
    placedOrders.toOnBooks.of_changes (List.map_id before.ledger.orders).symm (fun _ => rfl)
      (fun _ => rfl) rfl
  have coreDirectory : core.directory = PaperMarket.directory settings.paperVenues := directory
  have corePolicy : core.settings.absencePolicy = .assumeFilled := by
    rw [← fills]
    exact congrArg Settings.absencePolicy sameSettings
  obtain ⟨⟨middle, canceled, settles⟩, quiet⟩ :=
    Core.settles_losses trimmed coreDirectory corePolicy onBooks firstAt secondAt thirdAt fourthAt
  have lost_iff : ∀ order ∈ core.state.ledger.orders,
      order.IsAtOneOf removed ↔ ¬core.state.world.HasRowOf order := by
    intro order member
    have hadRow : before.world.HasRowOf order := placedOrders.haveRows order member
    have left := PaperMarket.hasRowOf_removeAll before.world removed order
    show _ ↔ ¬(before.world.removeAll removed).HasRowOf order
    rw [left]
    simp [hadRow]
  refine ⟨fun order member => ⟨placedOrders.areOpen order member,
    placedOrders.haveRows order member⟩, fun pair member => ?_, quiet⟩
  obtain ⟨-, first, second, members, isFirst, isSecond⟩ := placedPairs.pairs pair member
  have isStored {order : Order} (isLeg : order ∈ [first, second]) :
      before.ledger.get? order.id = some order := by
    have isMember : order ∈ before.ledger.groupMembers pair.group := members ▸ isLeg
    exact Ledger.get?_of_mem ((before.ledger.mem_groupMembers pair.group order).mp isMember).1
  have fate {leg other : Order}
      (legs : (core.state.ledger.groupMembers pair.group).Perm [leg, other]) :=
    settles.leg onBooks.backed placedOrders.areOpen lost_iff legs
  have inOrder : (core.state.ledger.groupMembers pair.group).Perm [first, second] :=
    List.Perm.of_eq members
  refine ⟨first, second, ?_, ?_, fate inOrder, fate (inOrder.trans (.swap second first []))⟩
  · rw [isFirst]
    exact isStored List.mem_cons_self
  · rw [isSecond]
    exact isStored (List.mem_cons_of_mem first List.mem_cons_self)

/-- Two pairs are placed on two venues, and the stop of the first one loses its row. -/
theorem lost_stop_settles_first_pair :
    let ids := PaperCore.numberedId "order"
    let settings := { Settings.default with paperVenues := ["Paper", "Desk"] }
    let attempts : List PairAttempt :=
      [⟨⟨0, 0⟩, "first", .stopMarket "stop" "BTC.desk" .sell .one .one,
          .limit "target" "BTC.paper" .sell .one .one⟩,
        ⟨⟨0, 0⟩, "second", .stopMarket "stop" "BTC.DESK" .sell .one .one,
          .limit "target" "BTC.DESK" .sell .one .one⟩]
    let placed := (PaperCore.create ids settings).submitPairs attempts
    let core := { placed.1 with
      state.world := placed.1.state.world.removeAll [⟨"DESK", "DESK-1"⟩] }
    let watched := ((core.reconcile ⟨1, 0⟩).1.watchPairs ⟨2, 0⟩).1
    let again := watched.reconcile ⟨3, 0⟩
    let status (id : String) := (watched.state.ledger.get? ⟨id⟩).map Order.status
    (status "order:1" = some .filled ∧ status "order:2" = some .canceled ∧
        status "order:3" = some .new ∧ status "order:4" = some .new) ∧
      again.2.imported = 0 ∧ again.2.closed = 0 ∧
      (again.1.watchPairs ⟨4, 0⟩).2.triggered = 0 := by
  intro ids settings attempts
  have settled := @lost_legs_settle_pairs ids (PaperCore.numberedId_injective "order") settings
    (by decide) rfl attempts (by decide) [⟨"DESK", "DESK-1"⟩] ⟨1, 0⟩ ⟨2, 0⟩ ⟨3, 0⟩ ⟨4, 0⟩
  have pairs : ((PaperCore.create ids settings).submitPairs attempts).2 =
      [⟨"first", ⟨⟨"order:1"⟩, some "DESK-1"⟩, ⟨⟨"order:2"⟩, some "PAPER-1"⟩⟩,
        ⟨"second", ⟨⟨"order:3"⟩, some "DESK-2"⟩, ⟨⟨"order:4"⟩, some "DESK-3"⟩⟩] := by
    decide +kernel
  have onlyStop :
      ∀ order ∈ ((PaperCore.create ids settings).submitPairs attempts).1.state.ledger.orders,
        order.status = .new ∧
          (order.IsAtOneOf [⟨"DESK", "DESK-1"⟩] ↔ order.id = ⟨"order:1"⟩) := by
    decide +kernel
  -- From here on the placements must not be computed again.
  generalize (PaperCore.create ids settings).submitPairs attempts = placed
    at settled pairs onlyStop ⊢
  intro _ core watched again status
  obtain ⟨-, legs, quiet⟩ := settled
  have leg {id : String} {order : Order} (stored : placed.1.state.ledger.get? ⟨id⟩ = some order) :
      order.id = ⟨id⟩ ∧ order.status = .new ∧
        (order.IsAtOneOf [⟨"DESK", "DESK-1"⟩] ↔ id = "order:1") := by
    obtain ⟨member, sameId⟩ := (placed.1.state.ledger.get?_eq_some_iff ⟨id⟩ order).mp stored
    obtain ⟨isNew, lost_iff⟩ := onlyStop order member
    rw [sameId, OrderId.mk.injEq] at lost_iff
    exact ⟨sameId, isNew, lost_iff⟩
  obtain ⟨stop, target, stopStored, targetStored, stopSettled, targetSettled⟩ :=
    legs _ (pairs ▸ List.mem_cons_self)
  obtain ⟨otherStop, other, otherStopStored, otherStored, otherStopSettled, otherSettled⟩ :=
    legs _ (pairs ▸ List.mem_cons_of_mem _ List.mem_cons_self)
  obtain ⟨stopId, -, stopLost⟩ := leg stopStored
  obtain ⟨targetId, -, targetLost⟩ := leg targetStored
  obtain ⟨otherStopId, otherStopNew, otherStopLost⟩ := leg otherStopStored
  obtain ⟨otherId, otherNew, otherLost⟩ := leg otherStored
  have isLost := stopLost.mpr rfl
  have targetKept := mt targetLost.mp (by decide)
  have otherStopKept := mt otherStopLost.mp (by decide)
  have otherKept := mt otherLost.mp (by decide)
  refine ⟨⟨?_, ?_, ?_, ?_⟩, quiet⟩
  · have filled := stopSettled.filled isLost
    rw [stopId] at filled
    exact filled
  · have canceled := (targetSettled.canceled targetKept isLost).status
    rw [targetId] at canceled
    exact canceled
  · have stored := (otherStopSettled.kept otherStopKept otherKept).stored
    rw [otherStopId] at stored
    show Option.map Order.status (watched.state.ledger.get? ⟨"order:3"⟩) = some .new
    rw [stored, Option.map_some, otherStopNew]
  · have stored := (otherSettled.kept otherKept otherStopKept).stored
    rw [otherId] at stored
    show Option.map Order.status (watched.state.ledger.get? ⟨"order:4"⟩) = some .new
    rw [stored, Option.map_some, otherNew]

end OrderKeeper
