import OrderKeeper.Paper.Core
import OrderKeeper.Proofs.Pair.Linking
import OrderKeeper.Proofs.Paper.InStep

/-!
Contract: pairs placed on paper venues.

Owns: runs of attempts to place a pair, the state that they lead to from an empty core: every
order is open and has its row, and every linked pair is the whole of its group.

Does not own: what passes make of the pairs.
-/

set_option autoImplicit false

namespace OrderKeeper

/-- Two tickets, and the group for the orders if both are placed. -/
structure PairAttempt where
  now : Instant
  group : String
  first : OrderTicket
  second : OrderTicket

/-- Makes attempts one after the other; the answer has the pairs that were linked. -/
def Core.submitPairs {World : Type} (core : Core World) :
    List PairAttempt → Core World × List LinkedPair
  | [] => (core, [])
  | attempt :: rest =>
      let (next, answer) :=
        core.submitPair attempt.now attempt.group attempt.first attempt.second
      let (last, linked) := next.submitPairs rest
      (last, answer.toOption.toList ++ linked)

theorem Core.submitPair_eq {World : Type} (core : Core World) (now : Instant) (group : String)
    (first second : OrderTicket) :
    let placed := placePair core.broker now group first second core.state
    core.submitPair now group first second = ({ core with state := placed.2 }, placed.1) := by
  unfold Core.submitPair
  generalize placePair core.broker now group first second core.state = placed
  rfl

/-- What a broker answers for an order that it placed. -/
def Order.receipt (order : Order) : Receipt :=
  ⟨order.id, order.venueOrderId⟩

@[simp] theorem Order.receipt_id (order : Order) : order.receipt.id = order.id :=
  rfl

/-! ## Orders -/

/-- Orders from paper venues that nothing has happened to: they are open under ids of the
supply, and have their rows. -/
structure PlacedOrders (ids : Nat → OrderId) (configured : List String)
    (state : State PaperMarket) : Prop extends OnBooks configured state where
  haveRows : ∀ order ∈ state.ledger.orders, state.world.HasRowOf order
  areOpen : ∀ order ∈ state.ledger.orders, order.isOpen = true
  numbered : ∀ order ∈ state.ledger.orders,
    ∃ number < state.world.ordersPlaced, order.id = ids number

section Orders

variable {ids : Nat → OrderId} {configured : List String} {state : State PaperMarket}

theorem PlacedOrders.start (ids : Nat → OrderId) (configured : List String) :
    PlacedOrders ids configured { ledger := .empty, world := .ofNames configured } where
  toOnBooks := .start configured
  haveRows := fun _ impossible => nomatch impossible
  areOpen := fun _ impossible => nomatch impossible
  numbered := fun _ impossible => nomatch impossible

theorem PlacedOrders.inStep (placed : PlacedOrders ids configured state) :
    InStep ids configured state where
  backed := placed.backed
  atVenues := placed.atVenues
  openListed := fun order member _ => placed.haveRows order member
  numbered := placed.numbered

/-- A ledger in step with venues that do not fail has placed orders, if all are open. -/
theorem PlacedOrders.of_inStep (inStep : InStep ids configured state)
    (reachable : ∀ label, (state.world.venueAt label).failing = false)
    (areOpen : ∀ order ∈ state.ledger.orders, order.isOpen = true) :
    PlacedOrders ids configured state where
  backed := inStep.backed
  atVenues := inStep.atVenues
  reachable := reachable
  haveRows := fun order member => inStep.openListed order member (areOpen order member)
  areOpen := areOpen
  numbered := inStep.numbered

theorem PlacedOrders.accept (placed : PlacedOrders ids configured state)
    (distinctIds : Function.Injective ids) {now : Instant} {ticket : OrderTicket}
    {after : State PaperMarket} {label : String} {order : Order}
    (accepts : PaperMarket.Accepts ids configured now ticket state after label order) :
    PlacedOrders ids configured after := by
  refine .of_inStep (placed.inStep.accept distinctIds accepts) (fun other => ?_) ?_
  · rw [(accepts.venue_kept other).2.1]
    exact placed.reachable other
  · rw [accepts.orders_of_numbered distinctIds placed.numbered]
    intro other member
    rcases List.mem_append.mp member with isOld | isLast
    · exact placed.areOpen other isOld
    · rw [List.mem_singleton.mp isLast]
      exact accepts.isOpen

/-- Joining groups takes nothing from the orders. -/
theorem PlacedOrders.join (placed : PlacedOrders ids configured state) {ledger : Ledger}
    {now : Instant} {group : String} {joins : Order → Prop} [DecidablePred joins]
    (orders : ledger.orders = state.ledger.orders.map fun order =>
      if joins order then order.joined now group else order) :
    PlacedOrders ids configured { state with ledger } := by
  have sameStatus (order : Order) :
      (if joins order then order.joined now group else order).isOpen = order.isOpen := by
    split <;> rfl
  refine .of_inStep (placed.inStep.of_change orders (fun order => ?_) fun order isOpen => ?_)
    placed.reachable ?_
  · split
    · exact ⟨rfl, rfl, rfl⟩
    · exact .refl order
  · exact sameStatus order ▸ isOpen
  · dsimp only
    rw [orders]
    intro order member
    obtain ⟨before, beforeMember, rfl⟩ := List.mem_map.mp member
    rw [sameStatus]
    exact placed.areOpen before beforeMember

end Orders

/-! ## Pairs -/

/-- Placed orders of which the linked pairs are groups of two, with no group but the given
ones. -/
structure PlacedPairs (ids : Nat → OrderId) (configured groups : List String)
    (linked : List LinkedPair) (state : State PaperMarket) : Prop where
  placed : PlacedOrders ids configured state
  grouped : ∀ order ∈ state.ledger.orders, ∀ group ∈ order.pairGroup, group ∈ groups
  pairs : ∀ pair ∈ linked, pair.group ∈ groups ∧
    ∃ first second, state.ledger.groupMembers pair.group = [first, second] ∧
      pair.first = first.receipt ∧ pair.second = second.receipt

section Pairs

variable {ids : Nat → OrderId} {configured groups : List String} {linked : List LinkedPair}
  {state : State PaperMarket}

/-- An order without a group joins none by its placement. -/
theorem PlacedPairs.accept (sofar : PlacedPairs ids configured groups linked state)
    (distinctIds : Function.Injective ids) {now : Instant} {ticket : OrderTicket}
    {after : State PaperMarket} {label : String} {order : Order}
    (accepts : PaperMarket.Accepts ids configured now ticket state after label order) :
    PlacedPairs ids configured groups linked after := by
  have orders := accepts.orders_of_numbered distinctIds sofar.placed.numbered
  obtain ⟨-, -, noGroup, -⟩ := accepts.isNew
  refine ⟨sofar.placed.accept distinctIds accepts, ?_, ?_⟩
  · intro other member group inGroup
    rw [orders] at member
    rcases List.mem_append.mp member with old | isLast
    · exact sofar.grouped other old group inGroup
    · rw [List.mem_singleton.mp isLast, noGroup] at inGroup
      cases inGroup
  · intro pair member
    obtain ⟨isGroup, first, second, members, isFirst, isSecond⟩ := sofar.pairs pair member
    refine ⟨isGroup, first, second, ?_, isFirst, isSecond⟩
    rw [← members]
    unfold Ledger.groupMembers
    rw [orders, List.filter_append]
    simp [noGroup]

/-- Two placed orders that join a new group are the whole of it. -/
theorem PlacedPairs.link (sofar : PlacedPairs ids configured groups linked state)
    {before : List Order} {first second : Order}
    (orders : state.ledger.orders = before ++ [first, second])
    (alone : first.pairGroup = none ∧ second.pairGroup = none) (now : Instant) {group : String}
    (isNew : group ∉ groups) :
    let pair : LinkedPair := ⟨group, first.receipt, second.receipt⟩
    let answer := linkPair now group first.receipt second.receipt state.ledger
    answer.1 = .ok pair ∧
      PlacedPairs ids configured (groups ++ [group]) (linked ++ [pair])
        { state with ledger := answer.2 } := by
  intro pair answer
  have firstStored : state.ledger.get? first.receipt.id ≠ none := by
    simp [Ledger.get?_of_mem, orders]
  have secondStored : state.ledger.get? second.receipt.id ≠ none := by
    simp [Ledger.get?_of_mem, orders]
  obtain ⟨isLinked, changed⟩ := linkPair_of_stored now group firstStored secondStored
  rw [Order.receipt_id, Order.receipt_id] at changed
  -- The orders before the two have other ids, and keep their groups.
  have distinct := state.ledger.distinct_ids
  rw [orders, List.map_append, List.nodup_append] at distinct
  have keptBefore : (before.map fun order =>
      if order.id = first.id ∨ order.id = second.id then order.joined now group else order) =
        before := by
    refine (List.map_congr_left fun order member => ?_).trans (List.map_id before)
    have apart := distinct.2.2 order.id (List.mem_map_of_mem member)
    have notFirst : order.id ≠ first.id := apart first.id (by simp)
    have notSecond : order.id ≠ second.id := apart second.id (by simp)
    simp [notFirst, notSecond]
  have after : answer.2.orders =
      before ++ [first.joined now group, second.joined now group] := by
    refine changed.trans ?_
    rw [orders, List.map_append, keptBefore]
    simp
  have oldGroups : ∀ order ∈ before, ∀ other ∈ order.pairGroup, other ∈ groups := by
    intro order member
    exact sofar.grouped order (by simp [orders, member])
  refine ⟨isLinked, sofar.placed.join changed, ?_, ?_⟩
  · intro order member other inGroup
    change order ∈ answer.2.orders at member
    rw [after] at member
    rcases List.mem_append.mp member with old | isNewOne
    · exact List.mem_append_left [group] (oldGroups order old other inGroup)
    · have joined : order.pairGroup = some group := by
        simp only [List.mem_cons, List.not_mem_nil, or_false] at isNewOne
        rcases isNewOne with rfl | rfl <;> rfl
      rw [joined, Option.mem_some_iff] at inGroup
      rw [← inGroup]
      exact List.mem_append_right groups List.mem_cons_self
  · intro old member
    rcases List.mem_append.mp member with isOld | isLast
    · obtain ⟨isGroup, one, other, both, isOne, isOther⟩ := sofar.pairs old isOld
      refine ⟨List.mem_append_left [group] isGroup, one, other, ?_, isOne, isOther⟩
      have different : group ≠ old.group := fun same => isNew (same ▸ isGroup)
      rw [← both]
      unfold Ledger.groupMembers
      rw [after, orders, List.filter_append, List.filter_append]
      simp [Order.joined, different, alone]
    · rw [List.mem_singleton.mp isLast]
      refine ⟨List.mem_append_right groups List.mem_cons_self, first.joined now group,
        second.joined now group, ?_, rfl, rfl⟩
      have noneBefore : before.filter (fun order => order.pairGroup = some group) = [] := by
        rw [List.filter_eq_nil_iff]
        intro order orderMember inGroup
        exact isNew (oldGroups order orderMember group (of_decide_eq_true inGroup))
      show answer.2.groupMembers group = _
      unfold Ledger.groupMembers
      rw [after, List.filter_append, noneBefore]
      simp [Order.joined]

/-- One attempt places up to two orders and links them if it placed both. -/
theorem PlacedPairs.attempt (sofar : PlacedPairs ids configured groups linked state)
    (distinctIds : Function.Injective ids) (now : Instant) {group : String}
    (isNew : group ∉ groups) (first second : OrderTicket) :
    let placed := placePair (PaperMarket.broker ids configured).toBroker now group first second
      state
    PlacedPairs ids configured (groups ++ [group]) (linked ++ placed.1.toOption.toList)
      placed.2 := by
  have more {linked : List LinkedPair} {state : State PaperMarket}
      (same : PlacedPairs ids configured groups linked state) :
      PlacedPairs ids configured (groups ++ [group]) (linked ++ []) state := by
    rw [List.append_nil]
    exact ⟨same.placed,
      fun order member other inGroup =>
        List.mem_append_left [group] (same.grouped order member other inGroup),
      fun pair member =>
        ⟨List.mem_append_left [group] (same.pairs pair member).1, (same.pairs pair member).2⟩⟩
  unfold placePair
  rcases PaperMarket.refused_or_accepted ids configured now first state with
    ⟨cause, refused⟩ | ⟨label, order, middle, accepted, accepts⟩
  · rcases PaperMarket.refused_or_accepted ids configured now second state with
      ⟨other, alsoRefused⟩ | ⟨label, order, after, accepted, accepts⟩
    · simp only [PaperBroker.toBroker, refused, alsoRefused]
      exact more sofar
    · simp only [PaperBroker.toBroker, refused, accepted]
      exact more (sofar.accept distinctIds accepts)
  · have one := sofar.accept distinctIds accepts
    rcases PaperMarket.refused_or_accepted ids configured now second middle with
      ⟨cause, refused⟩ | ⟨otherLabel, other, after, alsoAccepted, alsoAccepts⟩
    · simp only [PaperBroker.toBroker, accepted, refused]
      exact more one
    · have both := one.accept distinctIds alsoAccepts
      have orders : after.ledger.orders = state.ledger.orders ++ [order, other] := by
        rw [alsoAccepts.orders_of_numbered distinctIds one.placed.numbered,
          accepts.orders_of_numbered distinctIds sofar.placed.numbered, List.append_assoc]
        rfl
      have alone := And.intro accepts.isNew.2.2.1 alsoAccepts.isNew.2.2.1
      obtain ⟨isLinked, pairs⟩ := both.link orders alone now isNew
      simp only [PaperBroker.toBroker, accepted, alsoAccepted]
      have isAnswer : (linkPair now group ⟨order.id, order.venueOrderId⟩
          ⟨other.id, other.venueOrderId⟩ after.ledger).1 = _ := isLinked
      rw [isAnswer]
      exact pairs

end Pairs

/-- After any attempts under distinct groups, on a core with nothing but empty paper venues,
every order is open and has its row, and the linked pairs are groups of two. -/
theorem PaperCore.submitPairs_places {ids : Nat → OrderId} (distinctIds : Function.Injective ids)
    (settings : Settings) {attempts : List PairAttempt}
    (distinctGroups : (attempts.map PairAttempt.group).Nodup) :
    let placed := (PaperCore.create ids settings).submitPairs attempts
    PlacedPairs ids settings.paperVenues (attempts.map PairAttempt.group) placed.2
        placed.1.state ∧
      placed.1.directory = PaperMarket.directory settings.paperVenues ∧
      placed.1.settings = settings := by
  -- From any core that some attempts have led to, with their groups and the pairs linked so far.
  have fromAny : ∀ (core : Core PaperMarket) (groups : List String) (linked : List LinkedPair),
      core.broker = (PaperMarket.broker ids settings.paperVenues).toBroker →
      (∀ group ∈ attempts.map PairAttempt.group, group ∉ groups) →
      PlacedPairs ids settings.paperVenues groups linked core.state →
      PlacedPairs ids settings.paperVenues (groups ++ attempts.map PairAttempt.group)
          (linked ++ (core.submitPairs attempts).2) (core.submitPairs attempts).1.state ∧
        (core.submitPairs attempts).1.directory = core.directory ∧
        (core.submitPairs attempts).1.settings = core.settings := by
    induction attempts with
    | nil =>
        intro core groups linked _ _ sofar
        simpa [Core.submitPairs] using sofar
    | cons attempt rest inductionHypothesis =>
        intro core groups linked isBroker areNew sofar
        rw [List.map_cons, List.nodup_cons] at distinctGroups
        have next := sofar.attempt distinctIds attempt.now
          (areNew attempt.group List.mem_cons_self) attempt.first attempt.second
        rw [← isBroker] at next
        have restNew : ∀ group ∈ rest.map PairAttempt.group,
            group ∉ groups ++ [attempt.group] := by
          intro group member isOld
          rcases List.mem_append.mp isOld with early | isFirst
          · exact areNew group (List.mem_cons_of_mem _ member) early
          · exact distinctGroups.1 (List.mem_singleton.mp isFirst ▸ member)
        have last := inductionHypothesis distinctGroups.2
          { core with state := (placePair core.broker attempt.now attempt.group attempt.first
              attempt.second core.state).2 }
          _ _ isBroker restNew next
        rw [List.append_assoc, List.append_assoc] at last
        rw [Core.submitPairs, Core.submitPair_eq]
        exact last
  have all := fromAny (PaperCore.create ids settings) [] [] rfl (fun _ _ => List.not_mem_nil) ?_
  · exact all
  · exact ⟨.start ids settings.paperVenues, fun _ impossible => (nomatch impossible),
      fun _ impossible => (nomatch impossible)⟩

end OrderKeeper
