import OrderKeeper.Proofs.Pair.CancelLog
import OrderKeeper.Proofs.Pair.Siblings

/-!
Contract: the cancels that a pass over the pairs asks for, and what follows from them.

Owns: the account of a pass in terms of the log, and the main statement: a pass asks once
for each open sibling that can be asked for, cancels in the ledger exactly those whose
venue agrees, and comes back only to those whose venue does not.

Does not own: which orders are the siblings of filled legs, and the log itself.
-/

set_option autoImplicit false

namespace OrderKeeper

variable {World : Type}

/-! ## Orders that can be asked for -/

/-- The request that asks for the cancel of an order, unless its venue order id is missing.  A
symbol without a venue stands for the empty name. -/
def Order.cancelRequest? (order : Order) : Option CancelRequest :=
  order.venueOrderId.map fun id =>
    ⟨venueKey (order.venue?.getD ""), id, Symbol.base order.symbol⟩

/-- The venue of an order is in the directory and can cancel. -/
def VenueDirectory.canCancel (directory : VenueDirectory World) (order : Order) : Bool :=
  directory.offers (order.venue?.getD "") .cancel

/-- A directory has a gateway for a name exactly if it offers the capability. -/
theorem VenueDirectory.offers_iff (directory : VenueDirectory World) (name : String)
    (capability : Capability) :
    directory.offers name capability = true ↔
      ∃ gateway, directory.gatewayFor name capability = .ok gateway := by
  unfold offers gatewayFor
  cases directory.find? name with
  | none => simp
  | some venue => cases declared : venue.capabilities.contains capability <;> simp [declared]

/-- An order that has a venue order id at a venue that can cancel. -/
def VenueDirectory.canAskFor (directory : VenueDirectory World) (order : Order) : Bool :=
  order.venueOrderId.isSome && directory.canCancel order

/-- A log has the requests of some orders, in their order, with the answers. -/
def IsLogOf (log : List (CancelRequest × CancelAnswer)) (attempts : List (Order × CancelAnswer)) :
    Prop :=
  log.map (Prod.map some id) = attempts.map fun attempt => (attempt.1.cancelRequest?, attempt.2)

/-- An order after cancels were asked for: canceled if its venue agreed. -/
def Order.afterCancels (now : Instant) (attempts : List (Order × CancelAnswer)) (order : Order) :
    Order :=
  if (order, .ok ()) ∈ attempts then { order with status := .canceled, updatedAt := now }
  else order

/-! ## One answer -/

namespace Order

/-- A cancel reaches nothing but the status of an order and its time. -/
theorem afterCancels_keeps {α : Type} (field : Order → α)
    (apart : ∀ order status now, field { order with status, updatedAt := now } = field order)
    (now : Instant) (attempts : List (Order × CancelAnswer)) (order : Order) :
    field (order.afterCancels now attempts) = field order := by
  unfold afterCancels
  split
  · exact apart order .canceled now
  · rfl

@[simp] theorem afterCancels_id (now : Instant) (attempts : List (Order × CancelAnswer))
    (order : Order) : (order.afterCancels now attempts).id = order.id :=
  afterCancels_keeps Order.id (fun _ _ _ => rfl) now attempts order

@[simp] theorem afterCancels_pairGroup (now : Instant) (attempts : List (Order × CancelAnswer))
    (order : Order) : (order.afterCancels now attempts).pairGroup = order.pairGroup :=
  afterCancels_keeps Order.pairGroup (fun _ _ _ => rfl) now attempts order

@[simp] theorem afterCancels_nil (now : Instant) (order : Order) :
    order.afterCancels now [] = order := by
  simp [afterCancels]

theorem afterCancels_of_final {order : Order} (final : order.status.isFinal = true) (now : Instant)
    (attempts : List (Order × CancelAnswer)) :
    (order.afterCancels now attempts).status.isFinal = true := by
  unfold afterCancels
  split
  · rfl
  · exact final

end Order

theorem Ledger.close_of_final {ledger : Ledger} {id : OrderId} {current : Order} (now : Instant)
    (status : Status) (stored : ledger.get? id = some current)
    (final : current.status.isFinal = true) : (ledger.close now id status).1 = ledger := by
  apply Ledger.close_of_false
  rw [Ledger.close_snd_of_stored now status stored, Order.isOpen_of_final final, Bool.false_and]

section Answer

variable {before ledger : Ledger} {now : Instant} {attempts : List (Order × CancelAnswer)}
  {group : String} {pair : BrokenPair}

theorem get?_of_afterCancels
    (orders : ledger.orders = before.orders.map (Order.afterCancels now attempts)) (id : OrderId) :
    ledger.get? id = (before.get? id).map (Order.afterCancels now attempts) :=
  Ledger.get?_of_map orders (Order.afterCancels_id now attempts) id

/-- The filled leg is final, so that closing it changes nothing. -/
theorem close_filled_leg (breaks : before.Breaks group pair)
    (orders : ledger.orders = before.orders.map (Order.afterCancels now attempts)) :
    (ledger.close now pair.filled.id .filled).1 = ledger := by
  have stored := ((before.mem_groupMembers group pair.filled).mp breaks.members.1).1
  have found := get?_of_afterCancels orders pair.filled.id
  rw [Ledger.get?_of_mem stored] at found
  refine Ledger.close_of_final now .filled found (Order.afterCancels_of_final ?_ now attempts)
  rw [breaks.isFilled]
  rfl

/-- Closing the sibling cancels it, wherever the pass has come. -/
theorem close_sibling_orders (breaks : before.Breaks group pair)
    (orders : ledger.orders = before.orders.map (Order.afterCancels now attempts)) :
    (ledger.close now pair.sibling.id .canceled).1.orders =
      before.orders.map (Order.afterCancels now (attempts ++ [(pair.sibling, .ok ())])) := by
  have stored := ((before.mem_groupMembers group pair.sibling).mp breaks.members.2).1
  rw [Ledger.close_orders, orders, List.map_map]
  refine List.map_congr_left fun order member => ?_
  rw [Function.comp_apply, Order.afterCancels_id]
  by_cases here : order.id = pair.sibling.id
  · obtain rfl : order = pair.sibling := Ledger.eq_of_same_id member stored here
    rw [if_pos rfl]
    by_cases already : (pair.sibling, .ok ()) ∈ attempts
    · simp [Order.afterCancels, Order.closed, already, Order.isOpen, Status.isOpen]
    · simp [Order.afterCancels, Order.closed, already, breaks.isOpen, Status.isFinal,
        Status.isOpen]
  · have different : order ≠ pair.sibling := fun same => here (congrArg Order.id same)
    simp [here, Order.afterCancels, different]

/-- An answer cancels the sibling or leaves every order as it is. -/
theorem settleCancel_orders (breaks : before.Breaks group pair)
    (orders : ledger.orders = before.orders.map (Order.afterCancels now attempts))
    (answer : CancelAnswer) :
    (settleCancel now pair answer ledger).1.orders =
      before.orders.map (Order.afterCancels now (attempts ++ [(pair.sibling, answer)])) := by
  unfold settleCancel
  cases answer with
  | ok _ =>
      have canceled := close_sibling_orders breaks orders
      have unchanged := close_filled_leg breaks canceled
      dsimp only
      rw [unchanged, canceled]
  | error fault =>
      dsimp only
      rw [close_filled_leg breaks orders, orders]
      simp [Order.afterCancels]

end Answer

/-! ## A pass -/

/-- The account of a pass over some broken pairs of a ledger: the siblings that were asked for
with the answers, the log, the ledger as it stands, and the counts. -/
structure WatchAccount (directory : VenueDirectory World) (now : Instant) (before : Ledger)
    (pairs : List BrokenPair) (attempts : List (Order × CancelAnswer))
    (state : State (LoggedWorld World)) (summary : PairSummary) : Prop where
  asked : attempts.map Prod.fst = (pairs.map BrokenPair.sibling).filter directory.canAskFor
  log : IsLogOf state.world.2 attempts
  orders : state.ledger.orders = before.orders.map (Order.afterCancels now attempts)
  triggered : summary.triggered = pairs.length
  resolved : summary.resolved = (attempts.filter fun attempt => attempt.2 = .ok ()).length
  unsupported : summary.unsupported =
    ((pairs.map BrokenPair.sibling).filter fun sibling => !directory.canCancel sibling).length
  outcomes : summary.triggered =
    summary.resolved + summary.cancelFailures + summary.unsupported

section Pass

variable {directory : VenueDirectory World} {now : Instant} {before : Ledger}
  {pairs : List BrokenPair} {attempts : List (Order × CancelAnswer)}
  {state : State (LoggedWorld World)} {summary : PairSummary} {group : String} {pair : BrokenPair}

theorem WatchAccount.start (directory : VenueDirectory World) (now : Instant) (before : Ledger)
    (world : World) :
    WatchAccount directory now before [] [] { ledger := before, world := (world, []) } .empty := by
  refine ⟨rfl, rfl, ?_, rfl, rfl, rfl, rfl⟩
  exact ((List.map_congr_left fun order _ => order.afterCancels_nil now).trans
    (List.map_id' before.orders)).symm

/-- What groups of another size count for does not enter the account. -/
theorem WatchAccount.ignoring
    (account : WatchAccount directory now before pairs attempts state summary) (count : Nat) :
    WatchAccount directory now before pairs attempts state
      { summary with ignoredGroups := count } :=
  ⟨account.asked, account.log, account.orders, account.triggered, account.resolved,
    account.unsupported, account.outcomes⟩

theorem WatchAccount.step_unsupported
    (account : WatchAccount directory now before pairs attempts state summary)
    (cannot : directory.canCancel pair.sibling = false) :
    WatchAccount directory now before (pairs ++ [pair]) attempts state
      (summary.addOutcome .unsupported) := by
  have triggered := account.triggered
  have unsupported := account.unsupported
  have outcomes := account.outcomes
  refine ⟨?_, account.log, account.orders, ?_, account.resolved, ?_, ?_⟩
  · simp [account.asked, VenueDirectory.canAskFor, cannot]
  · simp [PairSummary.addOutcome, triggered]
  · simp [PairSummary.addOutcome, unsupported, cannot]
  · simp only [PairSummary.addOutcome]
    omega

theorem WatchAccount.step_without_id
    (account : WatchAccount directory now before pairs attempts state summary)
    (breaks : before.Breaks group pair) (can : directory.canCancel pair.sibling = true)
    (noId : pair.sibling.venueOrderId = none) (fault : VenueFault) :
    WatchAccount directory now before (pairs ++ [pair]) attempts
      { state with ledger := (settleCancel now pair (.error fault) state.ledger).1 }
      (summary.addOutcome (.failed fault)) := by
  have triggered := account.triggered
  have unsupported := account.unsupported
  have outcomes := account.outcomes
  refine ⟨?_, account.log, ?_, ?_, account.resolved, ?_, ?_⟩
  · simp [account.asked, VenueDirectory.canAskFor, noId]
  · rw [settleCancel_orders breaks account.orders]
    simp [Order.afterCancels]
  · simp [PairSummary.addOutcome, triggered]
  · simp [PairSummary.addOutcome, unsupported, can]
  · simp only [PairSummary.addOutcome]
    omega

theorem WatchAccount.step_asked
    (account : WatchAccount directory now before pairs attempts state summary)
    (breaks : before.Breaks group pair) (can : directory.canCancel pair.sibling = true)
    {request : CancelRequest} (asks : pair.sibling.cancelRequest? = some request)
    (answer : CancelAnswer) (next : World) :
    let settled := settleCancel now pair answer state.ledger
    WatchAccount directory now before (pairs ++ [pair]) (attempts ++ [(pair.sibling, answer)])
      { ledger := settled.1, world := (next, state.world.2 ++ [(request, answer)]) }
      (summary.addOutcome settled.2) := by
  have triggered := account.triggered
  have resolved := account.resolved
  have unsupported := account.unsupported
  have outcomes := account.outcomes
  have hasId : pair.sibling.venueOrderId.isSome = true := by
    unfold Order.cancelRequest? at asks
    cases ownId : pair.sibling.venueOrderId with
    | none => simp [ownId] at asks
    | some id => rfl
  refine ⟨?_, ?_, settleCancel_orders breaks account.orders answer, ?_, ?_, ?_, ?_⟩
  · simp [account.asked, VenueDirectory.canAskFor, can, hasId]
  · have logged := account.log
    unfold IsLogOf at logged ⊢
    simp [logged, asks]
  · cases answer <;> simp [settleCancel, PairSummary.addOutcome, triggered]
  · cases answer <;> simp [settleCancel, PairSummary.addOutcome, resolved]
  · cases answer <;> simp [settleCancel, PairSummary.addOutcome, unsupported, can]
  · cases answer with
    | ok _ =>
        simp only [settleCancel, PairSummary.addOutcome]
        omega
    | error fault =>
        simp only [settleCancel, PairSummary.addOutcome]
        omega

/-- A further broken pair asks for its sibling once, if that can be asked for, or not at all. -/
theorem WatchAccount.step (account : WatchAccount directory now before pairs attempts state summary)
    (breaks : before.Breaks group pair) :
    let result := cancelSibling directory.logged now pair state
    ∃ more, WatchAccount directory now before (pairs ++ [pair]) (attempts ++ more) result.1
      (summary.addOutcome result.2) := by
  unfold cancelSibling
  rw [VenueDirectory.gatewayFor_logged]
  cases found : directory.gatewayFor (pair.sibling.venue?.getD "") .cancel with
  | error fault =>
      have cannot : directory.canCancel pair.sibling = false := by
        rw [← Bool.not_eq_true]
        intro can
        obtain ⟨gateway, isFound⟩ := (directory.offers_iff _ _).mp can
        rw [found] at isFound
        cases isFound
      refine ⟨[], ?_⟩
      rw [List.append_nil]
      exact account.step_unsupported cannot
  | ok gateway =>
      have can : directory.canCancel pair.sibling = true :=
        (directory.offers_iff _ _).mpr ⟨gateway, found⟩
      cases ownId : pair.sibling.venueOrderId with
      | none =>
          refine ⟨[], ?_⟩
          rw [List.append_nil]
          simp only [Except.map, requestCancel, ownId]
          exact account.step_without_id breaks can ownId _
      | some id =>
          have asks : pair.sibling.cancelRequest? = some
              ⟨venueKey (pair.sibling.venue?.getD ""), id, Symbol.base pair.sibling.symbol⟩ := by
            simp [Order.cancelRequest?, ownId]
          refine ⟨[(pair.sibling,
            (gateway.cancel id (Symbol.base pair.sibling.symbol) state.world.1).1)], ?_⟩
          simp only [Except.map, requestCancel, ownId]
          exact account.step_asked breaks can asks _ _

/-- A pass over groups of a ledger asks for the siblings of its broken pairs, in turn. -/
theorem WatchAccount.run (account : WatchAccount directory now before pairs attempts state summary)
    {groups : List (List Order)}
    (areGroups : ∀ members ∈ groups, ∃ group, before.groupMembers group = members) :
    let result := watchGroups directory.logged now groups (state, summary)
    ∃ more, WatchAccount directory now before
      (pairs ++ groups.filterMap fun members => (groupState members).pair?) (attempts ++ more)
      result.1 result.2 := by
  induction groups generalizing pairs attempts state summary with
  | nil => exact ⟨[], by simpa [watchGroups] using account⟩
  | cons members rest inductionHypothesis =>
      have restGroups : ∀ others ∈ rest, ∃ group, before.groupMembers group = others :=
        fun others member => areGroups others (List.mem_cons_of_mem members member)
      obtain ⟨group, isGroup⟩ := areGroups members List.mem_cons_self
      unfold watchGroups
      cases called : groupState members with
      | settled =>
          rw [List.filterMap_cons_none (by simp [called, GroupState.pair?])]
          exact inductionHypothesis account restGroups
      | notAPair =>
          rw [List.filterMap_cons_none (by simp [called, GroupState.pair?])]
          exact inductionHypothesis (account.ignoring (summary.ignoredGroups + 1)) restGroups
      | broken pair =>
          have breaks : before.Breaks group pair := by
            rw [← before.breaks_iff, isGroup, called]
            rfl
          obtain ⟨made, next⟩ := account.step breaks
          obtain ⟨more, last⟩ := inductionHypothesis next restGroups
          refine ⟨made ++ more, ?_⟩
          rw [List.filterMap_cons_some (by rw [called]; rfl), ← List.append_assoc]
          rw [List.append_assoc, List.singleton_append] at last
          exact last

end Pass

/-- The account of a whole pass over the pairs of a ledger. -/
theorem watchOnce_account (directory : VenueDirectory World) (now : Instant) (before : Ledger)
    (world : World) :
    let pass := watchOnce directory.logged now { ledger := before, world := (world, []) }
    ∃ attempts, WatchAccount directory now before before.brokenPairs attempts pass.1 pass.2 := by
  have areGroups : ∀ members ∈ before.groupIds.map before.groupMembers,
      ∃ group, before.groupMembers group = members := by
    intro members member
    obtain ⟨group, -, isGroup⟩ := List.mem_map.mp member
    exact ⟨group, isGroup⟩
  exact (WatchAccount.start directory now before world).run areGroups

/-! ## The next pass -/

section Next

variable {now : Instant} {before after : Ledger} {attempts : List (Order × CancelAnswer)}

theorem groupMembers_of_afterCancels
    (orders : after.orders = before.orders.map (Order.afterCancels now attempts)) (group : String) :
    after.groupMembers group =
      (before.groupMembers group).map (Order.afterCancels now attempts) :=
  Ledger.groupMembers_of_map orders (Order.afterCancels_pairGroup now attempts) group

/-- Only what was not canceled is open, and it is as it was. -/
theorem Order.eq_of_afterCancels_open {order : Order}
    (isOpen : (order.afterCancels now attempts).isOpen = true) :
    (order, .ok ()) ∉ attempts ∧ order.afterCancels now attempts = order := by
  by_cases canceled : (order, .ok ()) ∈ attempts
  · rw [afterCancels, if_pos canceled] at isOpen
    cases isOpen
  · exact ⟨canceled, if_neg canceled⟩

theorem Order.afterCancels_filled_iff {order : Order} (notFilled : (order, .ok ()) ∈ attempts →
    order.isOpen = true) :
    (order.afterCancels now attempts).status = .filled ↔ order.status = .filled := by
  unfold afterCancels
  by_cases canceled : (order, .ok ()) ∈ attempts
  · rw [if_pos canceled]
    have wasOpen := notFilled canceled
    constructor
    · intro impossible
      cases impossible
    · intro filled
      rw [Order.not_open_of_filled filled] at wasOpen
      cases wasOpen
  · rw [if_neg canceled]

/-- The siblings left over by a pass are those that it did not cancel. -/
theorem isSibling_of_afterCancels
    (orders : after.orders = before.orders.map (Order.afterCancels now attempts))
    (areOpen : ∀ order, (order, .ok ()) ∈ attempts → order.isOpen = true) (order : Order) :
    (order ∈ after.orders ∧ after.IsSibling order) ↔
      (order ∈ before.orders ∧ before.IsSibling order) ∧ (order, .ok ()) ∉ attempts := by
  have sameGroups := groupMembers_of_afterCancels orders
  have sameFilled : ∀ group, (∃ other ∈ after.groupMembers group, other.status = .filled) ↔
      ∃ other ∈ before.groupMembers group, other.status = .filled := by
    intro group
    rw [sameGroups]
    simp only [List.mem_map, exists_exists_and_eq_and]
    refine exists_congr fun other => and_congr_right fun _ => ?_
    exact Order.afterCancels_filled_iff (areOpen other)
  have sameSize : ∀ group, (after.groupMembers group).length =
      (before.groupMembers group).length := by
    intro group
    rw [sameGroups, List.length_map]
  unfold Ledger.IsSibling
  simp only [sameFilled, sameSize, orders]
  constructor
  · rintro ⟨member, isOpen, paired⟩
    obtain ⟨old, stored, rfl⟩ := List.mem_map.mp member
    obtain ⟨notCanceled, same⟩ := Order.eq_of_afterCancels_open isOpen
    rw [same] at isOpen paired ⊢
    exact ⟨⟨stored, isOpen, paired⟩, notCanceled⟩
  · rintro ⟨⟨stored, isOpen, paired⟩, notCanceled⟩
    exact ⟨List.mem_map.mpr ⟨order, stored, if_neg notCanceled⟩, isOpen, paired⟩

end Next

/-! ## All of a pass -/

namespace WatchAccount

variable {directory : VenueDirectory World} {now : Instant} {before : Ledger}
  {attempts : List (Order × CancelAnswer)} {state : State (LoggedWorld World)}
  {summary : PairSummary}

theorem asked_perm
    (account : WatchAccount directory now before before.brokenPairs attempts state summary) :
    (attempts.map Prod.fst).Perm
      ((before.orders.filter fun order => before.IsSibling order).filter directory.canAskFor) := by
  rw [account.asked]
  exact before.siblings_perm.filter _

theorem asked_nodup
    (account : WatchAccount directory now before before.brokenPairs attempts state summary) :
    (attempts.map Prod.fst).Nodup := by
  rw [account.asked]
  exact before.siblings_nodup.filter _

theorem asked_ascending
    (account : WatchAccount directory now before before.brokenPairs attempts state summary) :
    attempts.Pairwise fun first second =>
      ∀ group ∈ first.1.pairGroup, ∀ other ∈ second.1.pairGroup, group < other := by
  have siblings : (before.brokenPairs.map BrokenPair.sibling).Pairwise fun first second =>
      ∀ group ∈ first.pairGroup, ∀ other ∈ second.pairGroup, group < other :=
    List.pairwise_map.mpr before.brokenPairs_ascending
  have asked : (attempts.map Prod.fst).Pairwise fun first second =>
      ∀ group ∈ first.pairGroup, ∀ other ∈ second.pairGroup, group < other := by
    rw [account.asked]
    exact siblings.filter _
  exact List.pairwise_map.mp asked

theorem mem_asked_iff
    (account : WatchAccount directory now before before.brokenPairs attempts state summary)
    (order : Order) :
    (∃ answer, (order, answer) ∈ attempts) ↔
      (order ∈ before.orders ∧ before.IsSibling order) ∧ directory.canAskFor order = true := by
  have asked := account.asked_perm.mem_iff (a := order)
  rw [List.mem_filter, List.mem_filter, decide_eq_true_iff] at asked
  rw [← asked, List.mem_map]
  constructor
  · rintro ⟨answer, member⟩
    exact ⟨(order, answer), member, rfl⟩
  · rintro ⟨⟨_, answer⟩, member, rfl⟩
    exact ⟨answer, member⟩

theorem answer_unique
    (account : WatchAccount directory now before before.brokenPairs attempts state summary)
    {order : Order} {first second : CancelAnswer} (firstMember : (order, first) ∈ attempts)
    (secondMember : (order, second) ∈ attempts) : first = second :=
  congrArg Prod.snd (List.inj_on_of_nodup_map account.asked_nodup firstMember secondMember rfl)

/-- As many orders are canceled as the summary says. -/
theorem resolved_eq
    (account : WatchAccount directory now before before.brokenPairs attempts state summary) :
    summary.resolved = (before.orders.filter fun order => (order, .ok ()) ∈ attempts).length := by
  have ordersNodup : before.orders.Nodup := List.Nodup.of_map Order.id before.distinct_ids
  have agreedNodup : ((attempts.filter fun attempt => attempt.2 = .ok ()).map Prod.fst).Nodup :=
    account.asked_nodup.sublist (List.filter_sublist.map Prod.fst)
  have same : ((attempts.filter fun attempt => attempt.2 = .ok ()).map Prod.fst).Perm
      (before.orders.filter fun order => (order, .ok ()) ∈ attempts) := by
    rw [List.perm_ext_iff_of_nodup agreedNodup (ordersNodup.filter _)]
    intro order
    simp only [List.mem_map, List.mem_filter, decide_eq_true_eq]
    constructor
    · rintro ⟨⟨_, _⟩, ⟨member, rfl⟩, rfl⟩
      exact ⟨((account.mem_asked_iff _).mp ⟨_, member⟩).1.1, member⟩
    · rintro ⟨-, member⟩
      exact ⟨(order, .ok ()), ⟨member, rfl⟩, rfl⟩
  rw [account.resolved, ← same.length_eq, List.length_map]

/-- The next pass over what a pass left asks again for those whose cancel failed. -/
theorem asks_again
    (account : WatchAccount directory now before before.brokenPairs attempts state summary)
    {later : Instant} {again : List (Order × CancelAnswer)} {laterState : State (LoggedWorld World)}
    {laterSummary : PairSummary}
    (laterAccount : WatchAccount directory later state.ledger state.ledger.brokenPairs again
      laterState laterSummary) :
    (again.map Prod.fst).Perm
      ((attempts.filter fun attempt => attempt.2 ≠ .ok ()).map Prod.fst) := by
  have failedNodup : ((attempts.filter fun attempt => attempt.2 ≠ .ok ()).map Prod.fst).Nodup :=
    account.asked_nodup.sublist (List.filter_sublist.map Prod.fst)
  have areOpen : ∀ order, (order, .ok ()) ∈ attempts → order.isOpen = true :=
    fun order member => ((account.mem_asked_iff order).mp ⟨_, member⟩).1.2.1
  rw [List.perm_ext_iff_of_nodup laterAccount.asked_nodup failedNodup]
  intro order
  have isAgain : order ∈ again.map Prod.fst ↔ ∃ answer, (order, answer) ∈ again := by
    simp
  rw [isAgain, laterAccount.mem_asked_iff, isSibling_of_afterCancels account.orders areOpen]
  simp only [List.mem_map, List.mem_filter, decide_eq_true_eq]
  constructor
  · rintro ⟨⟨sibling, notCanceled⟩, can⟩
    obtain ⟨answer, member⟩ := (account.mem_asked_iff order).mpr ⟨sibling, can⟩
    refine ⟨(order, answer), ⟨member, fun agreed => ?_⟩, rfl⟩
    dsimp only at agreed
    exact notCanceled (agreed ▸ member)
  · rintro ⟨⟨_, answer⟩, ⟨member, failed⟩, rfl⟩
    obtain ⟨sibling, can⟩ := (account.mem_asked_iff _).mp ⟨answer, member⟩
    exact ⟨⟨sibling, fun agreed => failed (account.answer_unique member agreed)⟩, can⟩

end WatchAccount

/-- A pass over the pairs, with venues that behave in any way, asks once to cancel each open
order that is one of two in its group, the other being filled, if it has a venue order id at a
venue that can cancel.  It asks for nothing else.  In the ledger it cancels those whose venue
agrees, and changes nothing else.  Each order that calls for a cancel is counted under what
became of it.  The next pass asks again for those whose cancel failed, and for nothing else. -/
theorem watchOnce_cancels_siblings (directory : VenueDirectory World) (now : Instant)
    (before : Ledger) (world : World) :
    let pass := watchOnce directory.logged now { ledger := before, world := (world, []) }
    let after := pass.1.ledger
    let summary := pass.2
    let siblings := before.orders.filter fun order => before.IsSibling order
    watchOnce directory now { ledger := before, world } = (pass.1.withoutLog, summary) ∧
    ∃ attempts : List (Order × CancelAnswer),
      IsLogOf pass.1.world.2 attempts ∧
      (attempts.map Prod.fst).Perm (siblings.filter directory.canAskFor) ∧
      (attempts.Pairwise fun first second =>
        ∀ group ∈ first.1.pairGroup, ∀ other ∈ second.1.pairGroup, group < other) ∧
      after.orders = before.orders.map (Order.afterCancels now attempts) ∧
      summary.triggered = siblings.length ∧
      summary.triggered = summary.resolved + summary.cancelFailures + summary.unsupported ∧
      summary.resolved = (before.orders.filter fun order => (order, .ok ()) ∈ attempts).length ∧
      summary.unsupported = (siblings.filter fun order => !directory.canCancel order).length ∧
      ∀ (later : Instant) (otherWorld : World),
        let next := watchOnce directory.logged later
          { ledger := after, world := (otherWorld, []) }
        ∃ again : List (Order × CancelAnswer),
          IsLogOf next.1.world.2 again ∧
          (again.map Prod.fst).Perm
            ((attempts.filter fun attempt => attempt.2 ≠ .ok ()).map Prod.fst) := by
  intro pass after summary siblings
  obtain ⟨attempts, account⟩ := watchOnce_account directory now before world
  refine ⟨watchGroups_logged directory now _ { ledger := before, world := (world, []) } .empty,
    attempts, account.log, account.asked_perm, account.asked_ascending, account.orders, ?_,
    account.outcomes, account.resolved_eq, ?_, ?_⟩
  · have count := before.siblings_perm.length_eq
    rw [List.length_map] at count
    exact account.triggered.trans count
  · exact account.unsupported.trans (before.siblings_perm.filter _).length_eq
  · intro later otherWorld next
    obtain ⟨again, laterAccount⟩ := watchOnce_account directory later after otherWorld
    exact ⟨again, laterAccount.log, account.asks_again laterAccount⟩

end OrderKeeper
