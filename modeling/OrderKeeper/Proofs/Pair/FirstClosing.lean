import OrderKeeper.Paper.Core
import OrderKeeper.Proofs.Core.Passes
import OrderKeeper.Proofs.Pair.Interruption
import OrderKeeper.Proofs.Pair.Siblings
import OrderKeeper.Proofs.Reconcile.Alignment

/-!
Contract: who closes the sibling of a filled leg.

Owns: the status that an order is closed with first while a pass over the pairs and listings
take turns, and what becomes of the two legs of a pair that the pass counts as resolved.

When the venue agrees to a cancel, the row of the sibling has left its book, so a listing of
that time lacks it.  Whoever closes the sibling first decides its status: the pass once it has
the answer, or a listing that is applied before.
-/

set_option autoImplicit false

namespace OrderKeeper

variable {World : Type}

/-! ## Who closes an order -/

/-- The status that an open order is closed with by what was done. -/
def WatchMark.closingStatus? (order : Order) : WatchMark → Option Status
  | .listed policy venue (.ok rows) =>
      if order.IsMissing venue rows then policy.closingStatus? else none
  | .settled pair .canceled => if pair.sibling.id = order.id then some .canceled else none
  | _ => none

/-- The status that an open order was closed with first. -/
def firstClosing? (order : Order) (marks : List WatchMark) : Option Status :=
  marks.findSome? (WatchMark.closingStatus? order)

/-- The record of an order is what it was, but for the status that it was closed with. -/
def Ledger.Follows (ledger : Ledger) (order : Order) (marks : List WatchMark) : Prop :=
  ∃ updatedAt, ledger.get? order.id =
    some { order with status := (firstClosing? order marks).getD order.status, updatedAt }

theorem WatchMark.closingStatus?_final {order : Order} {mark : WatchMark} {status : Status}
    (closes : mark.closingStatus? order = some status) : status.isFinal = true := by
  unfold closingStatus? at closes
  split at closes
  · split at closes
    · exact AbsencePolicy.closingStatus?_final closes
    · cases closes
  · split at closes
    · cases closes
      rfl
    · cases closes
  · cases closes

theorem firstClosing?_final {order : Order} {marks : List WatchMark} {status : Status}
    (closes : firstClosing? order marks = some status) : status.isFinal = true := by
  obtain ⟨mark, -, byMark⟩ := List.exists_of_findSome?_eq_some closes
  exact WatchMark.closingStatus?_final byMark

/-- The first close counts, also once there is more. -/
theorem firstClosing?_append (order : Order) (marks more : List WatchMark) :
    firstClosing? order (marks ++ more) =
      (firstClosing? order marks).or (firstClosing? order more) :=
  List.findSome?_append

section Follows

variable {ledger : Ledger} {order : Order} {marks : List WatchMark}

/-- Two ways to go on keep a record with its marks: a closed record stays, and an open one
becomes what the next mark says. -/
theorem Ledger.Follows.snoc {after : Ledger} {mark : WatchMark} (now : Instant)
    (follows : ledger.Follows order marks)
    (ifClosed : ∀ status updatedAt, status.isFinal = true →
      ledger.get? order.id = some { order with status, updatedAt } →
      after.get? order.id = some { order with status, updatedAt })
    (ifOpen : ∀ updatedAt, ledger.get? order.id = some { order with updatedAt } →
      after.get? order.id =
        some (match mark.closingStatus? order with
          | some status => { order with status, updatedAt := now }
          | none => { order with updatedAt })) :
    after.Follows order (marks ++ [mark]) := by
  obtain ⟨updatedAt, stored⟩ := follows
  have single : firstClosing? order [mark] = mark.closingStatus? order := by
    unfold firstClosing?
    rw [List.findSome?_cons, List.findSome?_nil]
    cases mark.closingStatus? order <;> rfl
  unfold Ledger.Follows
  rw [firstClosing?_append, single]
  cases already : firstClosing? order marks with
  | some status =>
      rw [already] at stored
      exact ⟨updatedAt, ifClosed status updatedAt (firstClosing?_final already) stored⟩
  | none =>
      rw [already] at stored
      have next := ifOpen updatedAt stored
      cases closes : mark.closingStatus? order with
      | some status =>
          rw [closes] at next
          exact ⟨now, next⟩
      | none =>
          rw [closes] at next
          exact ⟨updatedAt, next⟩

/-- An order is not under the id of another row of the venue. -/
def Order.IsOwnImport (order : Order) (venue : String) : Prop :=
  ∀ id, order.id = .imported venue id →
    Symbol.isOn order.symbol venue = true ∧ order.venueOrderId = some id

/-- A listing settles an order and does not replace it. -/
theorem get?_alignWithListing_of_own {id : OrderId} {kept : Order}
    (stored : ledger.get? id = some kept) {venue : String} (own : kept.IsOwnImport venue)
    (policy : AbsencePolicy) (now : Instant) (rows : List ListedOrder) :
    (alignWithListing policy now venue rows ledger).1.get? id =
      some (kept.settled policy now venue rows) := by
  obtain ⟨member, keptId⟩ := (ledger.get?_eq_some_iff id kept).mp stored
  have notTaken : ((takenOver now venue (ledger.unknownRows venue rows)).find? fun order =>
      order.id = id) = none := by
    rw [List.find?_eq_none]
    intro taken takenMember sameId
    obtain ⟨row, -, number, -, isFrom, notCarried⟩ := row_of_taken takenMember
    have imported := keptId.trans ((of_decide_eq_true sameId).symm.trans isFrom.order_id)
    obtain ⟨here, ownId⟩ := own number imported
    exact notCarried ⟨kept, (ledger.mem_onVenue venue kept).mpr ⟨member, here⟩, ownId⟩
  rw [get?_alignWithListing, notTaken, stored]
  rfl

/-- The application of an answer is what its mark says. -/
theorem Ledger.Follows.of_listing (follows : ledger.Follows order marks) {venue : String}
    (own : order.IsOwnImport venue) (policy : AbsencePolicy) (now : Instant)
    (answer : ListingAnswer) :
    (applyListing policy now venue answer ledger).1.Follows order
      (marks ++ [.listed policy venue answer]) := by
  cases answer with
  | error fault =>
      have unchanged : (applyListing policy now venue (.error fault) ledger).1 = ledger := by
        cases fault <;> rfl
      rw [unchanged]
      exact follows.snoc now (fun _ _ _ stored => stored) fun _ stored => stored
  | ok rows =>
      show (alignWithListing policy now venue rows ledger).1.Follows order _
      refine follows.snoc now ?_ ?_
      · intro status updatedAt final stored
        have settles := get?_alignWithListing_of_own stored own policy now rows
        rwa [Order.settled_of_final final] at settles
      · intro updatedAt stored
        have settles := get?_alignWithListing_of_own stored own policy now rows
        refine settles.trans (congrArg some ?_)
        have sameMissing : Order.IsMissing venue rows { order with updatedAt } ↔
            order.IsMissing venue rows := Iff.rfl
        have marked : (WatchMark.listed policy venue (.ok rows)).closingStatus? order =
            if order.IsMissing venue rows then policy.closingStatus? else none := rfl
        rw [marked]
        by_cases missing : order.IsMissing venue rows
        · rw [if_pos missing]
          unfold Order.settled
          cases policy.closingStatus? with
          | some status => exact if_pos (sameMissing.mpr missing)
          | none => rfl
        · rw [if_neg missing]
          exact Order.settled_of_not_missing policy now (mt sameMissing.mp missing)

/-- The close of the filled leg of a pair does not reach another order. -/
theorem Ledger.Follows.of_settled (follows : ledger.Follows order marks)
    (isOpen : order.isOpen = true) {pair : BrokenPair} (apart : order.id ≠ pair.filled.id)
    (now : Instant) (answer : CancelAnswer) :
    (settleCancel now pair answer ledger).1.Follows order
      (marks ++ [.settled pair (settleCancel now pair answer ledger).2]) := by
  cases answer with
  | error fault =>
      have unchanged : (settleCancel now pair (.error fault) ledger).1.get? order.id =
          ledger.get? order.id := by
        simp only [settleCancel]
        rw [Ledger.get?_close, if_neg apart]
      refine follows.snoc now ?_ ?_
      · intro status updatedAt _ stored
        exact unchanged.trans stored
      · intro updatedAt stored
        exact unchanged.trans stored
  | ok _ =>
      have closes : (settleCancel now pair (.ok ()) ledger).1.get? order.id =
          (ledger.close now pair.sibling.id .canceled).1.get? order.id := by
        simp only [settleCancel]
        rw [Ledger.get?_close, if_neg apart]
      refine follows.snoc now ?_ ?_
      · intro status updatedAt final stored
        rw [closes, Ledger.get?_close, stored]
        by_cases isSibling : order.id = pair.sibling.id
        · rw [if_pos isSibling, ← isSibling, stored, Option.map_some]
          exact congrArg some (Order.closed_of_final final)
        · rw [if_neg isSibling]
      · intro updatedAt stored
        rw [closes, Ledger.get?_close, stored]
        by_cases isSibling : order.id = pair.sibling.id
        · rw [if_pos isSibling, ← isSibling, stored, Option.map_some]
          have closed : Order.closed now .canceled { order with updatedAt } =
              { order with status := .canceled, updatedAt := now } := by
            have stillOpen : Order.isOpen { order with updatedAt } = true := isOpen
            rw [Order.closed, stillOpen]
            rfl
          rw [closed]
          simp [settleCancel, WatchMark.closingStatus?, isSibling]
        · rw [if_neg isSibling]
          simp [settleCancel, WatchMark.closingStatus?, Ne.symm isSibling]

end Follows

/-! ## Runs -/

/-- What a pass that began with a ledger keeps, whatever comes in between. -/
structure WatchScene.Keeps (before : Ledger) (sibling : Order) (scene : WatchScene World) :
    Prop where
  todo : ∀ members ∈ scene.todo, ∃ group, before.groupMembers group = members
  awaited : ∀ call ∈ scene.awaited, ∃ group, before.Breaks group call.1
  evolves : Ledger.Evolves LedgerCall.Any before scene.state.ledger
  follows : scene.state.ledger.Follows sibling scene.marks

section Run

variable {directory : VenueDirectory World} {before : Ledger} {sibling : Order}
  {scene : WatchScene World}

theorem WatchScene.Keeps.starting (state : State World)
    (stored : state.ledger.get? sibling.id = some sibling) :
    (WatchScene.starting state).Keeps state.ledger sibling where
  todo := fun _ member =>
    have ⟨group, _, isGroup⟩ := List.mem_map.mp member
    ⟨group, isGroup⟩
  awaited := fun _ impossible => nomatch impossible
  evolves := Ledger.Evolves.refl state.ledger
  follows := ⟨sibling.updatedAt, stored⟩

/-- A mark that closes nothing may be added. -/
theorem Ledger.Follows.noting {ledger : Ledger} {marks : List WatchMark} {mark : WatchMark}
    (follows : ledger.Follows sibling marks) (closesNothing : mark.closingStatus? sibling = none) :
    ledger.Follows sibling (marks ++ [mark]) := by
  refine follows.snoc ⟨0, 0⟩ (fun _ _ _ stored => stored) fun _ stored => ?_
  rw [closesNothing]
  exact stored

theorem WatchScene.Keeps.settle (keeps : scene.Keeps before sibling)
    (stored : sibling ∈ before.orders) (isOpen : sibling.isOpen = true) {group : String}
    {pair : BrokenPair} (breaks : before.Breaks group pair) (now : Instant)
    (answer : CancelAnswer) : (scene.settle now pair answer).Keeps before sibling := by
  -- The filled leg of a pair was filled at the start, and the sibling was open.
  have apart : sibling.id ≠ pair.filled.id := by
    intro sameId
    have filledStored := ((before.mem_groupMembers group pair.filled).mp breaks.members.1).1
    have same := Ledger.eq_of_same_id stored filledStored sameId
    rw [same, Order.not_open_of_filled breaks.isFilled] at isOpen
    cases isOpen
  have nothingAwaited : ∀ call ∈ (none : Option (BrokenPair × CancelAnswer)),
      ∃ group, before.Breaks group call.1 := fun call impossible => nomatch impossible
  refine ⟨keeps.todo, nothingAwaited, ?_, ?_⟩
  · exact keeps.evolves.trans (settleCancel_evolves now pair answer scene.state.ledger).any
  · exact keeps.follows.of_settled isOpen apart now answer

theorem WatchScene.Keeps.ask (keeps : scene.Keeps before sibling) {group : String}
    {pair : BrokenPair} (breaks : before.Breaks group pair) :
    (scene.ask directory pair).Keeps before sibling := by
  unfold WatchScene.ask
  cases directory.gatewayFor (pair.sibling.venue?.getD "") .cancel with
  | error _ => exact ⟨keeps.todo, keeps.awaited, keeps.evolves, keeps.follows.noting rfl⟩
  | ok gateway =>
      refine ⟨keeps.todo, ?_, keeps.evolves, keeps.follows⟩
      rintro call ⟨⟩
      exact ⟨group, breaks⟩

theorem WatchScene.Keeps.proceed (keeps : scene.Keeps before sibling)
    (stored : sibling ∈ before.orders) (isOpen : sibling.isOpen = true) (now : Instant) :
    (scene.proceed directory now).Keeps before sibling := by
  unfold WatchScene.proceed
  cases awaits : scene.awaited with
  | some call =>
      obtain ⟨group, breaks⟩ := keeps.awaited call awaits
      exact keeps.settle stored isOpen breaks now call.2
  | none =>
      cases left : scene.todo with
      | nil => exact keeps
      | cons members todo =>
          have isGroup := keeps.todo members (left ▸ List.mem_cons_self)
          have restGroups : ∀ others ∈ todo, ∃ group, before.groupMembers group = others :=
            fun others member => keeps.todo others (left ▸ List.mem_cons_of_mem members member)
          have goesOn : WatchScene.Keeps before sibling { scene with todo, awaited := none } :=
            ⟨restGroups, (fun _ impossible => nomatch impossible), keeps.evolves, keeps.follows⟩
          dsimp only
          cases called : groupState members with
          | settled => exact goesOn
          | notAPair =>
              refine ⟨goesOn.todo, goesOn.awaited, goesOn.evolves, ?_⟩
              exact keeps.follows.noting rfl
          | broken pair =>
              obtain ⟨group, rfl⟩ := isGroup
              have breaks : before.Breaks group pair := by
                rw [← before.breaks_iff, called]
                rfl
              exact goesOn.ask breaks

theorem WatchScene.Keeps.applyAnswer (keeps : scene.Keeps before sibling)
    (own : ∀ venue ∈ directory.keys, sibling.IsOwnImport venue) (now : Instant)
    (policy : AbsencePolicy) (venue : String) (answer : ListingAnswer) :
    (scene.applyAnswer directory now policy venue answer).Keeps before sibling := by
  unfold WatchScene.applyAnswer
  by_cases isKey : venue ∈ directory.keys
  · rw [if_pos isKey]
    refine ⟨keeps.todo, keeps.awaited, ?_, ?_⟩
    · exact keeps.evolves.trans (applyListing_evolves policy now venue answer scene.state.ledger)
    · exact keeps.follows.of_listing (own venue isKey) policy now answer
  · rw [if_neg isKey]
    exact keeps

theorem WatchScene.Keeps.step (keeps : scene.Keeps before sibling)
    (stored : sibling ∈ before.orders) (isOpen : sibling.isOpen = true)
    (own : ∀ venue ∈ directory.keys, sibling.IsOwnImport venue) (event : WatchEvent World) :
    (scene.step directory event).Keeps before sibling := by
  cases event with
  | proceed now => exact keeps.proceed stored isOpen now
  | listing now policy venue answer => exact keeps.applyAnswer own now policy venue answer
  | elsewhere world => exact ⟨keeps.todo, keeps.awaited, keeps.evolves, keeps.follows⟩

theorem WatchScene.Keeps.run (keeps : scene.Keeps before sibling)
    (stored : sibling ∈ before.orders) (isOpen : sibling.isOpen = true)
    (own : ∀ venue ∈ directory.keys, sibling.IsOwnImport venue)
    (events : List (WatchEvent World)) : (scene.run directory events).Keeps before sibling := by
  induction events generalizing scene with
  | nil => exact keeps
  | cons event rest inductionHypothesis =>
      exact inductionHypothesis (keeps.step stored isOpen own event)

end Run

/-- A pass over the pairs, with listings applied at any time in between.  Once the pass has
counted a pair as resolved, the filled leg is filled, and the record of the sibling is as it
was but for its status, which is that of the first to close it.  So it is canceled, unless a
listing that lacked it was applied before under the policy to assume fills; then it may be
filled, and is if that listing was the first to close it. -/
theorem resolved_sibling_has_first_closing (directory : VenueDirectory World)
    (before : State World) {group : String} {pair : BrokenPair}
    (breaks : before.ledger.Breaks group pair)
    (own : ∀ venue ∈ directory.keys, pair.sibling.IsOwnImport venue)
    (events : List (WatchEvent World)) {earlier later : List WatchMark}
    (resolved : ((WatchScene.starting before).run directory events).marks =
      earlier ++ .settled pair .canceled :: later) :
    let after := ((WatchScene.starting before).run directory events).state.ledger
    let closing := (firstClosing? pair.sibling earlier).getD .canceled
    (∃ kept, after.get? pair.filled.id = some kept ∧ kept.status = .filled) ∧
    (∃ updatedAt, after.get? pair.sibling.id =
      some { pair.sibling with status := closing, updatedAt }) ∧
    (closing ≠ .canceled → closing = .filled ∧ ∃ venue rows,
      .listed .assumeFilled venue (.ok rows) ∈ earlier ∧ pair.sibling.IsMissing venue rows) := by
  intro after closing
  have filledStored := ((before.ledger.mem_groupMembers group pair.filled).mp breaks.members.1).1
  have siblingStored := ((before.ledger.mem_groupMembers group pair.sibling).mp breaks.members.2).1
  have keeps := (WatchScene.Keeps.starting before (Ledger.get?_of_mem siblingStored)).run
    siblingStored breaks.isOpen own events
  refine ⟨?_, ?_, ?_⟩
  · obtain ⟨kept, found, sameStatus⟩ :=
      keeps.evolves.keepsOrders pair.filled.id pair.filled (Ledger.get?_of_mem filledStored)
    rw [breaks.isFilled] at sameStatus
    exact ⟨kept, found, sameStatus rfl⟩
  · obtain ⟨updatedAt, found⟩ := keeps.follows
    refine ⟨updatedAt, found.trans ?_⟩
    have isFirst : (firstClosing? pair.sibling
        ((WatchScene.starting before).run directory events).marks).getD pair.sibling.status =
          closing := by
      rw [resolved, firstClosing?_append]
      have pairCloses : firstClosing? pair.sibling (.settled pair .canceled :: later) =
          some .canceled := by
        simp [firstClosing?, WatchMark.closingStatus?]
      rw [pairCloses]
      cases closes : firstClosing? pair.sibling earlier <;> simp [closing, closes]
    rw [isFirst]
  · intro notCanceled
    cases closes : firstClosing? pair.sibling earlier with
    | none =>
        simp only [closing, closes, Option.getD_none] at notCanceled
        exact absurd rfl notCanceled
    | some status =>
        simp only [closing, closes, Option.getD_some] at notCanceled ⊢
        obtain ⟨mark, member, byMark⟩ := List.exists_of_findSome?_eq_some closes
        unfold WatchMark.closingStatus? at byMark
        split at byMark
        · rename_i policy venue rows
          split at byMark
          · rename_i missing
            cases policy <;> cases byMark
            · exact ⟨rfl, venue, rows, member, missing⟩
            · exact absurd rfl notCanceled
          · cases byMark
        · split at byMark
          · cases byMark
            exact absurd rfl notCanceled
          · cases byMark
        · cases byMark

/-! ## A sibling that a listing fills -/

section Overtaken

/-- A pair on a paper venue, once its first leg has filled. -/
def overtakenPair : BrokenPair :=
  let ids := PaperCore.numberedId "order"
  let first := OrderTicket.limit "first" "BTC.PAPER" .sell .one .one
  let second := OrderTicket.limit "second" "BTC.PAPER" .sell .one .one
  { filled := { PaperBroker.orderOf ⟨0, 0⟩ first (ids 0) "PAPER-1" with
      status := .filled, pairGroup := some "pair", updatedAt := ⟨1, 0⟩ }
    sibling := { PaperBroker.orderOf ⟨0, 0⟩ second (ids 1) "PAPER-2" with
      pairGroup := some "pair" } }

/-- The state in which a pass finds the pair: the first leg has filled and left the book. -/
def beforeOvertaking : State PaperMarket :=
  let ids := PaperCore.numberedId "order"
  let first := OrderTicket.limit "first" "BTC.PAPER" .sell .one .one
  let second := OrderTicket.limit "second" "BTC.PAPER" .sell .one .one
  let (_, placed) := placePair (PaperMarket.broker ids ["PAPER"]).toBroker ⟨0, 0⟩ "pair" first
    second ⟨.empty, .ofNames ["PAPER"]⟩
  { ledger := (placed.ledger.close ⟨1, 0⟩ (ids 0) .filled).1
    world := placed.world.setVenue "PAPER" ((placed.world.venueAt "PAPER").delist "PAPER-1").1 }

/-- The venue agrees to the cancel, then its listing is applied, then the pass goes on. -/
def overtaking : List (WatchEvent PaperMarket) :=
  [.proceed ⟨2, 0⟩, .listing ⟨3, 0⟩ .assumeFilled "PAPER" (.ok []), .proceed ⟨4, 0⟩]

theorem starting_beforeOvertaking :
    WatchScene.starting beforeOvertaking =
      ⟨beforeOvertaking, [[overtakenPair.filled, overtakenPair.sibling]], none, []⟩ := by
  have onlyGroup : beforeOvertaking.ledger.groupIds = ["pair"] :=
    Ledger.groupIds_of_one (by decide +kernel) (by decide +kernel)
  have members : beforeOvertaking.ledger.groupMembers "pair" =
      [overtakenPair.filled, overtakenPair.sibling] := by decide +kernel
  unfold WatchScene.starting
  rw [onlyGroup, List.map_cons, members, List.map_nil]

/-- The listing fills the sibling, and the pass does not change that. -/
theorem overtaken_sibling_has_first_closing :
    let last := (WatchScene.starting beforeOvertaking).run (PaperMarket.directory ["PAPER"])
      overtaking
    beforeOvertaking.ledger.Breaks "pair" overtakenPair ∧
      (∃ earlier later, last.marks = earlier ++ .settled overtakenPair .canceled :: later) ∧
      ∃ updatedAt, last.state.ledger.get? overtakenPair.sibling.id =
        some { overtakenPair.sibling with status := .filled, updatedAt } := by
  intro last
  have breaks : beforeOvertaking.ledger.Breaks "pair" overtakenPair := by
    rw [← Ledger.breaks_iff]
    decide +kernel
  have own : ∀ venue ∈ (PaperMarket.directory ["PAPER"]).keys,
      overtakenPair.sibling.IsOwnImport venue := by
    intro venue _ id sameId
    have letters := congrArg (fun id => id.text.toList.head?) sameId
    have ownFirst : overtakenPair.sibling.id.text.toList.head? = some 'o' := by decide +kernel
    simp [ownFirst, OrderId.imported] at letters
  have resolved : last.marks =
      [.listed .assumeFilled "PAPER" (.ok [])] ++ .settled overtakenPair .canceled :: [] := by
    dsimp only [last]
    rw [starting_beforeOvertaking]
    decide +kernel
  have closes := resolved_sibling_has_first_closing _ _ breaks own overtaking resolved
  exact ⟨breaks, ⟨_, _, resolved⟩, closes.2.1⟩

/-- The listing is what the venue answers once it has agreed to the cancel; the pass counts the
pair as resolved, and the sibling is filled. -/
theorem resolved_sibling_filled :
    let directory := PaperMarket.directory ["PAPER"]
    let scene := WatchScene.starting beforeOvertaking
    let asked := scene.run directory [.proceed ⟨2, 0⟩]
    let last := scene.run directory overtaking
    asked.awaited = some (overtakenPair, .ok ()) ∧
      directory.answers asked.state.world = [("PAPER", .ok [])] ∧
      last.todo = [] ∧ last.awaited = none ∧ last.summary.resolved = 1 ∧
      ∃ kept ∈ last.state.ledger.get? overtakenPair.sibling.id, kept.status = .filled := by
  rw [starting_beforeOvertaking]
  decide +kernel

end Overtaken

end OrderKeeper
