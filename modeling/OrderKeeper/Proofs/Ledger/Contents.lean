import OrderKeeper.Order.Ledger
import OrderKeeper.Proofs.Keyed

/-!
Contract: what the ledger holds after each of its writes.

Owns: look-up against membership, and for each write the order under every id
afterwards, the answer, and the cases in which nothing changes.

Does not own: runs of several writes.
-/

set_option autoImplicit false

namespace OrderKeeper

namespace Order

theorem isOpen_of_final {order : Order} (final : order.status.isFinal = true) :
    order.isOpen = false := by
  simpa [Status.isFinal, isOpen] using final

/-- The order that an id holds once `order` has been written over what it held before. -/
def writtenOver (now : Instant) (order : Order) : Option Order → Order
  | none => { order with updatedAt := now }
  | some current =>
      if current.status.isFinal && current.status != order.status then current
      else { order with updatedAt := now }

/-- The order that an id holds once it has been asked to close with a status. -/
def closed (now : Instant) (status : Status) (order : Order) : Order :=
  if order.isOpen && status.isFinal then { order with status, updatedAt := now } else order

@[simp] theorem closed_id (now : Instant) (status : Status) (order : Order) :
    (order.closed now status).id = order.id := by
  unfold closed
  split <;> rfl

@[simp] theorem closed_symbol (now : Instant) (status : Status) (order : Order) :
    (order.closed now status).symbol = order.symbol := by
  unfold closed
  split <;> rfl

@[simp] theorem closed_venueOrderId (now : Instant) (status : Status) (order : Order) :
    (order.closed now status).venueOrderId = order.venueOrderId := by
  unfold closed
  split <;> rfl

/-- A final order is not closed again. -/
theorem closed_of_final {now : Instant} {status : Status} {order : Order}
    (final : order.status.isFinal = true) : order.closed now status = order := by
  simp [closed, isOpen_of_final final]

/-- A second close changes nothing. -/
@[simp] theorem closed_closed (now : Instant) (status : Status) (order : Order) :
    (order.closed now status).closed now status = order.closed now status := by
  by_cases closes : (order.isOpen && status.isFinal) = true
  · refine closed_of_final ?_
    rw [closed, if_pos closes]
    exact (Bool.and_eq_true _ _ ▸ closes).2
  · have unchanged : order.closed now status = order := if_neg closes
    rw [unchanged, unchanged]

end Order

namespace Ledger

theorem eq_of_orders {first second : Ledger} (same : first.orders = second.orders) :
    first = second := by
  cases first
  cases second
  simpa using same

/-! ## Look-up -/

theorem get?_eq_some_iff (ledger : Ledger) (id : OrderId) (order : Order) :
    ledger.get? id = some order ↔ order ∈ ledger.orders ∧ order.id = id :=
  Keyed.find?_eq_some_iff ledger.distinct_ids id order

theorem get?_eq_none_iff (ledger : Ledger) (id : OrderId) :
    ledger.get? id = none ↔ ∀ order ∈ ledger.orders, order.id ≠ id := by
  unfold get?
  rw [List.find?_eq_none]
  simp

theorem id_of_get? {ledger : Ledger} {id : OrderId} {order : Order}
    (stored : ledger.get? id = some order) : order.id = id :=
  ((ledger.get?_eq_some_iff id order).mp stored).2

theorem get?_of_mem {ledger : Ledger} {order : Order} (member : order ∈ ledger.orders) :
    ledger.get? order.id = some order :=
  (ledger.get?_eq_some_iff order.id order).mpr ⟨member, rfl⟩

theorem eq_of_same_id {ledger : Ledger} {first second : Order} (firstMember : first ∈ ledger.orders)
    (secondMember : second ∈ ledger.orders) (same : first.id = second.id) : first = second := by
  have firstStored := get?_of_mem firstMember
  rw [same, get?_of_mem secondMember] at firstStored
  exact (Option.some.inj firstStored).symm

/-! ## Change in place -/

theorem get?_modify (ledger : Ledger) (id : OrderId) (change : Order → Order)
    (keepsId : ∀ order, order.id = id → (change order).id = id) (other : OrderId) :
    (ledger.modify id change keepsId).get? other =
      if other = id then (ledger.get? id).map change else ledger.get? other := by
  have keeps : ∀ order : Order, (if order.id = id then change order else order).id = order.id := by
    intro order
    by_cases here : order.id = id
    · rw [if_pos here, keepsId order here, here]
    · rw [if_neg here]
  unfold get? modify
  rw [Keyed.find?_map Order.id keeps]
  by_cases here : other = id
  · rw [if_pos here, here]
    cases stored : ledger.orders.find? (fun order => order.id = id) with
    | none => rfl
    | some order =>
        have orderId : order.id = id := by simpa using List.find?_some stored
        simp [orderId]
  · rw [if_neg here]
    cases stored : ledger.orders.find? (fun order => order.id = other) with
    | none => rfl
    | some order =>
        have orderId : order.id = other := by simpa using List.find?_some stored
        have different : order.id ≠ id := fun equal => here (orderId.symm.trans equal)
        simp [different]

/-- A change of every order that keeps the ids is found again under each id. -/
theorem get?_of_map {before after : Ledger} {change : Order → Order}
    (orders : after.orders = before.orders.map change)
    (keepsId : ∀ order, (change order).id = order.id) (id : OrderId) :
    after.get? id = (before.get? id).map change := by
  unfold get?
  rw [orders]
  exact Keyed.find?_map Order.id keepsId before.orders id

/-- A change of every order that keeps the groups is found again in each group. -/
theorem groupMembers_of_map {before after : Ledger} {change : Order → Order}
    (orders : after.orders = before.orders.map change)
    (keepsGroup : ∀ order, (change order).pairGroup = order.pairGroup) (group : String) :
    after.groupMembers group = (before.groupMembers group).map change := by
  unfold groupMembers
  rw [orders, List.filter_map]
  simp only [Function.comp_def, keepsGroup]

/-! ## Writing -/

theorem write_of_absent {ledger : Ledger} {order : Order} (now : Instant)
    (absent : ledger.get? order.id = none) :
    (ledger.write now order).1.orders = ledger.orders ++ [{ order with updatedAt := now }] ∧
      (ledger.write now order).2 = .inserted := by
  unfold write
  split
  · exact ⟨rfl, rfl⟩
  · rename_i current stored
    rw [absent] at stored
    cases stored

theorem write_of_stored {ledger : Ledger} {order current : Order} (now : Instant)
    (stored : ledger.get? order.id = some current) :
    ledger.write now order =
      if current.status.isFinal && current.status != order.status then
        (ledger, .rejectedTerminal)
      else
        (ledger.modify order.id (fun _ => { order with updatedAt := now }) fun _ _ => rfl,
          .replaced) := by
  unfold write
  split
  · rename_i absent
    rw [stored] at absent
    cases absent
  · rename_i found foundStored
    rw [stored] at foundStored
    cases foundStored
    rfl

/-- A write that is answered as rejected leaves the whole ledger as it was. -/
theorem write_of_rejected {ledger : Ledger} {now : Instant} {order : Order}
    (rejected : (ledger.write now order).2 = .rejectedTerminal) :
    (ledger.write now order).1 = ledger := by
  cases stored : ledger.get? order.id with
  | none =>
      rw [(write_of_absent now stored).2] at rejected
      cases rejected
  | some current =>
      rw [write_of_stored now stored] at rejected ⊢
      by_cases guarded : (current.status.isFinal && current.status != order.status) = true
      · rw [if_pos guarded]
      · rw [if_neg guarded] at rejected
        cases rejected

/-- A write reaches the order of its id and no other. -/
theorem get?_write (ledger : Ledger) (now : Instant) (order : Order) (other : OrderId) :
    (ledger.write now order).1.get? other =
      if other = order.id then some (order.writtenOver now (ledger.get? order.id))
      else ledger.get? other := by
  cases stored : ledger.get? order.id with
  | none =>
      unfold get?
      rw [(write_of_absent now stored).1, List.find?_append]
      by_cases here : other = order.id
      · have absent : (ledger.orders.find? fun kept => kept.id = order.id) = none := stored
        rw [if_pos here, here, absent]
        simp [Order.writtenOver]
      · rw [if_neg here]
        simp [Ne.symm here]
  | some current =>
      rw [write_of_stored now stored]
      by_cases guarded : (current.status.isFinal && current.status != order.status) = true
      · rw [if_pos guarded, Order.writtenOver, if_pos guarded]
        by_cases here : other = order.id
        · rw [if_pos here, here, stored]
        · rw [if_neg here]
      · rw [if_neg guarded, Order.writtenOver, if_neg guarded, get?_modify, stored]
        rfl

/-- The orders after a write over one of them stand where they stood. -/
theorem write_orders_of_stored {ledger : Ledger} {order current : Order} (now : Instant)
    (stored : ledger.get? order.id = some current) :
    (ledger.write now order).1.orders =
      ledger.orders.map fun kept =>
        if kept.id = order.id then order.writtenOver now (some kept) else kept := by
  have isCurrent : ∀ kept ∈ ledger.orders, kept.id = order.id → kept = current := by
    intro kept member here
    exact eq_of_same_id member ((ledger.get?_eq_some_iff order.id current).mp stored).1
      (here.trans (id_of_get? stored).symm)
  rw [write_of_stored now stored]
  by_cases guarded : (current.status.isFinal && current.status != order.status) = true
  · rw [if_pos guarded]
    refine ((List.map_congr_left fun kept member => ?_).trans (List.map_id _)).symm
    by_cases here : kept.id = order.id
    · rw [if_pos here, isCurrent kept member here, Order.writtenOver]
      exact if_pos guarded
    · exact if_neg here
  · rw [if_neg guarded]
    refine List.map_congr_left fun kept member => ?_
    by_cases here : kept.id = order.id
    · rw [if_pos here, if_pos here, isCurrent kept member here, Order.writtenOver]
      exact (if_neg guarded).symm
    · rw [if_neg here, if_neg here]

/-! ## Closing -/

theorem close_of_absent {ledger : Ledger} {id : OrderId} (now : Instant) (status : Status)
    (absent : ledger.get? id = none) : ledger.close now id status = (ledger, false) := by
  unfold close
  rw [absent]
  split <;> rfl

theorem close_of_stored {ledger : Ledger} {id : OrderId} {current : Order} (now : Instant)
    (status : Status) (stored : ledger.get? id = some current) :
    ledger.close now id status =
      if current.isOpen && status.isFinal then
        (ledger.modify id (fun order => { order with status, updatedAt := now })
          fun _ same => same, true)
      else (ledger, false) := by
  unfold close
  rw [stored]
  cases status <;> cases currentOpen : current.isOpen <;>
    simp [Status.isOpen, Status.isFinal, currentOpen]

/-- A close that is answered with no leaves the whole ledger as it was. -/
theorem close_of_false {ledger : Ledger} {now : Instant} {id : OrderId} {status : Status}
    (refused : (ledger.close now id status).2 = false) :
    (ledger.close now id status).1 = ledger := by
  cases stored : ledger.get? id with
  | none => rw [close_of_absent now status stored]
  | some current =>
      rw [close_of_stored now status stored] at refused ⊢
      by_cases closes : (current.isOpen && status.isFinal) = true
      · rw [if_pos closes] at refused
        cases refused
      · rw [if_neg closes]

/-- A close is answered with yes when it moves an open order to a final status. -/
theorem close_snd_of_stored {ledger : Ledger} {id : OrderId} {current : Order} (now : Instant)
    (status : Status) (stored : ledger.get? id = some current) :
    (ledger.close now id status).2 = (current.isOpen && status.isFinal) := by
  rw [close_of_stored now status stored]
  cases current.isOpen && status.isFinal <;> rfl

/-- A close reaches the order of its id and no other. -/
theorem get?_close (ledger : Ledger) (now : Instant) (id : OrderId) (status : Status)
    (other : OrderId) :
    (ledger.close now id status).1.get? other =
      if other = id then (ledger.get? id).map (Order.closed now status)
      else ledger.get? other := by
  cases stored : ledger.get? id with
  | none =>
      rw [close_of_absent now status stored]
      by_cases here : other = id
      · rw [if_pos here, here, stored]
        rfl
      · rw [if_neg here]
  | some current =>
      rw [close_of_stored now status stored]
      by_cases closes : (current.isOpen && status.isFinal) = true
      · rw [if_pos closes, get?_modify, stored]
        simp [Order.closed, closes]
      · rw [if_neg closes]
        by_cases here : other = id
        · rw [if_pos here, here, stored]
          simp [Order.closed, closes]
        · rw [if_neg here]

/-- The orders after a close stand where they stood. -/
theorem close_orders (ledger : Ledger) (now : Instant) (id : OrderId) (status : Status) :
    (ledger.close now id status).1.orders =
      ledger.orders.map fun order => if order.id = id then order.closed now status else order := by
  have kept : (∀ order ∈ ledger.orders, order.id = id → order.closed now status = order) →
      ledger.orders.map (fun order => if order.id = id then order.closed now status else order) =
        ledger.orders := by
    intro same
    refine (List.map_congr_left fun order member => ?_).trans (List.map_id ledger.orders)
    by_cases here : order.id = id
    · rw [if_pos here, same order member here]
      rfl
    · rw [if_neg here]
      rfl
  cases stored : ledger.get? id with
  | none =>
      have absent := (ledger.get?_eq_none_iff id).mp stored
      rw [close_of_absent now status stored,
        kept fun order member here => absurd here (absent order member)]
  | some current =>
      have isCurrent : ∀ order ∈ ledger.orders, order.id = id → order = current := by
        intro order member here
        have found := get?_of_mem member
        rw [here, stored] at found
        exact (Option.some.inj found).symm
      rw [close_of_stored now status stored]
      by_cases closes : (current.isOpen && status.isFinal) = true
      · rw [if_pos closes]
        refine List.map_congr_left fun order member => ?_
        by_cases here : order.id = id
        · rw [if_pos here, if_pos here, isCurrent order member here, Order.closed, if_pos closes]
        · rw [if_neg here, if_neg here]
      · rw [if_neg closes, kept]
        intro order member here
        rw [isCurrent order member here, Order.closed, if_neg closes]

/-! ## Joining a group -/

theorem get?_joinGroup (ledger : Ledger) (now : Instant) (id : OrderId) (group : String)
    (other : OrderId) :
    (ledger.joinGroup now id group).1.get? other =
      if other = id then
        (ledger.get? id).map fun order => { order with pairGroup := some group, updatedAt := now }
      else ledger.get? other := by
  unfold joinGroup
  cases stored : ledger.get? id with
  | none =>
      by_cases here : other = id
      · rw [if_pos here, here, stored]
        rfl
      · rw [if_neg here]
  | some current =>
      dsimp only
      rw [get?_modify, stored]

/-- The orders after one of them joined a group stand where they stood. -/
theorem joinGroup_orders (ledger : Ledger) (now : Instant) (id : OrderId) (group : String) :
    (ledger.joinGroup now id group).1.orders =
      ledger.orders.map fun order =>
        if order.id = id then { order with pairGroup := some group, updatedAt := now }
        else order := by
  unfold joinGroup
  cases stored : ledger.get? id with
  | some current => rfl
  | none =>
      have absent := (ledger.get?_eq_none_iff id).mp stored
      refine ((List.map_congr_left fun order member => ?_).trans (List.map_id _)).symm
      exact if_neg (absent order member)

end Ledger

end OrderKeeper
