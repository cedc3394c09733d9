import Mathlib.Algebra.Group.Nat.Defs
import Mathlib.Algebra.Group.Prod
import OrderKeeper.Proofs.Reconcile.Adoption
import OrderKeeper.Proofs.Reconcile.Matching

/-!
Contract: what the two loops of a listing do to the ledger.

Owns: loops that count, the orders and the count after missing orders are closed, and the
orders and the counts after rows are taken over.

Does not own: which orders are missing and which rows are unknown.
-/

set_option autoImplicit false

namespace OrderKeeper

/-- A loop that only adds to its count may begin at any count. -/
theorem foldl_counted {σ α κ : Type} [AddMonoid κ] (round : σ × κ → α → σ × κ)
    (onlyAdds : ∀ state count item,
      round (state, count) item =
        ((round (state, 0) item).1, count + (round (state, 0) item).2))
    (items : List α) (state : σ) (count : κ) :
    items.foldl round (state, count) =
      ((items.foldl round (state, 0)).1, count + (items.foldl round (state, 0)).2) := by
  induction items generalizing state count with
  | nil => simp
  | cons item rest inductionHypothesis =>
      rw [List.foldl_cons, List.foldl_cons, onlyAdds, inductionHypothesis,
        inductionHypothesis (round (state, 0) item).1 (round (state, 0) item).2, add_assoc]

/-! ## Closing -/

theorem closeAll_cons (now : Instant) (status : Status) (order : Order) (rest : List Order)
    (ledger : Ledger) :
    closeAll now status (order :: rest) ledger =
      ((closeAll now status rest (ledger.close now order.id status).1).1,
        (if (ledger.close now order.id status).2 then 1 else 0) +
          (closeAll now status rest (ledger.close now order.id status).1).2) := by
  unfold closeAll
  rw [List.foldl_cons]
  refine (foldl_counted _ ?_ rest (ledger.close now order.id status).1
    (if (ledger.close now order.id status).2 then 0 + 1 else 0)).trans ?_
  · intro kept count item
    by_cases changed : (kept.close now item.id status).2 = true
    · simp [changed]
    · simp [changed]
  · simp only [Nat.zero_add]

/-- After a loop of closes the orders stand where they stood. -/
theorem closeAll_orders (now : Instant) (status : Status) (orders : List Order) (ledger : Ledger) :
    (closeAll now status orders ledger).1.orders =
      ledger.orders.map fun order =>
        if order.id ∈ orders.map Order.id then order.closed now status else order := by
  induction orders generalizing ledger with
  | nil => simp [closeAll]
  | cons first rest inductionHypothesis =>
      rw [closeAll_cons, inductionHypothesis, Ledger.close_orders, List.map_map]
      refine List.map_congr_left fun order _ => ?_
      rw [Function.comp_apply, List.map_cons]
      by_cases here : order.id = first.id
      · have listed : order.id ∈ first.id :: rest.map Order.id := by
          rw [here]
          exact List.mem_cons_self
        rw [if_pos here, Order.closed_id, Order.closed_closed, if_pos listed]
        exact ite_self _
      · rw [if_neg here]
        simp [here]

/-- A loop of closes counts every order if all are open. -/
theorem closeAll_count {now : Instant} {status : Status} (final : status.isFinal = true)
    {orders : List Order} {ledger : Ledger} (distinct : (orders.map Order.id).Nodup)
    (stored : ∀ order ∈ orders, order ∈ ledger.orders)
    (areOpen : ∀ order ∈ orders, order.isOpen = true) :
    (closeAll now status orders ledger).2 = orders.length := by
  induction orders generalizing ledger with
  | nil => rfl
  | cons first rest inductionHypothesis =>
      have firstStored := Ledger.get?_of_mem (stored first List.mem_cons_self)
      have firstCloses : (ledger.close now first.id status).2 = true := by
        rw [Ledger.close_snd_of_stored now status firstStored,
          areOpen first List.mem_cons_self, final]
        rfl
      rw [List.map_cons, List.nodup_cons] at distinct
      have restStored : ∀ order ∈ rest, order ∈ (ledger.close now first.id status).1.orders := by
        intro order member
        have different : order.id ≠ first.id := by
          intro same
          exact distinct.1 (same ▸ List.mem_map_of_mem member)
        rw [Ledger.close_orders]
        exact List.mem_map.mpr
          ⟨order, stored order (List.mem_cons_of_mem first member), if_neg different⟩
      rw [closeAll_cons, firstCloses, if_pos rfl,
        inductionHypothesis distinct.2 restStored
          fun order member => areOpen order (List.mem_cons_of_mem first member),
        List.length_cons, Nat.add_comm]

/-- A policy closes with a final status or not at all. -/
theorem AbsencePolicy.closingStatus?_final {policy : AbsencePolicy} {status : Status}
    (closes : policy.closingStatus? = some status) : status.isFinal = true := by
  cases policy <;> cases closes <;> rfl

/-- An order after the closes of a listing: a missing one has the status of the policy. -/
def Order.settled (policy : AbsencePolicy) (now : Instant) (venue : String)
    (rows : List ListedOrder) (order : Order) : Order :=
  match policy.closingStatus? with
  | some status =>
      if order.IsMissing venue rows then { order with status, updatedAt := now } else order
  | none => order

namespace Order

variable (policy : AbsencePolicy) (now : Instant) (venue : String) (rows : List ListedOrder)
  (order : Order)

@[simp] theorem settled_id : (order.settled policy now venue rows).id = order.id := by
  unfold settled
  split
  · split <;> rfl
  · rfl

@[simp] theorem settled_symbol : (order.settled policy now venue rows).symbol = order.symbol := by
  unfold settled
  split
  · split <;> rfl
  · rfl

@[simp] theorem settled_venueOrderId :
    (order.settled policy now venue rows).venueOrderId = order.venueOrderId := by
  unfold settled
  split
  · split <;> rfl
  · rfl

end Order

theorem Order.settled_of_not_missing {order : Order} {venue : String} {rows : List ListedOrder}
    (policy : AbsencePolicy) (now : Instant) (present : ¬order.IsMissing venue rows) :
    order.settled policy now venue rows = order := by
  unfold settled
  split
  · rw [if_neg present]
  · rfl

/-- A listing leaves a final order as it is. -/
theorem Order.settled_of_final {kept : Order} (final : kept.status.isFinal = true)
    (policy : AbsencePolicy) (now : Instant) (venue : String) (rows : List ListedOrder) :
    kept.settled policy now venue rows = kept := by
  apply Order.settled_of_not_missing
  intro missing
  have isOpen := missing.1
  rw [Order.isOpen_of_final final] at isOpen
  cases isOpen

/-- The closes of a listing settle every order. -/
theorem closeMissing_orders (policy : AbsencePolicy) (now : Instant) (venue : String)
    (rows : List ListedOrder) (ledger : Ledger) :
    (closeMissing policy now (ledger.orders.filter fun order => order.IsMissing venue rows)
        ledger).1.orders =
      ledger.orders.map (Order.settled policy now venue rows) := by
  unfold closeMissing
  cases closes : policy.closingStatus? with
  | none =>
      refine Eq.trans (List.map_id ledger.orders).symm (List.map_congr_left fun order _ => ?_)
      rw [Order.settled, closes]
      rfl
  | some status =>
      dsimp only
      rw [closeAll_orders]
      refine List.map_congr_left fun order member => ?_
      have missingIff : order.id ∈ (ledger.orders.filter fun order =>
          order.IsMissing venue rows).map Order.id ↔ order.IsMissing venue rows := by
        constructor
        · intro listed
          obtain ⟨other, otherMember, sameId⟩ := List.mem_map.mp listed
          obtain ⟨otherStored, otherMissing⟩ := List.mem_filter.mp otherMember
          rw [← Ledger.eq_of_same_id otherStored member sameId]
          exact of_decide_eq_true otherMissing
        · intro missing
          exact List.mem_map_of_mem (List.mem_filter.mpr ⟨member, decide_eq_true missing⟩)
      rw [Order.settled, closes]
      by_cases missing : order.IsMissing venue rows
      · have moves : (order.isOpen && status.isFinal) = true := by
          rw [missing.1, AbsencePolicy.closingStatus?_final closes]
          rfl
        rw [if_pos (missingIff.mpr missing), Order.closed, if_pos moves]
        exact (if_pos missing).symm
      · rw [if_neg fun listed => missing (missingIff.mp listed)]
        exact (if_neg missing).symm

/-- The closes of a listing count the missing orders. -/
theorem closeMissing_count (policy : AbsencePolicy) (now : Instant) (venue : String)
    (rows : List ListedOrder) (ledger : Ledger) :
    (closeMissing policy now (ledger.orders.filter fun order => order.IsMissing venue rows)
        ledger).2 =
      if policy.closingStatus?.isSome then
        (ledger.orders.filter fun order => order.IsMissing venue rows).length
      else 0 := by
  unfold closeMissing
  cases closes : policy.closingStatus? with
  | none => rfl
  | some status =>
      rw [Option.isSome_some, if_pos rfl]
      refine closeAll_count (AbsencePolicy.closingStatus?_final closes) ?_ ?_ ?_
      · exact ledger.distinct_ids.sublist (List.filter_sublist.map Order.id)
      · exact fun order member => (List.mem_filter.mp member).1
      · exact fun order member => (of_decide_eq_true (List.mem_filter.mp member).2).1

/-! ## Taking over -/

/-- The orders of the rows that are taken over. -/
def takenOver (now : Instant) (venue : String) (rows : List ListedOrder) : List Order :=
  rows.filterMap fun row => (importedOrder now venue row).toOption

/-- The rows that are refused. -/
def refusedRows (now : Instant) (venue : String) (rows : List ListedOrder) : List ListedOrder :=
  rows.filter fun row => (importedOrder now venue row).toOption.isNone

theorem mem_takenOver (now : Instant) (venue : String) (rows : List ListedOrder) (order : Order) :
    order ∈ takenOver now venue rows ↔ ∃ row ∈ rows, importedOrder now venue row = .ok order := by
  unfold takenOver
  rw [List.mem_filterMap]
  refine exists_congr fun row => and_congr_right fun _ => ?_
  cases importedOrder now venue row with
  | error _ => simp [Except.toOption]
  | ok taken => simp [Except.toOption]

theorem mem_refusedRows (now : Instant) (venue : String) (rows : List ListedOrder)
    (row : ListedOrder) :
    row ∈ refusedRows now venue rows ↔
      row ∈ rows ∧ ∃ cause, importedOrder now venue row = .error cause := by
  unfold refusedRows
  rw [List.mem_filter]
  refine and_congr_right fun _ => ?_
  cases importedOrder now venue row with
  | error _ => simp [Except.toOption]
  | ok taken => simp [Except.toOption]

/-- An order that is taken over comes from a row that counts, of an id that the ledger does not
carry. -/
theorem row_of_taken {now : Instant} {venue : String} {rows : List ListedOrder} {ledger : Ledger}
    {order : Order} (member : order ∈ takenOver now venue (ledger.unknownRows venue rows)) :
    ∃ row ∈ lastRows rows, ∃ id, importedOrder now venue row = .ok order ∧
      order.ImportedFrom venue row id ∧ ¬ledger.Carries venue id := by
  obtain ⟨row, rowMember, taken⟩ := (mem_takenOver now venue _ order).mp member
  obtain ⟨counts, unknown⟩ := (ledger.mem_unknownRows venue rows row).mp rowMember
  obtain ⟨⟨id, isFrom⟩, -⟩ := importedOrder_ok taken
  exact ⟨row, counts, id, taken, isFrom, (unknown id isFrom.row_id).1⟩

/-- Each row is taken over or refused, at any time alike. -/
theorem refusedRows_at (now later : Instant) (venue : String) (rows : List ListedOrder) :
    refusedRows later venue rows = refusedRows now venue rows := by
  unfold refusedRows
  refine List.filter_congr fun row _ => ?_
  rw [importedOrder_at now later]
  cases importedOrder now venue row <;> rfl

/-- Rows of distinct ids are taken over under distinct ids. -/
theorem takenOver_ids_nodup (now : Instant) (venue : String) {rows : List ListedOrder}
    (distinct : (rows.map ListedOrder.orderId).Nodup) :
    ((takenOver now venue rows).map Order.id).Nodup := by
  induction rows with
  | nil => exact List.nodup_nil
  | cons row rest inductionHypothesis =>
      rw [List.map_cons, List.nodup_cons] at distinct
      cases imported : importedOrder now venue row with
      | error cause =>
          have skipped : takenOver now venue (row :: rest) = takenOver now venue rest := by
            simp [takenOver, imported, Except.toOption]
          rw [skipped]
          exact inductionHypothesis distinct.2
      | ok order =>
          have added : takenOver now venue (row :: rest) = order :: takenOver now venue rest := by
            simp [takenOver, imported, Except.toOption]
          rw [added, List.map_cons, List.nodup_cons]
          refine ⟨fun member => ?_, inductionHypothesis distinct.2⟩
          obtain ⟨other, otherMember, sameId⟩ := List.mem_map.mp member
          obtain ⟨otherRow, otherRowMember, otherImported⟩ :=
            (mem_takenOver now venue rest other).mp otherMember
          obtain ⟨⟨id, isFrom⟩, -⟩ := importedOrder_ok imported
          obtain ⟨⟨otherId, otherFrom⟩, -⟩ := importedOrder_ok otherImported
          rw [isFrom.order_id, otherFrom.order_id, OrderId.imported_inj] at sameId
          refine distinct.1 (List.mem_map.mpr ⟨otherRow, otherRowMember, ?_⟩)
          rw [isFrom.row_id, otherFrom.row_id, sameId]

/-- One round of the loop that takes rows over. -/
def takeRow (now : Instant) (venue : String) (counted : Ledger × Nat × Nat) (row : ListedOrder) :
    Ledger × Nat × Nat :=
  match importedOrder now venue row with
  | .error _ => (counted.1, counted.2 + (0, 1))
  | .ok order =>
      ((counted.1.write now order).1,
        counted.2 + (if (counted.1.write now order).2 = .inserted then 1 else 0, 0))

theorem importAll_eq_foldl (now : Instant) (venue : String) (rows : List ListedOrder)
    (ledger : Ledger) : importAll now venue rows ledger = rows.foldl (takeRow now venue) (ledger, 0) := by
  unfold importAll
  congr 1
  funext counted row
  unfold takeRow
  cases importedOrder now venue row with
  | error _ => rfl
  | ok order =>
      by_cases inserted : (counted.1.write now order).2 = .inserted
      · simp [inserted, Prod.ext_iff]
      · simp [inserted, Prod.ext_iff]

/-- A loop that takes rows over writes their orders, and counts the new ones and the refused
rows. -/
theorem importAll_cons (now : Instant) (venue : String) (row : ListedOrder)
    (rest : List ListedOrder) (ledger : Ledger) :
    importAll now venue (row :: rest) ledger =
      ((importAll now venue rest (takeRow now venue (ledger, 0) row).1).1,
        (takeRow now venue (ledger, 0) row).2 +
          (importAll now venue rest (takeRow now venue (ledger, 0) row).1).2) := by
  have onlyAdds : ∀ (kept : Ledger) (counts : Nat × Nat) (item : ListedOrder),
      takeRow now venue (kept, counts) item =
        ((takeRow now venue (kept, 0) item).1, counts + (takeRow now venue (kept, 0) item).2) := by
    intro kept counts item
    unfold takeRow
    cases importedOrder now venue item with
    | error _ => simp
    | ok order => simp
  rw [importAll_eq_foldl, importAll_eq_foldl, List.foldl_cons]
  exact foldl_counted _ onlyAdds rest (takeRow now venue (ledger, 0) row).1
    (takeRow now venue (ledger, 0) row).2

/-- Writes orders one after the other, and counts those that were new. -/
def Ledger.writeAll (ledger : Ledger) (now : Instant) : List Order → Ledger × Nat
  | [] => (ledger, 0)
  | order :: rest =>
      let (next, outcome) := ledger.write now order
      let (last, inserted) := next.writeAll now rest
      (last, (if outcome = .inserted then 1 else 0) + inserted)

/-- To take rows over is to write their orders. -/
theorem importAll_eq (now : Instant) (venue : String) (rows : List ListedOrder) (ledger : Ledger) :
    importAll now venue rows ledger =
      ((ledger.writeAll now (takenOver now venue rows)).1,
        (ledger.writeAll now (takenOver now venue rows)).2, (refusedRows now venue rows).length) := by
  induction rows generalizing ledger with
  | nil => rfl
  | cons row rest inductionHypothesis =>
      rw [importAll_cons, inductionHypothesis]
      cases imported : importedOrder now venue row with
      | error cause =>
          simp [takeRow, takenOver, refusedRows, imported, Except.toOption, Nat.add_comm]
      | ok order =>
          simp [takeRow, takenOver, refusedRows, imported, Except.toOption, Ledger.writeAll]

namespace Ledger

/-- Among orders of distinct ids each is written over what its id held at first. -/
theorem get?_writeAll {now : Instant} {orders : List Order}
    (distinct : (orders.map Order.id).Nodup) (ledger : Ledger) (id : OrderId) :
    (ledger.writeAll now orders).1.get? id =
      ((orders.find? fun order => order.id = id).map fun order =>
        order.writtenOver now (ledger.get? id)).or (ledger.get? id) := by
  induction orders generalizing ledger with
  | nil => rfl
  | cons first rest inductionHypothesis =>
      rw [List.map_cons, List.nodup_cons] at distinct
      rw [writeAll]
      dsimp only
      rw [inductionHypothesis distinct.2, get?_write]
      by_cases here : id = first.id
      · have notLater : (rest.find? fun order => order.id = id) = none := by
          rw [List.find?_eq_none]
          intro later member sameId
          have laterId : later.id = first.id := (of_decide_eq_true sameId).trans here
          exact distinct.1 (laterId ▸ List.mem_map_of_mem member)
        rw [notLater, if_pos here, List.find?_cons_of_pos (by simp [here]), here]
        rfl
      · rw [if_neg here, List.find?_cons_of_neg (by simp [Ne.symm here])]

/-- Orders of distinct new ids come after the ones that were there. -/
theorem writeAll_of_new {now : Instant} {orders : List Order}
    (distinct : (orders.map Order.id).Nodup) {ledger : Ledger}
    (areNew : ∀ order ∈ orders, ledger.get? order.id = none) :
    (ledger.writeAll now orders).1.orders =
        ledger.orders ++ orders.map (fun order => { order with updatedAt := now }) ∧
      (ledger.writeAll now orders).2 = orders.length := by
  induction orders generalizing ledger with
  | nil => simp [writeAll]
  | cons first rest inductionHypothesis =>
      rw [List.map_cons, List.nodup_cons] at distinct
      have firstNew := write_of_absent now (areNew first List.mem_cons_self)
      have restNew : ∀ order ∈ rest, (ledger.write now first).1.get? order.id = none := by
        intro order member
        have different : order.id ≠ first.id := by
          intro same
          exact distinct.1 (same ▸ List.mem_map_of_mem member)
        rw [get?_write, if_neg different]
        exact areNew order (List.mem_cons_of_mem first member)
      obtain ⟨restOrders, restCount⟩ := inductionHypothesis distinct.2 restNew
      rw [writeAll]
      dsimp only
      constructor
      · rw [restOrders, firstNew.1, List.append_assoc]
        rfl
      · rw [restCount, firstNew.2, if_pos rfl, List.length_cons, Nat.add_comm]

end Ledger

end OrderKeeper
