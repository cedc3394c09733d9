import OrderKeeper.Order.Basic

/-!
Contract: the ledger of all orders.

Owns: the orders by id, the writes that every other part goes through, and the
rule that a final status stays.  Orders are never removed.
-/

set_option autoImplicit false

namespace OrderKeeper

inductive WriteOutcome where
  | inserted
  | replaced
  /-- The kept order is final and the new one would change its status. -/
  | rejectedTerminal
deriving DecidableEq, Repr

def WriteOutcome.name : WriteOutcome → String
  | .inserted => "Inserted"
  | .replaced => "Replaced"
  | .rejectedTerminal => "RejectedTerminal"

/-- Orders with distinct ids, the earliest arrival first. -/
structure Ledger where
  orders : List Order
  distinct_ids : (orders.map Order.id).Nodup

namespace Ledger

def empty : Ledger := ⟨[], List.nodup_nil⟩

instance : Inhabited Ledger := ⟨empty⟩

def get? (ledger : Ledger) (id : OrderId) : Option Order :=
  ledger.orders.find? fun order => order.id = id

/-- Changes the order of an id by a function that keeps ids. -/
def modify (ledger : Ledger) (id : OrderId) (change : Order → Order)
    (keeps_id : ∀ order, order.id = id → (change order).id = id) : Ledger where
  orders := ledger.orders.map fun order => if order.id = id then change order else order
  distinct_ids := by
    have same_ids : (ledger.orders.map fun order =>
        if order.id = id then change order else order).map Order.id
          = ledger.orders.map Order.id := by
      rw [List.map_map]
      refine List.map_congr_left fun order _ => ?_
      show (if order.id = id then change order else order).id = order.id
      by_cases here : order.id = id
      · rw [if_pos here, keeps_id order here, here]
      · rw [if_neg here]
    rw [same_ids]
    exact ledger.distinct_ids

/-- Adds an order with an id that is not in the ledger. -/
def insert (ledger : Ledger) (order : Order)
    (is_new : ledger.get? order.id = none) : Ledger where
  orders := ledger.orders ++ [order]
  distinct_ids := by
    rw [List.map_append, List.nodup_append]
    refine ⟨ledger.distinct_ids, by simp, ?_⟩
    intro old old_mem added added_mem same
    simp only [List.map_cons, List.map_nil, List.mem_singleton] at added_mem
    obtain ⟨stored, stored_mem, rfl⟩ := List.mem_map.mp old_mem
    have absent := List.find?_eq_none.mp is_new stored stored_mem
    simp [same, added_mem] at absent

/-- Inserts an order or replaces the one of its id in full.  A final order only accepts a
replacement of its own status. -/
def write (ledger : Ledger) (now : Instant) (order : Order) : Ledger × WriteOutcome :=
  let stamped := { order with updatedAt := now }
  match stored : ledger.get? order.id with
  | none => (ledger.insert stamped stored, .inserted)
  | some current =>
      if current.status.isFinal && current.status != order.status then
        (ledger, .rejectedTerminal)
      else (ledger.modify order.id (fun _ => stamped) fun _ _ => rfl, .replaced)

/-- Moves an open order to a final status; any other call changes nothing. -/
def close (ledger : Ledger) (now : Instant) (id : OrderId) (status : Status) :
    Ledger × Bool :=
  if status.isOpen then (ledger, false)
  else
    match ledger.get? id with
    | none => (ledger, false)
    | some order =>
        if order.isOpen then
          (ledger.modify id (fun order => { order with status, updatedAt := now })
            fun _ same => same, true)
        else (ledger, false)

/-- Tags an order with the group of a one-cancels-other pair. -/
def joinGroup (ledger : Ledger) (now : Instant) (id : OrderId) (group : String) :
    Ledger × Bool :=
  match ledger.get? id with
  | none => (ledger, false)
  | some _ =>
      (ledger.modify id (fun order => { order with pairGroup := some group, updatedAt := now })
        fun _ same => same, true)

def stillOpen (ledger : Ledger) : List Order :=
  ledger.orders.filter Order.isOpen

def size (ledger : Ledger) : Nat :=
  ledger.orders.length

def countOpen (ledger : Ledger) : Nat :=
  ledger.stillOpen.length

/-- The group ids that orders carry, ascending and each once. -/
def groupIds (ledger : Ledger) : List String :=
  ((ledger.orders.filterMap Order.pairGroup).mergeSort (fun a b => decide (a ≤ b))).eraseDups

def groupMembers (ledger : Ledger) (group : String) : List Order :=
  ledger.orders.filter fun order => order.pairGroup = some group

end Ledger

end OrderKeeper
