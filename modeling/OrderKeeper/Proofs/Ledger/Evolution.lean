import Mathlib.Logic.Relation
import OrderKeeper.Proofs.Ledger.Contents

/-!
Contract: how a ledger may come to be another one.

Owns: the three calls that change a ledger, evolution by calls of an allowed kind, and
what every evolution keeps: each id stays in use, and a final status stays.

Does not own: which part of the core makes which calls.
-/

set_option autoImplicit false

namespace OrderKeeper

/-- A call that changes a ledger. -/
inductive LedgerCall where
  | write (now : Instant) (order : Order)
  | close (now : Instant) (id : OrderId) (status : Status)
  | joinGroup (now : Instant) (id : OrderId) (group : String)

namespace LedgerCall

def Any (_ : LedgerCall) : Prop := True

def IsWrite : LedgerCall → Prop
  | .write _ _ => True
  | _ => False

def IsClose : LedgerCall → Prop
  | .close _ _ _ => True
  | _ => False

end LedgerCall

namespace Ledger

def perform (ledger : Ledger) : LedgerCall → Ledger
  | .write now order => (ledger.write now order).1
  | .close now id status => (ledger.close now id status).1
  | .joinGroup now id group => (ledger.joinGroup now id group).1

/-- One ledger comes from another by any number of allowed calls. -/
def Evolves (allowed : LedgerCall → Prop) : Ledger → Ledger → Prop :=
  Relation.ReflTransGen fun before after => ∃ call, allowed call ∧ before.perform call = after

namespace Evolves

variable {allowed : LedgerCall → Prop} {before middle after : Ledger}

theorem refl (ledger : Ledger) : Evolves allowed ledger ledger :=
  Relation.ReflTransGen.refl

theorem trans (first : Evolves allowed before middle) (second : Evolves allowed middle after) :
    Evolves allowed before after :=
  Relation.ReflTransGen.trans first second

/-- An evolution by some kind of calls is one by any calls. -/
theorem any (evolves : Evolves allowed before after) : Evolves LedgerCall.Any before after := by
  induction evolves with
  | refl => exact Relation.ReflTransGen.refl
  | tail _ lastCall inductionHypothesis =>
      obtain ⟨call, _, rfl⟩ := lastCall
      exact inductionHypothesis.tail ⟨call, trivial, rfl⟩

theorem single (ledger : Ledger) (call : LedgerCall) (isAllowed : allowed call) :
    Evolves allowed ledger (ledger.perform call) :=
  Relation.ReflTransGen.single ⟨call, isAllowed, rfl⟩

/-- A loop evolves the ledger that it carries if each of its rounds does. -/
theorem foldl {σ α : Type} (ledgerOf : σ → Ledger) (round : σ → α → σ)
    (each : ∀ state item, Evolves allowed (ledgerOf state) (ledgerOf (round state item)))
    (items : List α) (state : σ) :
    Evolves allowed (ledgerOf state) (ledgerOf (items.foldl round state)) := by
  induction items generalizing state with
  | nil => exact refl (ledgerOf state)
  | cons item rest inductionHypothesis =>
      rw [List.foldl_cons]
      exact (each state item).trans (inductionHypothesis (round state item))

/-- What every allowed call keeps, an evolution keeps. -/
theorem keeps (invariant : Ledger → Prop)
    (eachCall : ∀ ledger call, allowed call → invariant ledger → invariant (ledger.perform call))
    (evolves : Evolves allowed before after) (holds : invariant before) : invariant after := by
  induction evolves with
  | refl => exact holds
  | tail _ lastCall inductionHypothesis =>
      obtain ⟨call, isAllowed, rfl⟩ := lastCall
      exact eachCall _ call isAllowed inductionHypothesis

end Evolves

/-! ## Permanence -/

/-- Every order of a ledger is still kept in another one, and if its status was final, with
that status. -/
def KeepsOrders (before after : Ledger) : Prop :=
  ∀ id order, before.get? id = some order →
    ∃ kept, after.get? id = some kept ∧ (order.status.isFinal = true → kept.status = order.status)

theorem KeepsOrders.refl (ledger : Ledger) : KeepsOrders ledger ledger :=
  fun _ order stored => ⟨order, stored, fun _ => rfl⟩

theorem KeepsOrders.trans {before middle after : Ledger} (first : KeepsOrders before middle)
    (second : KeepsOrders middle after) : KeepsOrders before after := by
  intro id order stored
  obtain ⟨between, betweenStored, betweenStatus⟩ := first id order stored
  obtain ⟨kept, keptStored, keptStatus⟩ := second id between betweenStored
  refine ⟨kept, keptStored, fun final => ?_⟩
  have sameStatus := betweenStatus final
  rw [keptStatus (by rw [sameStatus]; exact final), sameStatus]

/-- The write over a final order has its status. -/
theorem writtenOver_status_of_final (now : Instant) (order : Order) {current : Order}
    (final : current.status.isFinal = true) :
    (order.writtenOver now (some current)).status = current.status := by
  unfold Order.writtenOver
  dsimp only
  by_cases guarded : (current.status.isFinal && current.status != order.status) = true
  · rw [if_pos guarded]
  · rw [if_neg guarded]
    have same : current.status = order.status := by simpa [final] using guarded
    exact same.symm

theorem keepsOrders_perform (ledger : Ledger) (call : LedgerCall) :
    KeepsOrders ledger (ledger.perform call) := by
  intro id order stored
  cases call with
  | write now written =>
      show ∃ kept, (ledger.write now written).1.get? id = some kept ∧ _
      rw [get?_write]
      by_cases here : id = written.id
      · rw [if_pos here, ← here, stored]
        exact ⟨_, rfl, fun final => writtenOver_status_of_final now written final⟩
      · rw [if_neg here]
        exact ⟨order, stored, fun _ => rfl⟩
  | close now closing status =>
      show ∃ kept, (ledger.close now closing status).1.get? id = some kept ∧ _
      rw [get?_close]
      by_cases here : id = closing
      · rw [if_pos here, ← here, stored]
        exact ⟨_, rfl, fun final => by rw [Order.closed_of_final final]⟩
      · rw [if_neg here]
        exact ⟨order, stored, fun _ => rfl⟩
  | joinGroup now joining group =>
      show ∃ kept, (ledger.joinGroup now joining group).1.get? id = some kept ∧ _
      rw [get?_joinGroup]
      by_cases here : id = joining
      · rw [if_pos here, ← here, stored]
        exact ⟨_, rfl, fun _ => rfl⟩
      · rw [if_neg here]
        exact ⟨order, stored, fun _ => rfl⟩

/-- No evolution loses an order or moves one out of a final status. -/
theorem Evolves.keepsOrders {allowed : LedgerCall → Prop} {before after : Ledger}
    (evolves : Evolves allowed before after) : KeepsOrders before after :=
  evolves.keeps (KeepsOrders before)
    (fun ledger call _ kept => kept.trans (keepsOrders_perform ledger call))
    (KeepsOrders.refl before)

end Ledger

end OrderKeeper
