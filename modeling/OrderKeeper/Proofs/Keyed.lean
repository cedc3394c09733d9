import Mathlib.Data.List.Nodup

/-!
Contract: lists whose members have distinct keys.

Owns: the search by key in such a list, and the effect on it of a change that keeps keys.
-/

set_option autoImplicit false

namespace OrderKeeper.Keyed

variable {α κ : Type} [DecidableEq κ]

/-- Among distinct keys the search for a key finds exactly the member that has it. -/
theorem find?_eq_some_iff {key : α → κ} {members : List α} (distinct : (members.map key).Nodup)
    (wanted : κ) (found : α) :
    (members.find? fun member => key member = wanted) = some found ↔
      found ∈ members ∧ key found = wanted := by
  constructor
  · intro search
    exact ⟨List.mem_of_find?_eq_some search, by simpa using List.find?_some search⟩
  · rintro ⟨member, rfl⟩
    cases search : members.find? (fun other => key other = key found) with
    | none =>
        have absent := List.find?_eq_none.mp search found member
        simp at absent
    | some other =>
        have otherMember := List.mem_of_find?_eq_some search
        have sameKey : key other = key found := by simpa using List.find?_some search
        rw [List.inj_on_of_nodup_map distinct otherMember member sameKey]

/-- Among distinct keys the search for a key does not depend on the order of the members. -/
theorem find?_perm {key : α → κ} {members others : List α}
    (distinct : (members.map key).Nodup) (same : others.Perm members) (wanted : κ) :
    (others.find? fun member => key member = wanted) =
      members.find? fun member => key member = wanted := by
  have othersDistinct : (others.map key).Nodup := (same.map key).nodup_iff.mpr distinct
  refine Option.ext fun found => ?_
  rw [find?_eq_some_iff othersDistinct, find?_eq_some_iff distinct, same.mem_iff]

/-- A change of members that keeps their keys commutes with the search by key. -/
theorem find?_map_of_sameKey {β : Type} {key : α → κ} {changedKey : β → κ} {change : α → β}
    (keepsKey : ∀ member, changedKey (change member) = key member) (members : List α)
    (wanted : κ) :
    ((members.map change).find? fun member => changedKey member = wanted) =
      (members.find? fun member => key member = wanted).map change := by
  rw [List.find?_map]
  congr 1
  refine congrArg (fun test => members.find? test) ?_
  funext member
  simp [keepsKey member]

theorem find?_map (key : α → κ) {change : α → α}
    (keepsKey : ∀ member, key (change member) = key member)
    (members : List α) (wanted : κ) :
    ((members.map change).find? fun member => key member = wanted) =
      (members.find? fun member => key member = wanted).map change :=
  find?_map_of_sameKey keepsKey members wanted

end OrderKeeper.Keyed
