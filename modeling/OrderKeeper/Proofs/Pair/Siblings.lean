import Mathlib.Data.List.Permutation
import OrderKeeper.Pair.Watch
import OrderKeeper.Proofs.Ledger.Contents

/-!
Contract: the pairs of a ledger that have one filled leg and one open one.

Owns: the ascending order of group ids, the open siblings of filled legs, and their
agreement with the broken pairs that a pass meets.

Does not own: what a pass does about a broken pair.
-/

set_option autoImplicit false

namespace OrderKeeper

/-! ## Groups -/

/-- What is left of ascending keys once repetitions are dropped ascends strictly. -/
theorem eraseDups_ascending :
    ∀ {keys : List String}, keys.Pairwise (· ≤ ·) → keys.eraseDups.Pairwise (· < ·)
  | [], _ => by simp
  | first :: rest, ascending => by
      have firstLeast := (List.pairwise_cons.mp ascending).1
      have restAscending := (List.pairwise_cons.mp ascending).2
      rw [List.eraseDups_cons, List.pairwise_cons]
      refine ⟨fun key member => ?_, eraseDups_ascending (restAscending.filter _)⟩
      rw [List.mem_eraseDups, List.mem_filter] at member
      have different : first ≠ key := by
        intro same
        simp [same] at member
      exact Std.lt_of_le_of_ne (firstLeast key member.1) different
-- The tail is filtered before it is passed on, so it is shorter but no part of the list.
termination_by keys => keys.length
decreasing_by
  have filtered := List.length_filter_le (fun key => !key == first) rest
  simp only [List.length_cons]
  omega

namespace Ledger

theorem groupIds_ascending (ledger : Ledger) : ledger.groupIds.Pairwise (· < ·) := by
  apply eraseDups_ascending
  have sorted := @List.pairwise_mergeSort _ (fun a b : String => decide (a ≤ b))
    (fun a b c first second => by
      simp only [decide_eq_true_eq] at *
      exact String.le_trans first second)
    (fun a b => by simpa using String.le_total a b)
    (ledger.orders.filterMap Order.pairGroup)
  exact sorted.imp fun below => of_decide_eq_true below

theorem mem_groupIds (ledger : Ledger) (group : String) :
    group ∈ ledger.groupIds ↔ ∃ order ∈ ledger.orders, order.pairGroup = some group := by
  unfold groupIds
  rw [List.mem_eraseDups, (List.mergeSort_perm _ _).mem_iff, List.mem_filterMap]

/-- One group is all there is if every order of a group is in it. -/
theorem groupIds_of_one {ledger : Ledger} {group : String}
    (isUsed : ∃ order ∈ ledger.orders, order.pairGroup = some group)
    (isOnly : ∀ order ∈ ledger.orders, ∀ other ∈ order.pairGroup, other = group) :
    ledger.groupIds = [group] := by
  have same : ∀ other ∈ ledger.groupIds, other = group := by
    intro other member
    obtain ⟨order, stored, inGroup⟩ := (ledger.mem_groupIds other).mp member
    exact isOnly order stored other inGroup
  have member := (ledger.mem_groupIds group).mpr isUsed
  have ascending := ledger.groupIds_ascending
  cases ids : ledger.groupIds with
  | nil =>
      rw [ids] at member
      cases member
  | cons first rest =>
      rw [ids] at same ascending
      have firstSame := same first List.mem_cons_self
      cases rest with
      | nil => rw [firstSame]
      | cons second _ =>
          have secondSame := same second (List.mem_cons_of_mem first List.mem_cons_self)
          have below := (List.pairwise_cons.mp ascending).1 second List.mem_cons_self
          rw [firstSame, secondSame] at below
          exact absurd below (String.lt_irrefl group)

theorem mem_groupMembers (ledger : Ledger) (group : String) (order : Order) :
    order ∈ ledger.groupMembers group ↔
      order ∈ ledger.orders ∧ order.pairGroup = some group := by
  simp [groupMembers]

/-- An open order in a group of two whose other member is filled. -/
def IsSibling (ledger : Ledger) (order : Order) : Prop :=
  order.isOpen = true ∧
    ∃ group ∈ order.pairGroup, (ledger.groupMembers group).length = 2 ∧
      ∃ other ∈ ledger.groupMembers group, other.status = .filled

instance (ledger : Ledger) (order : Order) : Decidable (ledger.IsSibling order) :=
  inferInstanceAs (Decidable (_ ∧ ∃ group ∈ order.pairGroup, _))

end Ledger

theorem Order.not_open_of_filled {order : Order} (filled : order.status = .filled) :
    order.isOpen = false := by
  simp [Order.isOpen, filled, Status.isOpen]

/-! ## Broken pairs -/

def GroupState.pair? : GroupState → Option BrokenPair
  | .broken pair => some pair
  | _ => none

/-- A group calls for a cancel if it is a pair of a filled leg and an open one. -/
theorem groupState_eq_broken_iff (members : List Order) (pair : BrokenPair) :
    groupState members = .broken pair ↔
      (members = [pair.filled, pair.sibling] ∨ members = [pair.sibling, pair.filled]) ∧
        pair.filled.status = .filled ∧ pair.sibling.isOpen = true := by
  obtain ⟨filled, sibling⟩ := pair
  constructor
  · intro state
    unfold groupState at state
    grind
  · rintro ⟨rfl | rfl, isFilled, isOpen⟩
    · dsimp only at isFilled isOpen
      simp [groupState, isFilled, isOpen]
    · dsimp only at isFilled isOpen
      have notFilled : sibling.status ≠ .filled := by
        intro same
        rw [Order.not_open_of_filled same] at isOpen
        cases isOpen
      simp [groupState, isFilled, isOpen, notFilled]

namespace Ledger

/-- The broken pairs of a ledger, in the order in which a pass meets them. -/
def brokenPairs (ledger : Ledger) : List BrokenPair :=
  (ledger.groupIds.map ledger.groupMembers).filterMap fun members => (groupState members).pair?

/-- Both legs of a broken pair are the whole of one group. -/
structure Breaks (ledger : Ledger) (group : String) (pair : BrokenPair) : Prop where
  legs : (ledger.groupMembers group).Perm [pair.filled, pair.sibling]
  isFilled : pair.filled.status = .filled
  isOpen : pair.sibling.isOpen = true

variable {ledger : Ledger} {group : String} {pair : BrokenPair}

theorem breaks_iff (ledger : Ledger) (group : String) (pair : BrokenPair) :
    (groupState (ledger.groupMembers group)).pair? = some pair ↔ ledger.Breaks group pair := by
  have isBroken : (groupState (ledger.groupMembers group)).pair? = some pair ↔
      groupState (ledger.groupMembers group) = .broken pair := by
    cases groupState (ledger.groupMembers group) <;> simp [GroupState.pair?]
  rw [isBroken, groupState_eq_broken_iff, ← List.perm_pair]
  exact ⟨fun ⟨legs, isFilled, isOpen⟩ => ⟨legs, isFilled, isOpen⟩,
    fun ⟨legs, isFilled, isOpen⟩ => ⟨legs, isFilled, isOpen⟩⟩

theorem Breaks.members (breaks : ledger.Breaks group pair) :
    pair.filled ∈ ledger.groupMembers group ∧ pair.sibling ∈ ledger.groupMembers group := by
  rw [breaks.legs.mem_iff, breaks.legs.mem_iff]
  simp

theorem mem_brokenPairs (ledger : Ledger) (pair : BrokenPair) :
    pair ∈ ledger.brokenPairs ↔ ∃ group ∈ ledger.groupIds, ledger.Breaks group pair := by
  simp [brokenPairs, breaks_iff]

/-- The sibling of a broken pair is an open order whose other leg is filled, and conversely. -/
theorem mem_siblings_iff (ledger : Ledger) (order : Order) :
    order ∈ ledger.brokenPairs.map BrokenPair.sibling ↔
      order ∈ ledger.orders.filter fun order => ledger.IsSibling order := by
  rw [List.mem_map, List.mem_filter, decide_eq_true_iff]
  constructor
  · rintro ⟨pair, member, rfl⟩
    obtain ⟨group, -, breaks⟩ := (ledger.mem_brokenPairs pair).mp member
    obtain ⟨filledMember, siblingMember⟩ := breaks.members
    obtain ⟨stored, inGroup⟩ := (ledger.mem_groupMembers group pair.sibling).mp siblingMember
    exact ⟨stored, breaks.isOpen, group, inGroup, breaks.legs.length_eq, pair.filled, filledMember,
      breaks.isFilled⟩
  · rintro ⟨stored, isOpen, group, inGroup, isPair, other, otherMember, isFilled⟩
    have member := (ledger.mem_groupMembers group order).mpr ⟨stored, inGroup⟩
    have different : other ≠ order := by
      intro same
      rw [← same, Order.not_open_of_filled isFilled] at isOpen
      cases isOpen
    have legs : (ledger.groupMembers group).Perm [other, order] := by
      obtain ⟨first, second, both⟩ := List.length_eq_two.mp isPair
      rw [both] at member otherMember ⊢
      grind [List.Perm.swap]
    refine ⟨⟨other, order⟩, ?_, rfl⟩
    exact (ledger.mem_brokenPairs ⟨other, order⟩).mpr
      ⟨group, (ledger.mem_groupIds group).mpr ⟨order, stored, inGroup⟩, legs, isFilled, isOpen⟩

/-- A leg of a pair is a sibling if it is open and the other leg is filled. -/
theorem isSibling_iff_of_legs {leg other : Order}
    (legs : (ledger.groupMembers group).Perm [leg, other]) :
    ledger.IsSibling leg ↔ leg.isOpen = true ∧ other.status = .filled := by
  have inGroup : leg.pairGroup = some group :=
    ((ledger.mem_groupMembers group leg).mp (legs.mem_iff.mpr List.mem_cons_self)).2
  unfold IsSibling
  refine and_congr_right fun isOpen => ?_
  constructor
  · rintro ⟨own, isOwn, -, filled, member, isFilled⟩
    rw [inGroup, Option.mem_some_iff] at isOwn
    rw [← isOwn, legs.mem_iff] at member
    rcases List.mem_pair.mp member with rfl | rfl
    · rw [Order.not_open_of_filled isFilled] at isOpen
      cases isOpen
    · exact isFilled
  · intro isFilled
    exact ⟨group, inGroup, legs.length_eq, other,
      legs.mem_iff.mpr (List.mem_cons_of_mem leg List.mem_cons_self), isFilled⟩

/-- A pass meets the siblings in the order of their group ids. -/
theorem brokenPairs_ascending (ledger : Ledger) :
    ledger.brokenPairs.Pairwise fun first second =>
      ∀ group ∈ first.sibling.pairGroup, ∀ other ∈ second.sibling.pairGroup, group < other := by
  unfold brokenPairs
  rw [List.pairwise_filterMap, List.pairwise_map]
  refine ledger.groupIds_ascending.imp ?_
  intro firstGroup secondGroup below first isFirst second isSecond group inGroup other inOther
  have firstSibling := ((ledger.breaks_iff firstGroup first).mp isFirst).members.2
  have secondSibling := ((ledger.breaks_iff secondGroup second).mp isSecond).members.2
  have firstIn := ((ledger.mem_groupMembers firstGroup first.sibling).mp firstSibling).2
  have secondIn := ((ledger.mem_groupMembers secondGroup second.sibling).mp secondSibling).2
  rw [firstIn] at inGroup
  rw [secondIn] at inOther
  cases inGroup
  cases inOther
  exact below

theorem siblings_nodup (ledger : Ledger) :
    (ledger.brokenPairs.map BrokenPair.sibling).Nodup := by
  rw [List.Nodup, List.pairwise_map]
  refine List.Pairwise.imp_of_mem ?_ ledger.brokenPairs_ascending
  intro first second firstMember secondMember below same
  obtain ⟨group, -, breaks⟩ := (ledger.mem_brokenPairs first).mp firstMember
  have inGroup := ((ledger.mem_groupMembers group first.sibling).mp breaks.members.2).2
  exact String.lt_irrefl group (below group inGroup group (same ▸ inGroup))

/-- A pass meets each open order whose other leg is filled once. -/
theorem siblings_perm (ledger : Ledger) :
    (ledger.brokenPairs.map BrokenPair.sibling).Perm
      (ledger.orders.filter fun order => ledger.IsSibling order) := by
  have ordersNodup : ledger.orders.Nodup := List.Nodup.of_map Order.id ledger.distinct_ids
  rw [List.perm_ext_iff_of_nodup ledger.siblings_nodup (ordersNodup.filter _)]
  exact ledger.mem_siblings_iff

end Ledger

end OrderKeeper
