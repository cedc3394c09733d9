import OrderKeeper.Signal.Queue

/-!
Contract: which signal leaves a queue next.

Owns: the agreement of ranks with the order by value, and the signal that is taken out: it is
ranked no lower than any other and stands before all others of its rank.

Does not own: runs of several puts and removals.
-/

set_option autoImplicit false

namespace OrderKeeper

/-! ## Ranks -/

namespace Binary64

/-- What is below by value is ranked lower. -/
theorem rank_lt_of_below {x y : Binary64} (below : x.below y = true) : x.rank < y.rank := by
  unfold Binary64.below at below
  unfold rank
  split at below
  · cases below
  · have less := of_decide_eq_true below
    dsimp only at less
    cases xNegative : x.isNegative <;> cases yNegative : y.isNegative <;>
      simp only [xNegative, yNegative, if_true, Bool.false_eq_true, if_false] at less ⊢ <;> omega

end Binary64

namespace SignalQueue

/-- A signal that is ranked no lower than another is not below it by value. -/
theorem not_below_of_rank {first second : Signal} (ranked : rank second ≤ rank first) :
    first.priority.below second.priority = false := by
  rw [← Bool.not_eq_true]
  intro below
  have lower := Binary64.rank_lt_of_below below
  unfold rank at ranked
  omega

/-! ## The next signal -/

/-- The place of the signal that leaves next. -/
def nextIndex? (queue : SignalQueue) : Option Nat :=
  queue.waiting.findIdx? (isForemost queue.waiting)

theorem isForemost_iff (signals : List Signal) (signal : Signal) :
    isForemost signals signal = true ↔ ∀ other ∈ signals, rank other ≤ rank signal := by
  simp [isForemost]

theorem exists_foremost :
    ∀ {signals : List Signal}, signals ≠ [] → ∃ signal ∈ signals, isForemost signals signal = true
  | [], isEmpty => absurd rfl isEmpty
  | [signal], _ => ⟨signal, List.mem_singleton_self signal, by simp [isForemost]⟩
  | first :: second :: rest, _ => by
      obtain ⟨best, member, isBest⟩ := exists_foremost (List.cons_ne_nil second rest)
      rw [isForemost_iff] at isBest
      by_cases firstLower : rank first ≤ rank best
      · refine ⟨best, List.mem_cons_of_mem first member, ?_⟩
        rw [isForemost_iff]
        intro other otherMember
        rcases List.mem_cons.mp otherMember with rfl | later
        · exact firstLower
        · exact isBest other later
      · refine ⟨first, List.mem_cons_self, ?_⟩
        rw [isForemost_iff]
        intro other otherMember
        rcases List.mem_cons.mp otherMember with rfl | later
        · exact Int.le_refl _
        · have otherLower := isBest other later
          omega

/-- Nothing leaves an empty queue only. -/
theorem dequeue?_eq_none_iff (queue : SignalQueue) :
    queue.dequeue? = none ↔ queue.waiting = [] := by
  constructor
  · intro nothing
    unfold dequeue? at nothing
    cases found : queue.waiting.findIdx? (isForemost queue.waiting) with
    | none =>
        rw [List.findIdx?_eq_none_iff] at found
        refine Decidable.byContradiction fun notEmpty => ?_
        obtain ⟨signal, member, isBest⟩ := exists_foremost notEmpty
        rw [found signal member] at isBest
        cases isBest
    | some index =>
        obtain ⟨inRange, -⟩ := List.findIdx?_eq_some_iff_getElem.mp found
        simp [found, inRange] at nothing
  · intro isEmpty
    simp [dequeue?, isEmpty]

/-- The signal that leaves stands behind lower ones only, and nothing behind it is higher. -/
theorem dequeue?_split {queue rest : SignalQueue} {signal : Signal}
    (left : queue.dequeue? = some (signal, rest)) :
    ∃ earlier later,
      queue.waiting = earlier ++ signal :: later ∧ rest.waiting = earlier ++ later ∧
      queue.nextIndex? = some earlier.length ∧
      (∀ other ∈ earlier, rank other < rank signal) ∧
      ∀ other ∈ later, rank other ≤ rank signal := by
  unfold dequeue? at left
  cases found : queue.waiting.findIdx? (isForemost queue.waiting) with
  | none => simp [found] at left
  | some index =>
      obtain ⟨inRange, isBest, notBefore⟩ := List.findIdx?_eq_some_iff_getElem.mp found
      simp only [found, List.getElem?_eq_getElem inRange, Option.map_some, Option.some.injEq,
        Prod.mk.injEq] at left
      obtain ⟨rfl, rfl⟩ := left
      rw [isForemost_iff] at isBest
      refine ⟨queue.waiting.take index, queue.waiting.drop (index + 1), ?_, ?_, ?_, ?_, ?_⟩
      · rw [List.getElem_cons_drop, List.take_append_drop]
      · exact List.eraseIdx_eq_take_drop_succ queue.waiting index
      · rw [nextIndex?, found, List.length_take_of_le (Nat.le_of_lt inRange)]
      · intro other member
        obtain ⟨place, before, rfl⟩ := List.mem_iff_getElem.mp member
        rw [List.length_take] at before
        rw [List.getElem_take]
        have placeBefore : place < index := by omega
        refine Int.not_le.mp fun notLower => notBefore place placeBefore ?_
        rw [isForemost_iff]
        intro another anotherMember
        have lower := isBest another anotherMember
        omega
      · exact fun other member => isBest other (List.mem_of_mem_drop member)

end SignalQueue

end OrderKeeper
