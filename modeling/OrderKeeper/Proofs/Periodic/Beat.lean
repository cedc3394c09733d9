import OrderKeeper.Periodic

/-!
Contract: when the passes of a loop begin and end.

Owns: the beat that a plan fixes for each pass, the distance of the passes in it, all that a turn
of the loop can do, and the agreement of every run with the beat.

Does not own: how many passes a run makes.

A loop that is not busy is never late.  So a pass begins at its deadline or, if that is past, at
the end of the pass before, whatever the loop was told meanwhile.
-/

set_option autoImplicit false

namespace OrderKeeper.Periodic

/-! ## Beat -/

/-- When a pass is due and when it begins. -/
structure Beat where
  deadline : Nat
  start : Nat
deriving DecidableEq, Repr

namespace Plan

/-- The beat of each pass.  The first is due at once; a later one begins when it is due and the
one before is over. -/
def beat (plan : Plan) : Nat → Beat
  | 0 => ⟨0, 0⟩
  | index + 1 =>
      let before := plan.beat index
      let deadline := nextDeadline plan.interval before.deadline before.start
      ⟨deadline, max (before.start + plan.work.duration index) deadline⟩

def deadline (plan : Plan) (index : Nat) : Nat :=
  (plan.beat index).deadline

def start (plan : Plan) (index : Nat) : Nat :=
  (plan.beat index).start

def finish (plan : Plan) (index : Nat) : Nat :=
  plan.start index + plan.work.duration index

/-- The record of a pass that keeps the beat. -/
def passAt (plan : Plan) (index : Nat) : PassRun :=
  ⟨index, plan.start index, plan.finish index, plan.work.breaks index⟩

/-- The plan with other passes that break down. -/
def withBreaks (plan : Plan) (breaks : Nat → Bool) : Plan :=
  { plan with work := { plan.work with breaks } }

variable (plan : Plan)

theorem start_succ (index : Nat) :
    plan.start (index + 1) = max (plan.finish index) (plan.deadline (index + 1)) :=
  rfl

theorem deadline_succ (index : Nat) :
    plan.deadline (index + 1) =
      nextDeadline plan.interval (plan.deadline index) (plan.start index) :=
  rfl

theorem deadline_le_start (index : Nat) : plan.deadline index ≤ plan.start index := by
  cases index with
  | zero => exact Nat.le_refl 0
  | succ index => exact Nat.le_max_right _ _

theorem start_le_finish (index : Nat) : plan.start index ≤ plan.finish index :=
  Nat.le_add_right _ _

theorem finish_le_start_succ (index : Nat) : plan.finish index ≤ plan.start (index + 1) :=
  Nat.le_max_left _ _

/-- No pass begins before an earlier one is over. -/
theorem finish_le_start {earlier later : Nat} (before : earlier < later) :
    plan.finish earlier ≤ plan.start later := by
  induction before with
  | refl => exact plan.finish_le_start_succ earlier
  | @step later _ inductionHypothesis =>
      calc plan.finish earlier ≤ plan.start later := inductionHypothesis
        _ ≤ plan.finish later := plan.start_le_finish later
        _ ≤ plan.start (later + 1) := plan.finish_le_start_succ later

/-- The next deadline is an interval away from a late pass, and from the deadline of one that is
late by no more than the tolerance. -/
theorem start_add_interval_le_deadline (index : Nat) :
    plan.start index + plan.interval ≤ plan.deadline (index + 1) + tolerance := by
  rw [deadline_succ]
  unfold nextDeadline
  split <;> omega

/-- However late a pass is, the next one keeps its distance from it. -/
theorem start_add_interval_le {earlier later : Nat} (before : earlier < later) :
    plan.start earlier + plan.interval ≤ plan.start later + tolerance := by
  have next : plan.start earlier + plan.interval ≤ plan.start (earlier + 1) + tolerance := by
    have kept := plan.start_add_interval_le_deadline earlier
    have due := plan.deadline_le_start (earlier + 1)
    omega
  have ordered : plan.start (earlier + 1) ≤ plan.start later := by
    rcases Nat.lt_or_eq_of_le before with later | rfl
    · exact Nat.le_trans (plan.start_le_finish _) (plan.finish_le_start later)
    · exact Nat.le_refl _
  omega

end Plan

/-! ## Runs keep the beat -/

/-- What a loop keeps in every turn: its passes so far keep the beat and are over, and it has not
missed the time at which the next one begins. -/
structure OnBeat (plan : Plan) (state : LoopState) : Prop where
  passes : state.passes = (List.range state.passes.length).map plan.passAt
  deadline : state.deadline = plan.deadline state.passes.length
  inTime : state.now ≤ plan.start state.passes.length
  ended : ∀ pass ∈ state.passes, pass.finish ≤ state.now

namespace OnBeat

variable {plan : Plan} {state : LoopState}

theorem atStart (plan : Plan) : OnBeat plan (Periodic.start plan) where
  passes := rfl
  deadline := rfl
  inTime := Nat.le_refl 0
  ended := by simp [Periodic.start]

/-- A loop that finds a pass due is at the time at which that pass begins. -/
theorem now_eq_start (onBeat : OnBeat plan state) (due : state.deadline ≤ state.now) :
    state.now = plan.start state.passes.length := by
  refine Nat.le_antisymm onBeat.inTime ?_
  have deadline := onBeat.deadline
  have passes := onBeat.passes
  cases count : state.passes.length with
  | zero => exact Nat.zero_le _
  | succ index =>
      rw [count] at deadline passes
      have last : plan.passAt index ∈ state.passes := by
        rw [passes]
        exact List.mem_map.mpr ⟨index, List.mem_range.mpr (Nat.lt_succ_self index), rfl⟩
      rw [plan.start_succ, ← deadline]
      exact Nat.max_le.mpr ⟨onBeat.ended _ last, due⟩

theorem runPass (onBeat : OnBeat plan state) (due : state.deadline ≤ state.now) :
    OnBeat plan (Periodic.runPass plan state) := by
  have begins := onBeat.now_eq_start due
  have count : (Periodic.runPass plan state).passes.length = state.passes.length + 1 := by
    simp [Periodic.runPass]
  have pass : (Periodic.runPass plan state).passes =
      state.passes ++ [plan.passAt state.passes.length] := by
    simp [Periodic.runPass, Plan.passAt, Plan.finish, begins]
  refine ⟨?_, ?_, ?_, ?_⟩
  · rw [count, List.range_succ, List.map_append, ← onBeat.passes]
    exact pass
  · rw [count, plan.deadline_succ, ← onBeat.deadline, ← begins]
    rfl
  · rw [count]
    refine Nat.le_trans (Nat.le_of_eq ?_) (plan.finish_le_start_succ state.passes.length)
    show state.now + _ = _
    rw [begins]
    rfl
  · intro other member
    have later : state.now ≤ (Periodic.runPass plan state).now := Nat.le_add_right _ _
    rw [pass] at member
    rcases List.mem_append.mp member with old | new
    · exact Nat.le_trans (onBeat.ended other old) later
    · rw [List.mem_singleton.mp new]
      show plan.start _ + _ ≤ state.now + _
      exact Nat.le_of_eq (by rw [begins])

theorem readNews (onBeat : OnBeat plan state) : OnBeat plan (Periodic.readNews plan state) := by
  unfold Periodic.readNews
  dsimp only
  split <;> exact ⟨onBeat.passes, onBeat.deadline, onBeat.inTime, onBeat.ended⟩

end OnBeat

theorem StopSignal.lt_of_nextTime? {signal : StopSignal} {now time : Nat}
    (next : signal.nextTime? now = some time) : now < time := by
  have member := List.min?_mem next
  simpa using (List.mem_filter.mp member).2

/-- A loop that waits gets no further than the deadline. -/
theorem wait_cases (plan : Plan) {state : LoopState} (early : state.now < state.deadline) :
    ∃ time, state.now < time ∧ time ≤ state.deadline ∧
      wait plan state = { state with now := time } := by
  unfold wait
  cases next : plan.signal.nextTime? state.now with
  | none => exact ⟨state.deadline, early, Nat.le_refl _, rfl⟩
  | some time =>
      have later := StopSignal.lt_of_nextTime? next
      exact ⟨min time state.deadline, Nat.lt_min.mpr ⟨later, early⟩, Nat.min_le_right _ _, rfl⟩

/-- All that a turn can do. -/
theorem turn_cases (plan : Plan) (passFirst : Bool) (state : LoopState) :
    (state.exited = true ∧ turn plan passFirst state = state) ∨
      (state.exited = false ∧ state.deadline ≤ state.now ∧
        (passFirst = true ∨ plan.signal.hasNews state.seen state.now = false) ∧
        turn plan passFirst state = runPass plan state) ∨
      (state.exited = false ∧ plan.signal.hasNews state.seen state.now = true ∧
        (state.now < state.deadline ∨ passFirst = false) ∧
        turn plan passFirst state = readNews plan state) ∨
      (state.exited = false ∧ plan.signal.hasNews state.seen state.now = false ∧
        state.now < state.deadline ∧ turn plan passFirst state = wait plan state) := by
  unfold turn
  by_cases exited : state.exited = true
  · exact .inl ⟨exited, if_pos exited⟩
  have isOpen : state.exited = false := Bool.eq_false_iff.mpr exited
  rw [if_neg exited]
  dsimp only
  by_cases due : state.deadline ≤ state.now
  · cases news : plan.signal.hasNews state.seen state.now with
    | false =>
        rw [if_pos ⟨due, .inr rfl⟩]
        exact .inr (.inl ⟨isOpen, due, .inr rfl, rfl⟩)
    | true =>
        cases passFirst with
        | true =>
            rw [if_pos ⟨due, .inl rfl⟩]
            exact .inr (.inl ⟨isOpen, due, .inl rfl, rfl⟩)
        | false =>
            rw [if_neg (by simp), if_pos rfl]
            exact .inr (.inr (.inl ⟨isOpen, rfl, .inr rfl, rfl⟩))
  · have early : state.now < state.deadline := Nat.lt_of_not_le due
    rw [if_neg fun both => due both.1]
    cases news : plan.signal.hasNews state.seen state.now with
    | true =>
        rw [if_pos rfl]
        exact .inr (.inr (.inl ⟨isOpen, rfl, .inl early, rfl⟩))
    | false =>
        rw [if_neg Bool.false_ne_true]
        exact .inr (.inr (.inr ⟨isOpen, rfl, early, rfl⟩))

theorem OnBeat.turn {plan : Plan} {state : LoopState} (onBeat : OnBeat plan state)
    (passFirst : Bool) : OnBeat plan (Periodic.turn plan passFirst state) := by
  obtain ⟨-, same⟩ | ⟨-, due, -, passes⟩ | ⟨-, -, -, reads⟩ | ⟨-, -, early, waits⟩ :=
    turn_cases plan passFirst state
  · rw [same]
    exact onBeat
  · rw [passes]
    exact onBeat.runPass due
  · rw [reads]
    exact onBeat.readNews
  · obtain ⟨time, later, bounded, waited⟩ := wait_cases plan early
    rw [waits, waited]
    refine ⟨onBeat.passes, onBeat.deadline, ?_, fun pass member => ?_⟩
    · rw [onBeat.deadline] at bounded
      exact Nat.le_trans bounded (plan.deadline_le_start _)
    · exact Nat.le_trans (onBeat.ended pass member) (Nat.le_of_lt later)

theorem run_onBeat (plan : Plan) (choice : Nat → Bool) (turns : Nat) :
    OnBeat plan (run plan choice turns) := by
  induction turns with
  | zero => exact .atStart plan
  | succ turns inductionHypothesis => exact inductionHypothesis.turn (choice turns)

/-- A turn adds a pass to the record or leaves it. -/
theorem passes_prefix_turn (plan : Plan) (passFirst : Bool) (state : LoopState) :
    state.passes <+: (turn plan passFirst state).passes := by
  obtain ⟨-, same⟩ | ⟨-, -, -, passes⟩ | ⟨-, -, -, reads⟩ | ⟨-, -, early, waits⟩ :=
    turn_cases plan passFirst state
  · simp [same]
  · rw [passes]
    exact List.prefix_append _ _
  · rw [reads]
    unfold readNews
    dsimp only
    split <;> exact List.prefix_refl _
  · obtain ⟨time, -, -, waited⟩ := wait_cases plan early
    simp [waits, waited]

theorem passes_prefix_run (plan : Plan) (choice : Nat → Bool) {earlier later : Nat}
    (after : earlier ≤ later) :
    (run plan choice earlier).passes <+: (run plan choice later).passes := by
  induction after with
  | refl => exact List.prefix_refl _
  | @step later _ inductionHypothesis =>
      exact inductionHypothesis.trans (passes_prefix_turn plan (choice later) _)

end OrderKeeper.Periodic
