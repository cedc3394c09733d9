import OrderKeeper.Proofs.Periodic.Schedule

/-!
Contract: the passes that a loop begins after it was told to stop.

Owns: when there can be such a pass, and that there is none if the loop takes news before a pass
that is due.

A loop that is not busy sees the stop at once.  A busy one sees it when its pass is over, and by
then the next pass may be due.  Then it depends on the choice of the loop whether it begins that
pass, so it can go on after the stop exactly if the pass during which the stop is sent is not over
before the next deadline.
-/

set_option autoImplicit false

namespace OrderKeeper.Periodic

/-! ## Stop -/

/-- The stop is sent at a time: it is the last value and the first `true`, and the sender is there
until then. -/
structure StopSignal.StopsAt (signal : StopSignal) (time : Nat) : Prop where
  initial : signal.initial = false
  sends : ∃ earlier, signal.sends = earlier ++ [(time, true)] ∧ ∀ send ∈ earlier, send.2 = false
  kept : ∀ now < time, signal.isDropped now = false

/-- The pass that is on at a time is not over before the next deadline. -/
def Plan.OverrunsAt (plan : Plan) (time : Nat) : Prop :=
  ∃ index, plan.start index ≤ time ∧ time < plan.finish index ∧
    plan.deadline (index + 1) ≤ plan.finish index

/-- Passes that are shorter than the interval, by more than the tolerance, never overrun. -/
theorem Plan.not_overrunsAt_of_short {plan : Plan}
    (short : ∀ index, plan.work.duration index + tolerance < plan.interval) (time : Nat) :
    ¬plan.OverrunsAt time := by
  rintro ⟨index, -, -, late⟩
  have apart := plan.start_add_interval_le_deadline index
  have brief := short index
  unfold Plan.finish at late
  omega

/-- What was sent is news to who has not seen it. -/
theorem StopSignal.hasNews_of_lt {signal : StopSignal} {seen now : Nat}
    (unseen : seen < signal.sentBy now) : signal.hasNews seen now = true := by
  simp [hasNews, unseen]

namespace StopSignal.StopsAt

variable {signal : StopSignal} {time now : Nat}

/-- From the stop on the last value is `true`. -/
theorem valueAt_of_le (stops : signal.StopsAt time) (told : time ≤ now) :
    signal.valueAt now = true := by
  obtain ⟨earlier, sends, -⟩ := stops.sends
  unfold valueAt
  rw [sends, List.filter_append]
  simp [told]

/-- Until the stop no value is `true`. -/
theorem valueAt_of_lt (stops : signal.StopsAt time) (untold : now < time) :
    signal.valueAt now = false := by
  obtain ⟨earlier, sends, allFalse⟩ := stops.sends
  have notYet : ¬time ≤ now := Nat.not_le.mpr untold
  unfold valueAt
  rw [sends, List.filter_append, stops.initial]
  cases last : (earlier.filter fun send => send.1 ≤ now).getLast? with
  | none => simp [notYet, last]
  | some send =>
      have member := (List.mem_filter.mp (List.mem_of_getLast? last)).1
      simp [notYet, last, allFalse send member]

/-- Who has seen all that was sent until some time before the stop has not seen the stop. -/
theorem sentBy_lt (stops : signal.StopsAt time) (untold : now < time) {later : Nat}
    (told : time ≤ later) : signal.sentBy now < signal.sentBy later := by
  obtain ⟨earlier, sends, -⟩ := stops.sends
  have notYet : ¬time ≤ now := Nat.not_le.mpr untold
  have fewer : (earlier.filter fun send => decide (send.1 ≤ now)).length ≤
      (earlier.filter fun send => decide (send.1 ≤ later)).length := by
    rw [← List.countP_eq_length_filter, ← List.countP_eq_length_filter]
    refine List.countP_mono_left fun send _ sentByNow => ?_
    simp only [decide_eq_true_eq] at sentByNow ⊢
    omega
  unfold sentBy
  rw [sends, List.filter_append, List.filter_append, List.length_append, List.length_append]
  simp only [List.filter_cons, List.filter_nil, told, notYet, decide_true, decide_false,
    Bool.false_eq_true, if_true, if_false, List.length_singleton, List.length_nil]
  omega

/-- Who looks out for news before the stop does not miss it. -/
theorem nextTime?_le (stops : signal.StopsAt time) (untold : now < time) :
    ∃ next ≤ time, signal.nextTime? now = some next := by
  obtain ⟨earlier, sends, -⟩ := stops.sends
  have member : time ∈ (signal.sends.map Prod.fst ++ signal.droppedAt.toList).filter (now < ·) := by
    simp [sends, untold]
  cases next : signal.nextTime? now with
  | none =>
      unfold nextTime? at next
      rw [List.min?_eq_none_iff.mp next] at member
      cases member
  | some first => exact ⟨first, (List.min?_eq_some_iff.mp next).2 time member, rfl⟩

end StopSignal.StopsAt

/-! ## No pass without an overrun -/

/-- What a loop keeps that is told to stop.  As long as it goes on it has not seen the stop; if the
stop was sent before, it comes from a pass; and it has begun no pass since, unless one overran. -/
structure HeedsStop (plan : Plan) (time : Nat) (state : LoopState) : Prop where
  unseen : state.exited = false → ∀ later, time ≤ later → state.seen < plan.signal.sentBy later
  busy : state.exited = false → time < state.now →
    ∃ index, state.passes.length = index + 1 ∧ plan.finish index = state.now
  overrun : (∃ pass ∈ state.passes, time < pass.start) → plan.OverrunsAt time

section Stop

variable {plan : Plan} {time : Nat} {state : LoopState}

theorem HeedsStop.atStart (stops : plan.signal.StopsAt time) :
    HeedsStop plan time (start plan) where
  unseen := by
    intro _ later told
    obtain ⟨earlier, sends, -⟩ := stops.sends
    simp [start, StopSignal.sentBy, sends, told]
  busy := fun _ late => absurd late (Nat.not_lt_zero time)
  overrun := by simp [start]

/-- A pass that begins after the stop follows on one that has overrun. -/
theorem HeedsStop.overrun_of_due (heeds : HeedsStop plan time state) (onBeat : OnBeat plan state)
    (isOpen : state.exited = false) (due : state.deadline ≤ state.now)
    (late : time < state.now) : plan.OverrunsAt time := by
  obtain ⟨index, count, finish⟩ := heeds.busy isOpen late
  have deadline := onBeat.deadline
  rw [count] at deadline
  by_cases begun : plan.start index ≤ time
  · exact ⟨index, begun, finish ▸ late, by rw [finish, ← deadline]; exact due⟩
  · refine heeds.overrun ⟨plan.passAt index, ?_, Nat.lt_of_not_le begun⟩
    rw [onBeat.passes, count]
    exact List.mem_map.mpr ⟨index, List.mem_range.mpr (Nat.lt_succ_self index), rfl⟩

theorem HeedsStop.runPass (heeds : HeedsStop plan time state) (onBeat : OnBeat plan state)
    (isOpen : state.exited = false) (due : state.deadline ≤ state.now) :
    HeedsStop plan time (Periodic.runPass plan state) where
  unseen := heeds.unseen
  busy := by
    intro _ _
    refine ⟨state.passes.length, by simp [Periodic.runPass], ?_⟩
    rw [Plan.finish, ← onBeat.now_eq_start due]
    rfl
  overrun := by
    rintro ⟨pass, member, late⟩
    rcases List.mem_append.mp member with old | new
    · exact heeds.overrun ⟨pass, old, late⟩
    · rw [List.mem_singleton.mp new] at late
      exact heeds.overrun_of_due onBeat isOpen due late

/-- A look at the news ends the loop if the stop is among them. -/
theorem HeedsStop.readNews (heeds : HeedsStop plan time state)
    (stops : plan.signal.StopsAt time) : HeedsStop plan time (Periodic.readNews plan state) := by
  unfold Periodic.readNews
  dsimp only
  split
  · have untold (goesOn : plan.signal.valueAt state.now = false) : state.now < time := by
      refine Nat.lt_of_not_le fun told => ?_
      rw [stops.valueAt_of_le told] at goesOn
      cases goesOn
    refine ⟨fun goesOn later told => stops.sentBy_lt (untold goesOn) told, fun goesOn late => ?_,
      heeds.overrun⟩
    exact absurd late (Nat.not_lt_of_gt (untold goesOn))
  · exact ⟨fun goesOn => (nomatch goesOn), fun goesOn => (nomatch goesOn), heeds.overrun⟩

/-- A loop that waits sees the stop when it is sent. -/
theorem HeedsStop.wait (heeds : HeedsStop plan time state) (stops : plan.signal.StopsAt time)
    (isOpen : state.exited = false)
    (quiet : plan.signal.hasNews state.seen state.now = false) :
    HeedsStop plan time (Periodic.wait plan state) := by
  have untold : state.now < time := by
    refine Nat.lt_of_not_le fun told => ?_
    rw [StopSignal.hasNews_of_lt (heeds.unseen isOpen _ told)] at quiet
    cases quiet
  obtain ⟨next, bounded, found⟩ := stops.nextTime?_le untold
  unfold Periodic.wait
  rw [found]
  refine ⟨heeds.unseen, fun _ late => ?_, heeds.overrun⟩
  exact absurd (Nat.lt_of_lt_of_le late (Nat.min_le_left _ _)) (Nat.not_lt_of_ge bounded)

theorem HeedsStop.turn (heeds : HeedsStop plan time state) (stops : plan.signal.StopsAt time)
    (onBeat : OnBeat plan state) (passFirst : Bool) :
    HeedsStop plan time (Periodic.turn plan passFirst state) := by
  obtain ⟨-, same⟩ | ⟨isOpen, due, -, passes⟩ | ⟨-, -, -, reads⟩ | ⟨isOpen, quiet, -, waits⟩ :=
    turn_cases plan passFirst state
  · rw [same]
    exact heeds
  · rw [passes]
    exact heeds.runPass onBeat isOpen due
  · rw [reads]
    exact heeds.readNews stops
  · rw [waits]
    exact heeds.wait stops isOpen quiet

theorem run_heedsStop (stops : plan.signal.StopsAt time) (choice : Nat → Bool) (turns : Nat) :
    HeedsStop plan time (run plan choice turns) := by
  induction turns with
  | zero => exact .atStart stops
  | succ turns inductionHypothesis =>
      exact inductionHypothesis.turn stops (run_onBeat plan choice turns) (choice turns)

/-- A loop that takes news first begins no pass once the stop was sent. -/
theorem start_lt_of_newsFirst (stops : plan.signal.StopsAt time) (turns : Nat) :
    ∀ pass ∈ (run plan (fun _ => false) turns).passes, pass.start < time := by
  induction turns with
  | zero => simp [run, start]
  | succ turns inductionHypothesis =>
      have heeds := run_heedsStop stops (fun _ => false) turns
      rw [run]
      obtain ⟨-, same⟩ | ⟨isOpen, -, chosen, passes⟩ | ⟨-, -, -, reads⟩ | ⟨-, -, early, waits⟩ :=
        turn_cases plan false (run plan (fun _ => false) turns)
      · rw [same]
        exact inductionHypothesis
      · have quiet := chosen.resolve_left Bool.false_ne_true
        intro pass member
        rw [passes] at member
        rcases List.mem_append.mp member with old | new
        · exact inductionHypothesis pass old
        · rw [List.mem_singleton.mp new]
          refine Nat.lt_of_not_le fun told => ?_
          rw [StopSignal.hasNews_of_lt (heeds.unseen isOpen _ told)] at quiet
          cases quiet
      · rw [reads]
        unfold readNews
        dsimp only
        split <;> exact inductionHypothesis
      · obtain ⟨_, -, -, waited⟩ := wait_cases plan early
        rw [waits, waited]
        exact inductionHypothesis

end Stop

/-! ## A pass after an overrun -/

section Overrun

variable {plan : Plan} {time : Nat}

/-- The run that takes every pass that is due before the news. -/
abbrev eagerRun (plan : Plan) : Nat → LoopState :=
  run plan fun _ => true

/-- What is told before the stop does not end the loop. -/
theorem readNews_before_stop (stops : plan.signal.StopsAt time) {state : LoopState}
    (untold : state.now < time) (news : plan.signal.hasNews state.seen state.now = true) :
    (readNews plan state).exited = false := by
  have unseen : state.seen < plan.signal.sentBy state.now := by
    simpa [StopSignal.hasNews, stops.kept state.now untold] using news
  unfold readNews
  dsimp only
  rw [if_pos unseen]
  exact stops.valueAt_of_lt untold

/-- A loop that takes passes first is still open when a pass is due that begins before the stop,
or at it. -/
theorem turn_open_before_stop (stops : plan.signal.StopsAt time) {state : LoopState}
    (onBeat : OnBeat plan state) (isOpen : state.exited = false)
    (soon : plan.start state.passes.length ≤ time) : (turn plan true state).exited = false := by
  obtain ⟨exited, -⟩ | ⟨-, -, -, passes⟩ | ⟨-, news, chosen, reads⟩ | ⟨-, -, early, waits⟩ :=
    turn_cases plan true state
  · rw [isOpen] at exited
    cases exited
  · rw [passes]
    exact isOpen
  · have early : state.now < plan.deadline state.passes.length := by
      rw [← onBeat.deadline]
      exact chosen.resolve_right (by simp)
    have bounded := plan.deadline_le_start state.passes.length
    rw [reads]
    exact readNews_before_stop stops (by omega) news
  · obtain ⟨_, -, -, waited⟩ := wait_cases plan early
    rw [waits, waited]
    exact isOpen

/-- A loop whose next pass begins before the stop, or at it, gets to the end of that pass. -/
theorem exists_next_pass (stops : plan.signal.StopsAt time) {turns : Nat}
    (isOpen : (eagerRun plan turns).exited = false)
    (soon : plan.start (eagerRun plan turns).passes.length ≤ time) :
    ∃ later, (eagerRun plan later).exited = false ∧
      (eagerRun plan later).passes.length = (eagerRun plan turns).passes.length + 1 ∧
      (eagerRun plan later).now = plan.finish (eagerRun plan turns).passes.length := by
  induction measure : distance plan (eagerRun plan turns) using Nat.strongRecOn
    generalizing turns with
  | ind left inductionHypothesis =>
      have onBeat : OnBeat plan (eagerRun plan turns) := run_onBeat plan _ turns
      have next : eagerRun plan (turns + 1) = turn plan true (eagerRun plan turns) := rfl
      have stillOpen := turn_open_before_stop stops onBeat isOpen soon
      rcases turn_closer plan true isOpen with ⟨due, passes⟩ | ends | ⟨-, samePasses, closer⟩
      · refine ⟨turns + 1, ?_⟩
        rw [next, passes]
        refine ⟨isOpen, by simp [runPass], ?_⟩
        rw [Plan.finish, ← onBeat.now_eq_start due]
        rfl
      · rw [stillOpen] at ends
        cases ends
      · rw [← next] at stillOpen samePasses closer
        have found := inductionHypothesis _ (measure ▸ closer) stillOpen
          (samePasses.symm ▸ soon) rfl
        rw [samePasses] at found
        exact found

/-- A pass that begins before the stop, or at it, is run by a loop that takes passes first. -/
theorem exists_pass (positive : 0 < plan.interval) (stops : plan.signal.StopsAt time)
    {index : Nat} (soon : plan.start index ≤ time) :
    ∃ turns, (eagerRun plan turns).exited = false ∧
      (eagerRun plan turns).passes.length = index + 1 ∧
      (eagerRun plan turns).now = plan.finish index := by
  induction index with
  | zero =>
      have isOpen : (eagerRun plan 0).exited = false := by
        simp [eagerRun, run, start, stops.initial, Nat.ne_of_gt positive]
      exact exists_next_pass stops isOpen soon
  | succ index inductionHypothesis =>
      have before : plan.start index ≤ time :=
        Nat.le_trans (Nat.le_trans (plan.start_le_finish index) (plan.finish_le_start_succ index))
          soon
      obtain ⟨turns, isOpen, count, -⟩ := inductionHypothesis before
      have found := exists_next_pass stops isOpen (by rw [count]; exact soon)
      rw [count] at found
      exact found

/-- After an overrun a loop that takes passes first begins one more pass. -/
theorem exists_pass_after_stop (positive : 0 < plan.interval) (stops : plan.signal.StopsAt time)
    (overruns : plan.OverrunsAt time) :
    ∃ turns, ∃ pass ∈ (eagerRun plan turns).passes, time < pass.start := by
  obtain ⟨index, begun, isOn, late⟩ := overruns
  obtain ⟨turns, isOpen, count, now⟩ := exists_pass positive stops begun
  have deadline := (run_onBeat plan (fun _ => true) turns).deadline
  have due : (eagerRun plan turns).deadline ≤ (eagerRun plan turns).now := by
    rw [deadline, count, now]
    exact late
  have next : eagerRun plan (turns + 1) = runPass plan (eagerRun plan turns) := by
    show turn plan true (eagerRun plan turns) = _
    simp [turn, isOpen, due]
  refine ⟨turns + 1, ?_⟩
  rw [next]
  refine ⟨_, List.mem_append_right _ (List.mem_singleton_self _), ?_⟩
  show time < (eagerRun plan turns).now
  rw [now]
  exact isOn

end Overrun

/-! ## Main statement -/

/-- A loop that is told to stop begins no pass after that, whichever of a due pass and the news it
takes first, exactly if the pass that is on at the stop is over before the next deadline.  If it
takes the news first it never does. -/
theorem passes_after_stop (plan : Plan) (positive : 0 < plan.interval) (time : Nat)
    (stops : plan.signal.StopsAt time) :
    ((∀ choice turns, ∀ pass ∈ (run plan choice turns).passes, pass.start ≤ time) ↔
        ¬plan.OverrunsAt time) ∧
      ∀ turns, ∀ pass ∈ (run plan (fun _ => false) turns).passes, pass.start < time := by
  refine ⟨⟨fun noneLater overruns => ?_, fun inTime choice turns pass member => ?_⟩,
    start_lt_of_newsFirst stops⟩
  · obtain ⟨turns, pass, member, late⟩ := exists_pass_after_stop positive stops overruns
    exact absurd late (Nat.not_lt_of_ge (noneLater _ turns pass member))
  · refine Nat.le_of_not_lt fun late => ?_
    exact inTime ((run_heedsStop stops choice turns).overrun ⟨pass, member, late⟩)

/-- Short passes: none begins after the stop. -/
theorem short_passes_end_with_stop :
    let plan : Plan := ⟨1000, ⟨false, [(2500, false), (6200, true)], none⟩,
      ⟨fun _ => 300, fun _ => false⟩⟩
    0 < plan.interval ∧ plan.signal.StopsAt 6200 ∧
      ∀ choice turns, ∀ pass ∈ (run plan choice turns).passes, pass.start ≤ 6200 := by
  intro plan
  have positive : 0 < plan.interval := by decide
  have stops : plan.signal.StopsAt 6200 :=
    ⟨rfl, ⟨[(2500, false)], rfl, by simp⟩, fun _ _ => rfl⟩
  have inTime : ¬plan.OverrunsAt 6200 :=
    Plan.not_overrunsAt_of_short (fun _ => show 300 + tolerance < 1000 by decide) 6200
  exact ⟨positive, stops, (passes_after_stop plan positive 6200 stops).1.mpr inTime⟩

/-- Two long passes: the stop is sent while the second one is on, and the third is due when that is
over.  Whether the loop begins it is up to the choice of that turn. -/
theorem overrun_begins_pass_after_stop :
    let plan : Plan := ⟨1000, ⟨false, [(2000, true)], none⟩,
      ⟨fun index => if index < 2 then 1700 else 0, fun _ => false⟩⟩
    let inTurn : Nat → Bool := fun turn => turn % 2 == 0
    plan.signal.StopsAt 2000 ∧
      (outcome plan fun _ => false).passes = [⟨0, 0, 1700, false⟩, ⟨1, 1700, 3400, false⟩] ∧
      (outcome plan inTurn).passes =
        [⟨0, 0, 1700, false⟩, ⟨1, 1700, 3400, false⟩, ⟨2, 3400, 3400, false⟩] ∧
      ¬∀ choice turns, ∀ pass ∈ (run plan choice turns).passes, pass.start ≤ 2000 := by
  intro plan inTurn
  have stops : plan.signal.StopsAt 2000 := ⟨rfl, ⟨[], rfl, by simp⟩, fun _ _ => rfl⟩
  have newsFirst : (outcome plan fun _ => false).passes =
      [⟨0, 0, 1700, false⟩, ⟨1, 1700, 3400, false⟩] := by decide +kernel
  have passFirst : (outcome plan inTurn).passes =
      [⟨0, 0, 1700, false⟩, ⟨1, 1700, 3400, false⟩, ⟨2, 3400, 3400, false⟩] := by decide +kernel
  refine ⟨stops, newsFirst, passFirst, fun noneLater => ?_⟩
  rw [outcome_eq_run] at passFirst
  have begun := noneLater inTurn _ ⟨2, 3400, 3400, false⟩ (by rw [passFirst]; simp)
  exact absurd begun (by decide)

end OrderKeeper.Periodic
