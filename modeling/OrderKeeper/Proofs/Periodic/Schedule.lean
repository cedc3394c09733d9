import OrderKeeper.Proofs.Periodic.Beat

/-!
Contract: the schedule of a loop, in whatever order it takes a pass that is due and news.

Owns: the agreement of a loop that runs until it ends with these runs, the little that a pass that
breaks down changes, what a loop has been told when it ends, the turns up to the next pass, and the
schedule of every run.

Does not own: the passes that begin after the signal to stop.
-/

set_option autoImplicit false

namespace OrderKeeper.Periodic

/-! ## A loop that runs until it ends -/

theorem run_of_exited {plan : Plan} {choice : Nat → Bool} {turns later : Nat}
    (exited : (run plan choice turns).exited = true) (after : turns ≤ later) :
    run plan choice later = run plan choice turns := by
  induction after with
  | refl => rfl
  | step _ inductionHypothesis =>
      rw [run, inductionHypothesis, turn, if_pos exited]

/-- A loop that goes on from a run until it ends is a longer run with the same choices. -/
theorem runOut_eq_run (plan : Plan) (choice : Nat → Bool) (more turns : Nat) :
    runOut plan choice more turns (run plan choice turns) = run plan choice (turns + more) := by
  induction more generalizing turns with
  | zero => rfl
  | succ more inductionHypothesis =>
      unfold runOut
      split
      · rename_i exited
        exact (run_of_exited exited (Nat.le_add_right turns _)).symm
      · have oneMore : turn plan (choice turns) (run plan choice turns) =
            run plan choice (turns + 1) := rfl
        rw [oneMore, inductionHypothesis, Nat.add_right_comm, Nat.add_assoc]

theorem outcome_eq_run (plan : Plan) (choice : Nat → Bool) :
    outcome plan choice = run plan choice (enoughTurns plan) := by
  rw [← Nat.zero_add (enoughTurns plan)]
  exact runOut_eq_run plan choice (enoughTurns plan) 0

/-! ## Passes that break down -/

namespace LoopState

/-- The same passes, of which others broke down. -/
def withBreaks (state : LoopState) (breaks : Nat → Bool) : LoopState :=
  { state with
    passes := state.passes.map fun pass => { pass with broken := breaks pass.index } }

/-- The loop has seen the last value, which is `true`, or nothing more will be told. -/
def ToldToStop (state : LoopState) (signal : StopSignal) : Prop :=
  (signal.valueAt state.now = true ∧ state.seen = signal.sentBy state.now) ∨
    signal.isDropped state.now = true

end LoopState

section Breakdown

variable (plan : Plan) (breaks : Nat → Bool)

theorem runPass_withBreaks (state : LoopState) :
    runPass (plan.withBreaks breaks) (state.withBreaks breaks) =
      (runPass plan state).withBreaks breaks := by
  simp [runPass, LoopState.withBreaks, Plan.withBreaks]

theorem readNews_withBreaks (state : LoopState) :
    readNews (plan.withBreaks breaks) (state.withBreaks breaks) =
      (readNews plan state).withBreaks breaks := by
  show (if state.seen < plan.signal.sentBy state.now then _ else _) =
    LoopState.withBreaks (if state.seen < plan.signal.sentBy state.now then _ else _) breaks
  split <;> rfl

theorem wait_withBreaks (state : LoopState) :
    wait (plan.withBreaks breaks) (state.withBreaks breaks) =
      (wait plan state).withBreaks breaks := by
  have sameNext : (plan.withBreaks breaks).signal.nextTime? (state.withBreaks breaks).now =
      plan.signal.nextTime? state.now := rfl
  unfold wait
  rw [sameNext]
  cases plan.signal.nextTime? state.now <;> rfl

/-- A turn goes the same way whether passes break down or not. -/
theorem turn_withBreaks (passFirst : Bool) (state : LoopState) :
    turn (plan.withBreaks breaks) passFirst (state.withBreaks breaks) =
      (turn plan passFirst state).withBreaks breaks := by
  unfold turn
  rw [runPass_withBreaks, readNews_withBreaks, wait_withBreaks]
  have sameNews : (plan.withBreaks breaks).signal.hasNews (state.withBreaks breaks).seen
      (state.withBreaks breaks).now = plan.signal.hasNews state.seen state.now := rfl
  dsimp only
  rw [sameNews]
  by_cases exited : state.exited = true
  · rw [if_pos exited]
    exact if_pos exited
  rw [if_neg exited]
  refine (if_neg exited).trans ?_
  rw [apply_ite (fun after => LoopState.withBreaks after breaks),
    apply_ite (fun after => LoopState.withBreaks after breaks)]
  rfl

theorem run_withBreaks (choice : Nat → Bool) (turns : Nat) :
    run (plan.withBreaks breaks) choice turns = (run plan choice turns).withBreaks breaks := by
  induction turns with
  | zero => rfl
  | succ turns inductionHypothesis =>
      rw [run, inductionHypothesis, turn_withBreaks]
      rfl

end Breakdown

/-! ## The end of a loop -/

/-- A look at the news ends the loop only if these tell it to stop. -/
theorem toldToStop_of_readNews {plan : Plan} {state : LoopState}
    (news : plan.signal.hasNews state.seen state.now = true)
    (ends : (readNews plan state).exited = true) :
    (readNews plan state).ToldToStop plan.signal := by
  unfold readNews at ends ⊢
  dsimp only at ends ⊢
  by_cases unseen : state.seen < plan.signal.sentBy state.now
  · rw [if_pos unseen] at ends ⊢
    exact .inl ⟨ends, rfl⟩
  · rw [if_neg unseen]
    have dropped : plan.signal.isDropped state.now = true := by
      simpa [StopSignal.hasNews, unseen] using news
    exact .inr dropped

theorem toldToStop_of_exited {plan : Plan} (positive : 0 < plan.interval)
    {choice : Nat → Bool} {turns : Nat} (exited : (run plan choice turns).exited = true) :
    plan.signal.initial = true ∨ (run plan choice turns).ToldToStop plan.signal := by
  induction turns with
  | zero =>
      have hasInterval : (plan.interval == 0) = false := beq_false_of_ne (Nat.ne_of_gt positive)
      left
      simpa [run, start, hasInterval] using exited
  | succ turns inductionHypothesis =>
      rw [run] at exited ⊢
      obtain ⟨before, same⟩ | ⟨isOpen, -, -, passes⟩ | ⟨-, news, -, reads⟩ |
        ⟨isOpen, -, early, waits⟩ := turn_cases plan (choice turns) (run plan choice turns)
      · rw [same]
        exact inductionHypothesis before
      · rw [passes] at exited
        exact absurd (isOpen.symm.trans exited) Bool.false_ne_true
      · rw [reads] at exited ⊢
        exact .inr (toldToStop_of_readNews news exited)
      · obtain ⟨time, -, -, waited⟩ := wait_cases plan early
        rw [waits, waited] at exited
        exact absurd (isOpen.symm.trans exited) Bool.false_ne_true

/-! ## Progress -/

/-- How far a loop is from its next pass: the time that is left, then the news. -/
def distance (plan : Plan) (state : LoopState) : Nat :=
  4 * (state.deadline - state.now) +
    (2 * (decide (state.seen < plan.signal.sentBy state.now)).toNat +
      (plan.signal.isDropped state.now).toNat)

/-- A turn of an open loop runs the pass that is due, ends the loop, or brings it closer to its
next pass. -/
theorem turn_closer (plan : Plan) (passFirst : Bool) {state : LoopState}
    (isOpen : state.exited = false) :
    let next := turn plan passFirst state
    (state.deadline ≤ state.now ∧ next = runPass plan state) ∨ next.exited = true ∨
      (next.exited = false ∧ next.passes = state.passes ∧
        distance plan next < distance plan state) := by
  obtain ⟨exited, -⟩ | ⟨-, due, -, passes⟩ | ⟨-, news, -, reads⟩ | ⟨-, quiet, early, waits⟩ :=
    turn_cases plan passFirst state
  · rw [isOpen] at exited
    cases exited
  · exact .inl ⟨due, passes⟩
  · right
    rw [reads]
    unfold readNews
    dsimp only
    by_cases unseen : state.seen < plan.signal.sentBy state.now
    · rw [if_pos unseen]
      cases last : plan.signal.valueAt state.now with
      | true => exact .inl rfl
      | false =>
          refine .inr ⟨rfl, rfl, ?_⟩
          simp [distance, unseen]
    · rw [if_neg unseen]
      exact .inl rfl
  · right
    right
    obtain ⟨time, later, bounded, waited⟩ := wait_cases plan early
    rw [waits, waited]
    refine ⟨isOpen, rfl, ?_⟩
    -- Time goes on, so that whatever is told then cannot outweigh it.
    have told := Bool.toNat_le (decide (state.seen < plan.signal.sentBy time))
    have dropped := Bool.toNat_le (plan.signal.isDropped time)
    unfold distance
    dsimp only
    omega

/-- An open loop comes to the end of its next pass, or it ends. -/
theorem exists_pass_or_exit (plan : Plan) (choice : Nat → Bool) {turns : Nat}
    (isOpen : (run plan choice turns).exited = false) :
    ∃ later, turns < later ∧ ((run plan choice later).exited = true ∨
      (run plan choice later).passes.length = (run plan choice turns).passes.length + 1) := by
  induction measure : distance plan (run plan choice turns) using Nat.strongRecOn
    generalizing turns with
  | ind left inductionHypothesis =>
      have next : run plan choice (turns + 1) = turn plan (choice turns) (run plan choice turns) :=
        rfl
      rcases turn_closer plan (choice turns) isOpen with
        ⟨-, passes⟩ | ends | ⟨stillOpen, samePasses, closer⟩
      · refine ⟨turns + 1, Nat.lt_succ_self turns, .inr ?_⟩
        rw [next, passes]
        simp [runPass]
      · exact ⟨turns + 1, Nat.lt_succ_self turns, .inl ends⟩
      · rw [← next] at stillOpen samePasses closer
        obtain ⟨later, after, reached⟩ := inductionHypothesis _ (measure ▸ closer) stillOpen rfl
        rw [samePasses] at reached
        exact ⟨later, Nat.lt_of_succ_lt after, reached⟩

/-! ## Main statement -/

/-- Whatever the passes last, whichever of them break down, whatever is told to the loop and when,
and whichever of a due pass and news it takes first: every pass that has begun is over when the
loop goes on or ends; it began when it was due and the one before was over, as the beat of the
plan says; no two passes overlap, and two starts are an interval less the tolerance apart; a
breakdown changes nothing but its record; the loop ends only when it is told to stop; and as long
as it is open there is a further pass or its end to come. -/
theorem run_keeps_schedule (plan : Plan) (positive : 0 < plan.interval) (choice : Nat → Bool)
    (turns : Nat) :
    let state := run plan choice turns
    (∀ earlier ≤ turns, (run plan choice earlier).passes <+: state.passes) ∧
      state.passes = (List.range state.passes.length).map plan.passAt ∧
      (∀ pass ∈ state.passes, plan.deadline pass.index ≤ pass.start ∧
        pass.finish = pass.start + plan.work.duration pass.index ∧ pass.finish ≤ state.now) ∧
      (state.passes.Pairwise fun earlier later => earlier.finish ≤ later.start ∧
        earlier.start + plan.interval ≤ later.start + tolerance) ∧
      (∀ breaks, run (plan.withBreaks breaks) choice turns = state.withBreaks breaks) ∧
      (state.exited = true →
        (plan.signal.initial = true ∨ state.ToldToStop plan.signal) ∧
          ∀ later, turns ≤ later → run plan choice later = state) ∧
      (state.exited = false → ∃ later, turns < later ∧ ((run plan choice later).exited = true ∨
        (run plan choice later).passes.length = state.passes.length + 1)) := by
  intro state
  have onBeat : OnBeat plan state := run_onBeat plan choice turns
  refine ⟨fun _ => passes_prefix_run plan choice, onBeat.passes, ?_, ?_,
    fun breaks => run_withBreaks plan breaks choice turns,
    fun exited => ⟨toldToStop_of_exited positive exited, fun _ => run_of_exited exited⟩,
    exists_pass_or_exit plan choice⟩
  · intro pass member
    rw [onBeat.passes] at member
    obtain ⟨index, below, rfl⟩ := List.mem_map.mp member
    refine ⟨plan.deadline_le_start index, rfl, onBeat.ended _ ?_⟩
    rw [onBeat.passes]
    exact List.mem_map.mpr ⟨index, below, rfl⟩
  · rw [onBeat.passes, List.pairwise_map]
    refine List.pairwise_lt_range.imp fun {earlier later} before => ?_
    exact ⟨plan.finish_le_start before, plan.start_add_interval_le before⟩

/-- A first pass of one and a half intervals makes the second one late by no more than the
tolerance, so the third follows after half an interval, which is the least distance.  The second
breaks down, and the loop ends at the news of a stop. -/
theorem late_pass_keeps_least_distance :
    let plan : Plan := ⟨10, ⟨false, [(4, false), (42, true)], none⟩,
      ⟨fun index => if index = 0 then 15 else 3, fun index => index == 1⟩⟩
    let state := run plan (fun turn => turn % 2 == 0) 20
    0 < plan.interval ∧ state.exited = true ∧
      state.passes = [⟨0, 0, 15, false⟩, ⟨1, 15, 18, true⟩, ⟨2, 20, 23, false⟩,
        ⟨3, 30, 33, false⟩, ⟨4, 40, 43, false⟩] ∧
      (state.passes.Pairwise fun earlier later => earlier.finish ≤ later.start ∧
        earlier.start + plan.interval ≤ later.start + tolerance) ∧
      (plan.signal.initial = true ∨ state.ToldToStop plan.signal) := by
  intro plan state
  have positive : 0 < plan.interval := by decide
  obtain ⟨-, -, -, apart, -, ends, -⟩ :=
    run_keeps_schedule plan positive (fun turn => turn % 2 == 0) 20
  have exited : state.exited = true := by decide +kernel
  exact ⟨positive, exited, by decide +kernel, apart, (ends exited).1⟩

end OrderKeeper.Periodic
