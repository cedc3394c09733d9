import OrderKeeper.Proofs.Trailing.Book

/-!
Contract: arming, removing and ticks that run side by side.

Owns: the phases of a tick, the step that each of its inputs makes, the desk where any
number of ticks share one book with those who arm and remove trails, the record of
what was done, and the run of a whole tick in such steps.

Does not own: what holds in every run.

A tick gives way to others whenever it waits for a price or for the answer to an
order, and also between an observation that triggers a trail and the removal of that
trail.  A step is what it does without giving way.
-/

set_option autoImplicit false

namespace OrderKeeper

/-- The book of trails, and what was done with it so far. -/
structure TrailRecord where
  book : TrailBook
  /-- The terms of the trails that were armed. -/
  armed : List TrailTerms
  /-- The trails that were removed without firing. -/
  removed : List String
  /-- The observations that triggered a trail, with the stop that each reported. -/
  reports : List (String × Decimal)
  /-- The trails that a tick took out of the book to fire them. -/
  triggered : List String
  /-- The orders that were submitted. -/
  submitted : List OrderTicket

namespace TrailRecord

def empty : TrailRecord := ⟨.empty, [], [], [], [], []⟩

/-- A trail of these terms was added to the book. -/
def arm (record : TrailRecord) (book : TrailBook) (terms : TrailTerms) : TrailRecord :=
  { record with book, armed := record.armed ++ [terms] }

/-- A trail was taken out without firing. -/
def remove (record : TrailRecord) (id : String) : TrailRecord :=
  { record with book := (record.book.remove id).1, removed := record.removed ++ [id] }

/-- A trail saw a price that triggered it. -/
def report (record : TrailRecord) (book : TrailBook) (id : String) (stop : Decimal) :
    TrailRecord :=
  { record with book, reports := record.reports ++ [(id, stop)] }

/-- A trail was taken out and its order submitted. -/
def fire (record : TrailRecord) (id : String) (ticket : OrderTicket) : TrailRecord :=
  { record with
    book := (record.book.remove id).1
    triggered := record.triggered ++ [id]
    submitted := record.submitted ++ [ticket] }

end TrailRecord

/-- What a tick is about to do. -/
inductive TickPhase where
  /-- To look up the next trail. -/
  | looking
  /-- To observe the price that it waits for. -/
  | pricing (id symbol : String)
  /-- To take out a trail that its observation triggered. -/
  | firing (id : String) (stop : Decimal)
  /-- To count the answer to the order that it waits for. -/
  | placing (symbol : String) (stop : Decimal)
  /-- Nothing, since a reaction had no result. -/
  | stuck

/-- A tick: the trails it has not come to, its phase, and what it did so far. -/
structure TickTask where
  todo : List String
  phase : TickPhase
  outcomes : List TrailOutcome

/-- What lets a tick make its next step. -/
inductive TickInput where
  | look
  /-- A positive price, or none that can be used. -/
  | price (price : Option Decimal)
  | take
  | answer (answer : Except Refusal Receipt)

namespace TickTask

def starting (ids : List String) : TickTask := ⟨ids, .looking, []⟩

/-- Counts what became of a trail and goes on to the next one. -/
def goOn (task : TickTask) (outcome : TrailOutcome) : TickTask :=
  { task with phase := .looking, outcomes := task.outcomes ++ [outcome] }

def summary (task : TickTask) : TickSummary :=
  .ofOutcomes task.outcomes

/-- The trails that the tick has fired, the one whose order it waits for included. -/
def fired (task : TickTask) : Nat :=
  task.summary.triggered + match task.phase with
    | .placing _ _ => 1
    | _ => 0

/-- Looks up the next trail and asks for its price. -/
def look (task : TickTask) (record : TrailRecord) : TickTask :=
  match task.phase, task.todo with
  | .looking, id :: todo =>
      match record.book.get? id with
      | none => { task with todo }.goOn .gone
      | some trail => { task with todo, phase := .pricing id trail.symbol }
  | _, _ => task

/-- Feeds the price to the trail, if the trail is still there. -/
def observe (task : TickTask) (record : TrailRecord) (id : String) (price : Decimal) :
    TrailRecord × TickTask :=
  match record.book.observe id price with
  | none => (record, task.goOn .gone)
  | some (book, .error cause) =>
      ({ record with book }, { task.goOn (.broken cause) with phase := .stuck })
  | some (book, .ok (.triggered stop)) =>
      (record.report book id stop, { task with phase := .firing id stop })
  | some (book, .ok reaction) => ({ record with book }, task.goOn (.observed reaction))

/-- Takes the trail out and submits its order, if the trail is still there. -/
def fire (task : TickTask) (record : TrailRecord) (id : String) (stop : Decimal) :
    TrailRecord × TickTask :=
  match (record.book.remove id).2 with
  | none => (record, task.goOn (.observed (.triggered stop)))
  | some trail =>
      (record.fire id (trail.protectiveOrder stop),
        { task with phase := .placing trail.symbol stop })

/-- One step of a tick.  An input that does not fit its phase changes nothing. -/
def step (task : TickTask) (record : TrailRecord) (input : TickInput) :
    TrailRecord × TickTask :=
  match input, task.phase with
  | .look, _ => (record, task.look record)
  | .price none, .pricing _ _ => (record, task.goOn .unpriced)
  | .price (some price), .pricing id _ => task.observe record id price
  | .take, .firing id stop => task.fire record id stop
  | .answer answer, .placing symbol stop => (record, task.goOn (.fired symbol stop answer))
  | _, _ => (record, task)

end TickTask

/-- A record together with the ticks that were started on it. -/
structure Desk where
  record : TrailRecord
  ticks : List TickTask

inductive DeskEvent where
  | arm (now : Instant) (symbol : String) (side : Side) (percent absolute : Option Decimal)
      (quantity : Decimal) (linkedOrder : Option OrderId)
  | remove (id : String)
  /-- A tick collects ids while others may arm and remove trails, so it may get any. -/
  | start (ids : List String)
  | tick (number : Nat) (input : TickInput)

namespace Desk

def empty : Desk := ⟨.empty, []⟩

def step (desk : Desk) : DeskEvent → Desk
  | .arm now symbol side percent absolute quantity linkedOrder =>
      match desk.record.book.add now symbol side percent absolute quantity linkedOrder with
      | .error _ => desk
      | .ok (book, id) =>
          { desk with record := desk.record.arm book ⟨id, symbol, side, quantity, linkedOrder⟩ }
  | .remove id =>
      match (desk.record.book.remove id).2 with
      | none => desk
      | some _ => { desk with record := desk.record.remove id }
  | .start ids => { desk with ticks := desk.ticks ++ [.starting ids] }
  | .tick number input =>
      match desk.ticks[number]? with
      | none => desk
      | some task =>
          let (record, task) := task.step desk.record input
          { record, ticks := desk.ticks.set number task }

def run (desk : Desk) (events : List DeskEvent) : Desk :=
  events.foldl step desk

end Desk

/-! ## What a step of a tick changes -/

/-- What a step of a tick may do to the record and to the tick. -/
inductive TickTask.Change (record : TrailRecord) (task : TickTask) :
    TrailRecord → TickTask → Prop
  /-- The record stays. -/
  | quiet {next : TickTask}
      (phase : ∀ id stop, next.phase = .firing id stop → task.phase = .firing id stop)
      (fired : next.fired = task.fired) :
      Change record task record next
  /-- A trail sees a price that does not trigger it. -/
  | observed {id : String} {trail : Trail} {price : Decimal} {next : TickTask}
      (found : record.book.get? id = some trail)
      (silent : ∀ stop, (trail.feed price).2 ≠ .ok (.triggered stop))
      (phase : ∀ id stop, next.phase ≠ .firing id stop)
      (fired : next.fired = task.fired) :
      Change record task { record with book := record.book.put id (trail.feed price).1 } next
  /-- A price triggers a trail. -/
  | reported {id : String} {trail : Trail} {price stop : Decimal} {next : TickTask}
      (found : record.book.get? id = some trail)
      (reports : (trail.feed price).2 = .ok (.triggered stop))
      (phase : next.phase = .firing id stop)
      (fired : next.fired = task.fired) :
      Change record task (record.report (record.book.put id (trail.feed price).1) id stop) next
  /-- The trail that the tick's own observation triggered is taken out and fires. -/
  | fires {id : String} {trail : Trail} {stop : Decimal} {next : TickTask}
      (awaited : task.phase = .firing id stop)
      (found : record.book.get? id = some trail)
      (phase : ∀ id stop, next.phase ≠ .firing id stop)
      (fired : next.fired = task.fired + 1) :
      Change record task (record.fire id (trail.protectiveOrder stop)) next

namespace TickTask

variable {task : TickTask} {record : TrailRecord}

theorem fired_goOn (task : TickTask) (outcome : TrailOutcome) :
    (task.goOn outcome).fired = (task.summary.add outcome).triggered := by
  simp [goOn, fired, summary, TickSummary.ofOutcomes, List.foldl_append]

/-- An outcome without an order is not counted as fired. -/
theorem triggered_add_of_not_fired {summary : TickSummary} {outcome : TrailOutcome}
    (silent : ∀ symbol stop answer, outcome ≠ .fired symbol stop answer) :
    (summary.add outcome).triggered = summary.triggered := by
  cases outcome with
  | gone => rfl
  | unpriced => rfl
  | observed reaction => cases reaction <;> rfl
  | fired symbol stop answer => exact absurd rfl (silent symbol stop answer)
  | broken cause => rfl

theorem fired_of_not_placing (waiting : ∀ symbol stop, task.phase ≠ .placing symbol stop) :
    task.fired = task.summary.triggered := by
  unfold fired
  split
  · rename_i symbol stop placing
    exact absurd placing (waiting symbol stop)
  · rfl

theorem fired_goOn_of_not_fired {outcome : TrailOutcome}
    (waiting : ∀ symbol stop, task.phase ≠ .placing symbol stop)
    (silent : ∀ symbol stop answer, outcome ≠ .fired symbol stop answer) :
    (task.goOn outcome).fired = task.fired := by
  rw [fired_goOn, triggered_add_of_not_fired silent, fired_of_not_placing waiting]

theorem Change.unchanged (task : TickTask) (record : TrailRecord) :
    Change record task record task :=
  .quiet (fun _ _ same => same) rfl

theorem Change.goOn {outcome : TrailOutcome}
    (waiting : ∀ symbol stop, task.phase ≠ .placing symbol stop)
    (silent : ∀ symbol stop answer, outcome ≠ .fired symbol stop answer) :
    Change record task record (task.goOn outcome) :=
  .quiet (fun _ _ same => by simp [TickTask.goOn] at same) (fired_goOn_of_not_fired waiting silent)

theorem look_of_gone {id : String} {todo : List String} {outcomes : List TrailOutcome}
    (gone : record.book.get? id = none) :
    look ⟨id :: todo, .looking, outcomes⟩ record = goOn ⟨todo, .looking, outcomes⟩ .gone := by
  simp only [look, gone]

theorem look_of_found {id : String} {todo : List String} {outcomes : List TrailOutcome}
    {trail : Trail} (found : record.book.get? id = some trail) :
    look ⟨id :: todo, .looking, outcomes⟩ record =
      ⟨todo, .pricing id trail.symbol, outcomes⟩ := by
  simp only [look, found]

theorem look_change (task : TickTask) (record : TrailRecord) :
    Change record task record (task.look record) := by
  obtain ⟨todo, phase, outcomes⟩ := task
  cases phase with
  | looking =>
    cases todo with
    | nil => exact .unchanged _ record
    | cons id todo =>
      cases found : record.book.get? id with
      | none =>
        rw [look_of_gone found]
        exact .quiet (fun _ _ same => by simp [TickTask.goOn] at same)
          (fired_goOn_of_not_fired (by simp) (by simp))
      | some trail =>
        rw [look_of_found found]
        exact .quiet (fun _ _ same => by simp at same) rfl
  | pricing id symbol => exact .unchanged _ record
  | firing id stop => exact .unchanged _ record
  | placing symbol stop => exact .unchanged _ record
  | stuck => exact .unchanged _ record

theorem observe_change {id : String} {price : Decimal}
    (waiting : ∀ symbol stop, task.phase ≠ .placing symbol stop) :
    Change record task (task.observe record id price).1 (task.observe record id price).2 := by
  unfold observe TrailBook.observe
  cases found : record.book.trails.get? id with
  | none => exact .goOn waiting (by simp)
  | some trail =>
    dsimp only
    cases reaction_eq : (trail.feed price).2 with
    | error cause =>
      refine .observed found (by simp [reaction_eq]) (by simp) ?_
      exact fired_goOn_of_not_fired waiting (by simp)
    | ok reaction =>
      have idle := fired_of_not_placing waiting
      cases reaction with
      | triggered stop => exact .reported found reaction_eq rfl idle.symm
      | _ =>
        exact .observed found (by simp [reaction_eq]) (by simp [TickTask.goOn])
          (fired_goOn_of_not_fired waiting (by simp))

theorem fire_of_gone {id : String} {stop : Decimal} (gone : record.book.get? id = none) :
    task.fire record id stop = (record, task.goOn (.observed (.triggered stop))) := by
  have taken : (record.book.remove id).2 = none := gone
  unfold fire
  rw [taken]

theorem fire_of_found {id : String} {stop : Decimal} {trail : Trail}
    (found : record.book.get? id = some trail) :
    task.fire record id stop =
      (record.fire id (trail.protectiveOrder stop),
        { task with phase := .placing trail.symbol stop }) := by
  have taken : (record.book.remove id).2 = some trail := found
  unfold fire
  rw [taken]

theorem fire_change {id : String} {stop : Decimal} (awaited : task.phase = .firing id stop) :
    Change record task (task.fire record id stop).1 (task.fire record id stop).2 := by
  have waiting : ∀ symbol stop, task.phase ≠ .placing symbol stop := by simp [awaited]
  cases found : record.book.get? id with
  | none =>
    rw [fire_of_gone found]
    exact .goOn waiting (by simp)
  | some trail =>
    rw [fire_of_found found]
    refine .fires awaited found (by simp) ?_
    rw [fired_of_not_placing waiting]
    rfl

/-- Each step of a tick is one of the four changes. -/
theorem step_change (task : TickTask) (record : TrailRecord) (input : TickInput) :
    Change record task (task.step record input).1 (task.step record input).2 := by
  unfold step
  split
  · exact look_change task record
  · rename_i pricing
    exact .goOn (by simp [pricing]) (by simp)
  · rename_i pricing
    exact observe_change (by simp [pricing])
  · rename_i firing
    exact fire_change firing
  · rename_i answer symbol stop placing
    refine .quiet (fun _ _ same => by simp [TickTask.goOn] at same) ?_
    rw [fired_goOn]
    unfold fired
    rw [placing]
    cases answer <;> rfl
  · exact .unchanged task record

/-- An answer to an order changes nothing but the tick that waits for it. -/
theorem step_answer_record (task : TickTask) (record : TrailRecord)
    (answer : Except Refusal Receipt) : (task.step record (.answer answer)).1 = record := by
  obtain ⟨todo, phase, outcomes⟩ := task
  cases phase <;> rfl

/-- A tick that is to fire a trail comes to nothing else as long as the trail is in the book. -/
theorem step_awaits_or_gone (task : TickTask) (record : TrailRecord) (input : TickInput)
    {id : String} {stop : Decimal} (awaits : task.phase = .firing id stop) :
    (task.step record input).2.phase = .firing id stop ∨
      (task.step record input).1.book.get? id = none := by
  obtain ⟨todo, phase, outcomes⟩ := task
  obtain rfl : phase = .firing id stop := awaits
  cases input with
  | look => exact .inl rfl
  | price price => cases price <;> exact .inl rfl
  | answer answer => exact .inl rfl
  | take =>
    right
    show (fire _ record id stop).1.book.get? id = none
    cases found : record.book.get? id with
    | none => rw [fire_of_gone found, found]
    | some trail =>
      rw [fire_of_found found]
      exact (TrailBook.get?_remove _ _ _).trans (if_pos rfl)

end TickTask

/-! ## A tick that nothing runs beside -/

namespace TickTask

variable {task : TickTask} {record : TrailRecord}

def steps (task : TickTask) (record : TrailRecord) : List TickInput → TrailRecord × TickTask
  | [] => (record, task)
  | input :: rest =>
      let (record, task) := task.step record input
      task.steps record rest

theorem steps_append (task : TickTask) (record : TrailRecord) (first second : List TickInput) :
    task.steps record (first ++ second) =
      (task.steps record first).2.steps (task.steps record first).1 second := by
  induction first generalizing task record with
  | nil => rfl
  | cons input rest inductionHypothesis => exact inductionHypothesis _ _

/-- The phase after a trail is done with. -/
def phaseAfter : TrailOutcome → TickPhase
  | .broken _ => .stuck
  | _ => .looking

variable {World : Type}

/-- What a tick does with one trail is a run of steps. -/
theorem tickTrail_eq_steps (directory : VenueDirectory World) (broker : Broker World)
    (now : Instant) (id : String) (todo : List String) (outcomes : List TrailOutcome)
    (record : TrailRecord) (state : State World) :
    ∃ inputs,
      let done := steps ⟨id :: todo, .looking, outcomes⟩ record inputs
      let looked := tickTrail directory broker now id record.book state
      done.1.book = looked.1 ∧
        done.2 = ⟨todo, phaseAfter looked.2.2, outcomes ++ [looked.2.2]⟩ := by
  unfold tickTrail
  cases found : record.book.get? id with
  | none =>
    refine ⟨[.look], ?_⟩
    simp [steps, step, look_of_gone found, goOn, phaseAfter]
  | some trail =>
    dsimp only
    obtain ⟨price, world⟩ := usablePrice? directory trail.symbol state.world
    cases price with
    | none =>
      refine ⟨[.look, .price none], ?_⟩
      simp [steps, step, look_of_found found, goOn, phaseAfter]
    | some price =>
      have entry : record.book.trails.get? id = some trail := found
      have looked : look ⟨id :: todo, .looking, outcomes⟩ record =
          ⟨todo, .pricing id trail.symbol, outcomes⟩ := look_of_found found
      dsimp only
      rw [TrailBook.feed_eq_observe]
      rcases feeding : trail.feed price with ⟨fed, reaction⟩
      have observes : record.book.observe id price =
          some (record.book.put id fed, reaction) := by
        simp only [TrailBook.observe, entry, feeding]
      cases reaction with
      | error cause =>
        refine ⟨[.look, .price (some price)], ?_⟩
        simp [steps, step, looked, observe, observes, goOn, phaseAfter]
      | ok reaction =>
        cases reaction with
        | triggered stop =>
          refine ⟨[.look, .price (some price), .take, .answer
            (broker.place now (fed.protectiveOrder stop) { state with world }).1], ?_⟩
          simp [steps, step, looked, observe, observes, fire, TrailRecord.report,
            TrailRecord.fire, TrailBook.remove, TrailBook.put, Dictionary.get?_insert,
            Dictionary.erase_insert, goOn, phaseAfter]
        | _ =>
          refine ⟨[.look, .price (some price)], ?_⟩
          simp [steps, step, looked, observe, observes, goOn, phaseAfter]

theorem phaseAfter_of_not_broken {outcome : TrailOutcome}
    (whole : ∀ cause, outcome ≠ .broken cause) : phaseAfter outcome = .looking := by
  cases outcome with
  | broken cause => exact absurd rfl (whole cause)
  | _ => rfl

/-- What a tick does with several trails is a run of steps. -/
theorem tickTrails_eq_steps (directory : VenueDirectory World) (broker : Broker World)
    (now : Instant) (ids : List String) (outcomes : List TrailOutcome) (record : TrailRecord)
    (state : State World) :
    ∃ inputs,
      let done := steps ⟨ids, .looking, outcomes⟩ record inputs
      let result := tickTrails directory broker now ids record.book state
      done.1.book = result.book ∧ done.2.outcomes = outcomes ++ result.outcomes := by
  induction ids generalizing outcomes record state with
  | nil => exact ⟨[], rfl, (List.append_nil outcomes).symm⟩
  | cons id rest inductionHypothesis =>
    obtain ⟨inputs, book_eq, task_eq⟩ :=
      tickTrail_eq_steps directory broker now id rest outcomes record state
    dsimp only at book_eq task_eq ⊢
    unfold tickTrails
    split
    · rename_i book after cause looked
      rw [looked] at book_eq task_eq
      exact ⟨inputs, book_eq, by rw [task_eq]⟩
    · rename_i book after outcome whole looked
      rw [looked] at book_eq task_eq
      dsimp only at book_eq task_eq
      rw [phaseAfter_of_not_broken whole] at task_eq
      obtain ⟨more, moreBook, moreOutcomes⟩ := inductionHypothesis (outcomes ++ [outcome])
        (steps ⟨id :: rest, .looking, outcomes⟩ record inputs).1 after
      rw [← task_eq, ← steps_append, book_eq] at moreBook moreOutcomes
      exact ⟨inputs ++ more, moreBook, by rw [moreOutcomes, List.append_assoc]; rfl⟩

end TickTask

namespace Desk

/-- The steps of one tick while the others wait. -/
theorem run_tick {desk : Desk} {number : Nat} {task : TickTask}
    (started : desk.ticks[number]? = some task) (inputs : List TickInput) :
    desk.run (inputs.map (.tick number)) =
      { record := (task.steps desk.record inputs).1,
        ticks := desk.ticks.set number (task.steps desk.record inputs).2 } := by
  induction inputs generalizing desk task with
  | nil =>
    obtain ⟨bound, here⟩ := List.getElem?_eq_some_iff.mp started
    simp [run, TickTask.steps, ← here]
  | cons input rest inductionHypothesis =>
    have stepped : desk.step (.tick number input) =
        { record := (task.step desk.record input).1,
          ticks := desk.ticks.set number (task.step desk.record input).2 } := by
      simp only [step, started]
    obtain ⟨bound, -⟩ := List.getElem?_eq_some_iff.mp started
    have still : (desk.step (.tick number input)).ticks[number]? =
        some (task.step desk.record input).2 := by
      rw [stepped]
      simp [bound]
    have later := inductionHypothesis still
    rw [stepped] at later
    rw [List.map_cons, run, List.foldl_cons, stepped]
    refine later.trans ?_
    simp only [List.set_set]
    rfl

/-- A whole tick is a run of the desk: it leaves the same book and does the same with each
trail. -/
theorem tickOnce_eq_run {World : Type} (directory : VenueDirectory World)
    (broker : Broker World) (now : Instant) (desk : Desk) (state : State World) :
    ∃ inputs : List TickInput,
      let result := tickOnce directory broker now desk.record.book state
      let after := desk.run
        (.start desk.record.book.trails.keys :: inputs.map (.tick desk.ticks.length))
      after.record.book = result.book ∧
        ∃ task, after.ticks[desk.ticks.length]? = some task ∧
          task.outcomes = result.outcomes ∧ task.summary = result.summary := by
  obtain ⟨inputs, book_eq, outcomes_eq⟩ := TickTask.tickTrails_eq_steps directory broker now
    desk.record.book.trails.keys [] desk.record state
  rw [List.nil_append] at outcomes_eq
  have started : (desk.step (.start desk.record.book.trails.keys)).ticks[desk.ticks.length]? =
      some (.starting desk.record.book.trails.keys) := by
    simp [step]
  have ran := run_tick started inputs
  refine ⟨inputs, ?_⟩
  dsimp only
  rw [run, List.foldl_cons]
  change (run _ _).record.book = _ ∧ ∃ task, (run _ _).ticks[_]? = _ ∧ _
  rw [ran]
  refine ⟨book_eq, _, List.getElem?_set_self ?_, outcomes_eq, ?_⟩
  · simp [step]
  · exact congrArg TickSummary.ofOutcomes outcomes_eq

end Desk

end OrderKeeper
