import Mathlib
import OrderKeeper.Proofs.Trailing.Desk

/-!
Contract: what holds in every run of a desk.

Owns: the account of armed trails as active, removed or triggered, the one order that
each triggered trail is closed with, the agreement of both with what the ticks count, and
the tick that a triggered trail waits for as long as it is in the book.

Does not own: the prices at which a trail triggers.
-/

set_option autoImplicit false

namespace OrderKeeper

namespace TrailRecord

/-- A ticket closes the position of an armed trail at the stop that was reported for it. -/
def Closes (record : TrailRecord) (id : String) (ticket : OrderTicket) : Prop :=
  ∃ terms ∈ record.armed, ∃ stop, terms.id = id ∧ (id, stop) ∈ record.reports ∧
    ticket = terms.protectiveOrder stop

/-- What a record keeps to whatever is done on its desk. -/
structure Balanced (record : TrailRecord) : Prop where
  /-- The numbers of armed trails are below the next one. -/
  numbered : ∀ terms ∈ record.armed, ∃ symbol side now offset number,
    number < record.book.nextNumber ∧
      terms.id = TrailBook.trailId symbol side now offset number
  distinct : (record.armed.map TrailTerms.id).Nodup
  /-- Every armed trail is in one place. -/
  placed : (record.book.trails.keys ++ record.removed ++ record.triggered).Perm
    (record.armed.map TrailTerms.id)
  /-- Active trails have the terms they were armed with. -/
  kept : ∀ id trail, record.book.get? id = some trail →
    trail.terms.id = id ∧ trail.terms ∈ record.armed
  /-- An active trail that a report was made of is spent. -/
  spent : ∀ id trail, record.book.get? id = some trail →
    id ∈ record.reports.map Prod.fst → trail.triggered = true
  reportedArmed : ∀ id ∈ record.reports.map Prod.fst, id ∈ record.armed.map TrailTerms.id
  reportedOnce : (record.reports.map Prod.fst).Nodup
  closed : List.Forall₂ record.Closes record.triggered record.submitted

theorem balanced_empty : empty.Balanced where
  numbered := by simp [empty]
  distinct := List.nodup_nil
  placed := List.Perm.refl []
  kept := by simp [empty, TrailBook.get?, TrailBook.empty, Dictionary.get?, Dictionary.empty]
  spent := by simp [empty]
  reportedArmed := by simp [empty]
  reportedOnce := List.nodup_nil
  closed := .nil

theorem arm_ids (record : TrailRecord) (book : TrailBook) (terms : TrailTerms) :
    (record.arm book terms).armed.map TrailTerms.id =
      record.armed.map TrailTerms.id ++ [terms.id] := by
  simp [arm]

namespace Balanced

variable {record : TrailRecord} {id : String} {trail : Trail}

theorem active_armed (balanced : record.Balanced) (found : record.book.get? id = some trail) :
    id ∈ record.armed.map TrailTerms.id := by
  have active : id ∈ record.book.trails.keys :=
    (Dictionary.mem_keys_iff _ _).mpr ⟨trail, found⟩
  refine balanced.placed.mem_iff.mp ?_
  simp [active]

/-- What closed an order goes on closing it when more is armed and reported. -/
theorem closed_of_subset (balanced : record.Balanced) {larger : TrailRecord}
    (armed : record.armed ⊆ larger.armed) (reports : record.reports ⊆ larger.reports) :
    List.Forall₂ larger.Closes record.triggered record.submitted := by
  refine balanced.closed.imp ?_
  rintro id ticket ⟨terms, member, stop, id_eq, reported, ticket_eq⟩
  exact ⟨terms, armed member, stop, id_eq, reports reported, ticket_eq⟩

/-- The id of a newly armed trail is new. -/
theorem arm_new (balanced : record.Balanced) (symbol : String) (side : Side) (now : Instant)
    (offset : TrailOffset) :
    TrailBook.trailId symbol side now offset record.book.nextNumber ∉
      record.armed.map TrailTerms.id := by
  intro member
  obtain ⟨terms, armed, same⟩ := List.mem_map.mp member
  obtain ⟨_, _, _, _, number, below, id_eq⟩ := balanced.numbered terms armed
  have := TrailBook.trailId_number_inj (id_eq.symm.trans same)
  omega

/-- The armed trails stay numbered once the next number is used. -/
theorem numbered_arm (balanced : record.Balanced) {symbol : String} {side : Side} {now : Instant}
    {offset : TrailOffset} {terms : TrailTerms}
    (terms_id : terms.id = TrailBook.trailId symbol side now offset record.book.nextNumber) :
    ∀ other ∈ record.armed ++ [terms], ∃ symbol side now offset number,
      number < record.book.nextNumber + 1 ∧
        other.id = TrailBook.trailId symbol side now offset number := by
  intro other member
  rcases List.mem_append.mp member with earlier | latest
  · obtain ⟨symbol, side, now, offset, number, below, same⟩ := balanced.numbered other earlier
    exact ⟨symbol, side, now, offset, number, Nat.lt_succ_of_lt below, same⟩
  · obtain rfl := List.mem_singleton.mp latest
    exact ⟨symbol, side, now, offset, record.book.nextNumber, Nat.lt_succ_self _, terms_id⟩

theorem arm (balanced : record.Balanced) {now : Instant} {symbol : String} {side : Side}
    {percent absolute : Option Decimal} {quantity : Decimal} {linkedOrder : Option OrderId}
    {book : TrailBook}
    (added : record.book.add now symbol side percent absolute quantity linkedOrder =
      .ok (book, id)) :
    (record.arm book ⟨id, symbol, side, quantity, linkedOrder⟩).Balanced := by
  obtain ⟨offset, -, id_eq, rfl⟩ := TrailBook.add_eq_ok added
  set trail := Trail.create now id symbol side offset quantity linkedOrder
  have terms_eq : trail.terms = ⟨id, symbol, side, quantity, linkedOrder⟩ := rfl
  have waiting : trail.triggered = false := rfl
  have new : id ∉ record.armed.map TrailTerms.id := by
    rw [id_eq]
    exact balanced.arm_new symbol side now offset
  have absent : record.book.get? id = none := by
    cases found : record.book.get? id with
    | none => rfl
    | some other => exact absurd (balanced.active_armed found) new
  refine ⟨balanced.numbered_arm id_eq, ?_, ?_, ?_, ?_, ?_, balanced.reportedOnce, ?_⟩
  · rw [arm_ids]
    exact balanced.distinct.append (List.nodup_singleton _) (by simpa using new)
  · rw [arm_ids]
    have keys := Dictionary.keys_insert_of_new trail absent
    exact (((keys.append_right _).append_right _).trans (balanced.placed.cons id)).trans
      (List.perm_append_singleton id _).symm
  · intro other active (entry : (record.book.put id trail).get? other = some active)
    rw [TrailBook.get?_put] at entry
    split at entry
    · rename_i same
      obtain rfl := Option.some.inj entry
      exact ⟨by rw [terms_eq, same], by simp [TrailRecord.arm, terms_eq]⟩
    · have earlier := balanced.kept other active entry
      exact ⟨earlier.1, List.mem_append_left _ earlier.2⟩
  · intro other active (entry : (record.book.put id trail).get? other = some active) reported
    rw [TrailBook.get?_put] at entry
    split at entry
    · rename_i same
      exact absurd (same ▸ balanced.reportedArmed other reported) new
    · exact balanced.spent other active entry reported
  · intro other reported
    rw [arm_ids]
    exact List.mem_append_left _ (balanced.reportedArmed other reported)
  · exact balanced.closed_of_subset (List.subset_append_left _ _) (List.Subset.refl _)

/-- A newly armed trail takes the place of none that was armed before. -/
theorem get?_of_arm (balanced : record.Balanced) {now : Instant} {symbol : String} {side : Side}
    {percent absolute : Option Decimal} {quantity : Decimal} {linkedOrder : Option OrderId}
    {book : TrailBook}
    (added : record.book.add now symbol side percent absolute quantity linkedOrder =
      .ok (book, id))
    {other : String} (armed : other ∈ record.armed.map TrailTerms.id) :
    book.get? other = record.book.get? other := by
  obtain ⟨offset, -, id_eq, rfl⟩ := TrailBook.add_eq_ok added
  refine (TrailBook.get?_put _ _ _ _).trans (if_neg ?_)
  rintro rfl
  exact balanced.arm_new symbol side now offset (id_eq ▸ armed)

/-- A trail that is taken out of the book is no longer among the active ones. -/
theorem taken (balanced : record.Balanced) (found : record.book.get? id = some trail) :
    (id :: ((record.book.remove id).1.trails.keys ++ record.removed ++ record.triggered)).Perm
      (record.armed.map TrailTerms.id) := by
  have keys : record.book.trails.keys.Perm (id :: (record.book.remove id).1.trails.keys) :=
    Dictionary.keys_erase found
  exact ((keys.append_right _).append_right _).symm.trans balanced.placed

theorem get?_of_remove {book : TrailBook} {other : String} {active : Trail}
    (entry : (book.remove id).1.get? other = some active) : book.get? other = some active := by
  rw [TrailBook.get?_remove] at entry
  split at entry
  · cases entry
  · exact entry

theorem remove (balanced : record.Balanced) (found : record.book.get? id = some trail) :
    (record.remove id).Balanced where
  numbered := balanced.numbered
  distinct := balanced.distinct
  placed := by
    have moved : ((record.book.remove id).1.trails.keys ++ (record.removed ++ [id]) ++
        record.triggered).Perm
        (id :: ((record.book.remove id).1.trails.keys ++ record.removed ++ record.triggered)) := by
      rw [← List.append_assoc, List.append_assoc, List.singleton_append]
      exact List.perm_middle
    exact moved.trans (balanced.taken found)
  kept other active entry := balanced.kept other active (get?_of_remove entry)
  spent other active entry := balanced.spent other active (get?_of_remove entry)
  reportedArmed := balanced.reportedArmed
  reportedOnce := balanced.reportedOnce
  closed := balanced.closed_of_subset (List.Subset.refl _) (List.Subset.refl _)

/-- A trail fires at the stop that was reported for it. -/
theorem fire (balanced : record.Balanced) {stop : Decimal}
    (found : record.book.get? id = some trail) (reported : (id, stop) ∈ record.reports) :
    (record.fire id (trail.protectiveOrder stop)).Balanced where
  numbered := balanced.numbered
  distinct := balanced.distinct
  placed := by
    have moved : ((record.book.remove id).1.trails.keys ++ record.removed ++
        (record.triggered ++ [id])).Perm
        (id :: ((record.book.remove id).1.trails.keys ++ record.removed ++ record.triggered)) := by
      rw [← List.append_assoc]
      exact List.perm_append_singleton id _
    exact moved.trans (balanced.taken found)
  kept other active entry := balanced.kept other active (get?_of_remove entry)
  spent other active entry := balanced.spent other active (get?_of_remove entry)
  reportedArmed := balanced.reportedArmed
  reportedOnce := balanced.reportedOnce
  closed := by
    have earlier : List.Forall₂ (record.fire id (trail.protectiveOrder stop)).Closes
        record.triggered record.submitted :=
      balanced.closed_of_subset (List.Subset.refl _) (List.Subset.refl _)
    obtain ⟨id_eq, armed⟩ := balanced.kept id trail found
    refine List.rel_append earlier (.cons ?_ .nil)
    exact ⟨trail.terms, armed, stop, id_eq, reported, trail.protectiveOrder_eq stop⟩

/-- A price keeps the terms of the trail that sees it. -/
theorem kept_put (balanced : record.Balanced) (found : record.book.get? id = some trail)
    (price : Decimal) {other : String} {active : Trail}
    (entry : (record.book.put id (trail.feed price).1).get? other = some active) :
    active.terms.id = other ∧ active.terms ∈ record.armed := by
  rw [TrailBook.get?_put] at entry
  split at entry
  · rename_i same
    obtain rfl := Option.some.inj entry
    rw [Trail.feed_terms, same]
    exact balanced.kept id trail found
  · exact balanced.kept other active entry

theorem placed_put (balanced : record.Balanced) (found : record.book.get? id = some trail)
    (fed : Trail) :
    ((record.book.put id fed).trails.keys ++ record.removed ++ record.triggered).Perm
      (record.armed.map TrailTerms.id) := by
  have keys : (record.book.put id fed).trails.keys.Perm record.book.trails.keys :=
    Dictionary.keys_insert_of_old fed found
  exact ((keys.append_right _).append_right _).trans balanced.placed

theorem observe (balanced : record.Balanced) (found : record.book.get? id = some trail)
    (price : Decimal) :
    { record with book := record.book.put id (trail.feed price).1 }.Balanced where
  numbered := balanced.numbered
  distinct := balanced.distinct
  placed := balanced.placed_put found _
  kept _ _ entry := balanced.kept_put found price entry
  spent := by
    intro other active entry reported
    change (record.book.put id (trail.feed price).1).get? other = some active at entry
    rw [TrailBook.get?_put] at entry
    split at entry
    · rename_i same
      obtain rfl := Option.some.inj entry
      have triggered := balanced.spent id trail found (same ▸ reported)
      rw [Trail.feed_of_triggered triggered]
      exact triggered
    · exact balanced.spent other active entry reported
  reportedArmed := balanced.reportedArmed
  reportedOnce := balanced.reportedOnce
  closed := balanced.closed_of_subset (List.Subset.refl _) (List.Subset.refl _)

/-- The price that triggers a trail is the first one that is reported of it. -/
theorem report (balanced : record.Balanced) {price stop : Decimal}
    (found : record.book.get? id = some trail)
    (reaction : (trail.feed price).2 = .ok (.triggered stop)) :
    (record.report (record.book.put id (trail.feed price).1) id stop).Balanced where
  numbered := balanced.numbered
  distinct := balanced.distinct
  placed := balanced.placed_put found _
  kept _ _ entry := balanced.kept_put found price entry
  spent := by
    intro other active entry reported
    change (record.book.put id (trail.feed price).1).get? other = some active at entry
    rw [TrailBook.get?_put] at entry
    split at entry
    · obtain rfl := Option.some.inj entry
      exact (Trail.feed_triggered (Prod.ext rfl reaction)).2
    · rename_i different
      refine balanced.spent other active entry ?_
      simpa [TrailRecord.report, different] using reported
  reportedArmed := by
    intro other reported
    rw [TrailRecord.report, List.map_append] at reported
    rcases List.mem_append.mp reported with earlier | latest
    · exact balanced.reportedArmed other earlier
    · obtain rfl := List.mem_singleton.mp latest
      exact balanced.active_armed found
  reportedOnce := by
    have waiting : trail.triggered = false := (Trail.feed_triggered (Prod.ext rfl reaction)).1
    have unreported : id ∉ record.reports.map Prod.fst := by
      intro reported
      rw [balanced.spent id trail found reported] at waiting
      cases waiting
    rw [TrailRecord.report, List.map_append]
    exact balanced.reportedOnce.append (List.nodup_singleton _) (by simpa using unreported)
  closed := balanced.closed_of_subset (List.Subset.refl _) (List.subset_append_left _ _)

end Balanced

end TrailRecord

/-! ## Steps of ticks -/

namespace TickTask.Change

variable {record later : TrailRecord} {task next : TickTask}

theorem reports_subset (change : Change record task later next) :
    record.reports ⊆ later.reports := by
  cases change with
  | quiet => exact List.Subset.refl _
  | observed => exact List.Subset.refl _
  | reported => exact List.subset_append_left _ _
  | fires => exact List.Subset.refl _

/-- A tick that is to fire a trail has reported the stop. -/
theorem awaited (change : Change record task later next)
    (before : ∀ id stop, task.phase = .firing id stop → (id, stop) ∈ record.reports) :
    ∀ id stop, next.phase = .firing id stop → (id, stop) ∈ later.reports := by
  intro id stop firing
  cases change with
  | quiet phase => exact before id stop (phase id stop firing)
  | observed found silent phase => exact absurd firing (phase id stop)
  | reported found reports phase =>
    obtain ⟨rfl, rfl⟩ : _ = id ∧ _ = stop := by simpa [phase] using firing
    exact List.mem_append_right _ (List.mem_singleton.mpr rfl)
  | fires found awaited phase => exact absurd firing (phase id stop)

/-- A report that a step adds is one that the tick itself is to act on. -/
theorem reported_or_awaited (change : Change record task later next) {id : String}
    {stop : Decimal} (reported : (id, stop) ∈ later.reports) :
    (id, stop) ∈ record.reports ∨ next.phase = .firing id stop := by
  cases change with
  | quiet => exact .inl reported
  | observed => exact .inl reported
  | reported found reports phase =>
    rcases List.mem_append.mp reported with earlier | latest
    · exact .inl earlier
    · obtain ⟨rfl, rfl⟩ := Prod.mk.inj (List.mem_singleton.mp latest)
      exact .inr phase
  | fires => exact .inl reported

/-- A step brings no trail into the book. -/
theorem gone_of_gone (change : Change record task later next) {id : String}
    (gone : record.book.get? id = none) : later.book.get? id = none := by
  have afterPut {other : String} {trail : Trail} (found : record.book.get? other = some trail)
      (fed : Trail) : (record.book.put other fed).get? id = none := by
    rw [TrailBook.get?_put, if_neg, gone]
    rintro rfl
    rw [gone] at found
    cases found
  cases change with
  | quiet => exact gone
  | observed found => exact afterPut found _
  | reported found => exact afterPut found _
  | fires =>
    show (record.book.remove _).1.get? id = none
    rw [TrailBook.get?_remove, gone, ite_self]

/-- A tick counts the trails that it takes out to fire them. -/
theorem counted (change : Change record task later next) :
    next.fired + record.triggered.length = task.fired + later.triggered.length := by
  cases change with
  | quiet phase fired => rw [fired]
  | observed found silent phase fired => rw [fired]
  | reported found reports phase fired => rw [fired]; rfl
  | fires found awaited phase fired =>
    rw [fired, TrailRecord.fire, List.length_append, List.length_singleton]
    omega

theorem balanced (change : Change record task later next) (balanced : record.Balanced)
    (before : ∀ id stop, task.phase = .firing id stop → (id, stop) ∈ record.reports) :
    later.Balanced := by
  cases change with
  | quiet => exact balanced
  | observed found => exact balanced.observe found _
  | reported found reports => exact balanced.report found reports
  | fires awaited found => exact balanced.fire found (before _ _ awaited)

end TickTask.Change

/-! ## Runs of a desk -/

namespace Desk

/-- One of some ticks is to fire a trail at a stop. -/
def IsAwaited (ticks : List TickTask) (id : String) (stop : Decimal) : Prop :=
  ∃ (number : Nat) (task : TickTask), ticks[number]? = some task ∧ task.phase = .firing id stop

/-- What a desk keeps to in every run. -/
structure Orderly (desk : Desk) : Prop where
  balanced : desk.record.Balanced
  awaited : ∀ task ∈ desk.ticks, ∀ id stop, task.phase = .firing id stop →
    (id, stop) ∈ desk.record.reports
  /-- No report is forgotten as long as its trail is in the book. -/
  pending : ∀ id stop, (id, stop) ∈ desk.record.reports →
    desk.record.book.get? id ≠ none → IsAwaited desk.ticks id stop
  counted : (desk.ticks.map TickTask.fired).sum = desk.record.triggered.length

theorem orderly_empty : empty.Orderly where
  balanced := TrailRecord.balanced_empty
  awaited := by simp [empty]
  pending := by simp [empty, TrailRecord.empty]
  counted := rfl

variable {desk : Desk} {number : Nat} {task : TickTask}

/-- A new tick has fired nothing and waits for nothing. -/
theorem Orderly.start (orderly : desk.Orderly) (ids : List String) :
    (desk.step (.start ids)).Orderly where
  balanced := orderly.balanced
  awaited := by
    intro task member
    rcases List.mem_append.mp member with earlier | latest
    · exact orderly.awaited task earlier
    · obtain rfl := List.mem_singleton.mp latest
      intro id stop firing
      cases firing
  pending := by
    intro id stop reported active
    obtain ⟨number, task, started, awaits⟩ := orderly.pending id stop reported active
    have bound := (List.getElem?_eq_some_iff.mp started).1
    exact ⟨number, task, (List.getElem?_append_left bound).trans started, awaits⟩
  counted := by
    have nothing : (TickTask.starting ids).fired = 0 := rfl
    show ((desk.ticks ++ [TickTask.starting ids]).map TickTask.fired).sum = _
    rw [List.map_append, List.map_singleton, nothing, List.sum_append, List.sum_singleton]
    exact orderly.counted

/-- The ticks together count what each of them does. -/
theorem fired_set (started : desk.ticks[number]? = some task) (next : TickTask) :
    ((desk.ticks.set number next).map TickTask.fired).sum + task.fired =
      (desk.ticks.map TickTask.fired).sum + next.fired := by
  obtain ⟨bound, here⟩ := List.getElem?_eq_some_iff.mp started
  obtain ⟨first, rest, ticks_eq, -, set_eq⟩ := @List.exists_of_set _ number next desk.ticks bound
  rw [here] at ticks_eq
  rw [set_eq, ticks_eq]
  simp only [List.map_append, List.map_cons, List.sum_append, List.sum_cons]
  omega

theorem Orderly.tick (orderly : desk.Orderly) (started : desk.ticks[number]? = some task)
    (input : TickInput) :
    Orderly {
      record := (task.step desk.record input).1
      ticks := desk.ticks.set number (task.step desk.record input).2 } := by
  have change := task.step_change desk.record input
  have before := orderly.awaited task (List.mem_of_getElem? started)
  have bound := (List.getElem?_eq_some_iff.mp started).1
  refine ⟨change.balanced orderly.balanced before, ?_, ?_, ?_⟩
  · intro other otherMember id stop firing
    rcases List.mem_or_eq_of_mem_set otherMember with earlier | rfl
    · exact change.reports_subset (orderly.awaited other earlier id stop firing)
    · exact change.awaited before id stop firing
  · intro id stop reported active
    rcases change.reported_or_awaited reported with earlier | awaits
    · have wasActive : desk.record.book.get? id ≠ none :=
        fun gone => active (change.gone_of_gone gone)
      obtain ⟨other, waiting, otherStarted, awaits⟩ := orderly.pending id stop earlier wasActive
      by_cases same : number = other
      · obtain rfl : task = waiting := Option.some.inj (started.symm.trans (same ▸ otherStarted))
        have awaitsStill := (task.step_awaits_or_gone desk.record input awaits).resolve_right active
        exact ⟨number, _, List.getElem?_set_self bound, awaitsStill⟩
      · exact ⟨other, waiting, (List.getElem?_set_ne same).trans otherStarted, awaits⟩
    · exact ⟨number, _, List.getElem?_set_self bound, awaits⟩
  · have total := fired_set started (task.step desk.record input).2
    have step := change.counted
    rw [orderly.counted] at total
    dsimp only
    omega

theorem Orderly.step (orderly : desk.Orderly) (event : DeskEvent) :
    (desk.step event).Orderly := by
  cases event with
  | arm now symbol side percent absolute quantity linkedOrder =>
    unfold Desk.step
    dsimp only
    split
    · exact orderly
    · rename_i book id added
      refine ⟨orderly.balanced.arm added, orderly.awaited, ?_, orderly.counted⟩
      intro other stop reported active
      have armed := orderly.balanced.reportedArmed other (List.mem_map_of_mem reported)
      refine orderly.pending other stop reported ?_
      rw [← orderly.balanced.get?_of_arm added armed]
      exact active
  | remove id =>
    unfold Desk.step
    dsimp only
    split
    · exact orderly
    · rename_i trail found
      refine ⟨orderly.balanced.remove found, orderly.awaited, ?_, orderly.counted⟩
      intro other stop reported active
      refine orderly.pending other stop reported fun gone => active ?_
      show (desk.record.book.remove id).1.get? other = none
      rw [TrailBook.get?_remove, gone, ite_self]
  | start ids => exact orderly.start ids
  | tick number input =>
    unfold Desk.step
    dsimp only
    split
    · exact orderly
    · rename_i task started
      exact orderly.tick started input

theorem Orderly.run (orderly : desk.Orderly) (events : List DeskEvent) :
    (desk.run events).Orderly := by
  induction events generalizing desk with
  | nil => exact orderly
  | cons event rest inductionHypothesis => exact inductionHypothesis (orderly.step event)

/-- The step with which a tick takes out the trail that it is to fire. -/
theorem step_take (started : desk.ticks[number]? = some task) {id : String} {stop : Decimal}
    (awaits : task.phase = .firing id stop) :
    (desk.step (.tick number .take)).record = (task.fire desk.record id stop).1 := by
  obtain ⟨todo, phase, outcomes⟩ := task
  obtain rfl : phase = .firing id stop := awaits
  unfold step
  dsimp only
  rw [started]
  rfl

/-- Whatever trails are armed and removed while any ticks run side by side, with any prices and
any answers to orders, at every moment: no two trails were armed with one id; each armed trail
is active, was removed or was triggered, and only one of them, once; one order was submitted
for each triggered trail, in the same sequence, which closes the position of that trail at the
stop of the one report on it, and no other order was; the ticks have counted as many triggers.
For each report on a trail that is still active, a tick is to fire that trail at its stop.  With
its next step this tick takes the trail out and submits its order, or does neither if another one
has taken it out before.  An answer changes neither the trails nor the orders, so an order that
fails is not made up for. -/
theorem run_fires_once (events : List DeskEvent) :
    let desk := empty.run events
    let record := desk.record
    let armedIds := record.armed.map TrailTerms.id
    armedIds.Nodup ∧
    (record.book.trails.keys ++ record.removed ++ record.triggered).Perm armedIds ∧
    record.book.size + record.removed.length + record.triggered.length = record.armed.length ∧
    (record.reports.map Prod.fst).Nodup ∧
    List.Forall₂ (fun id ticket => ∃ terms ∈ record.armed, ∃ stop,
        terms.id = id ∧ (id, stop) ∈ record.reports ∧
        ticket = {
          clientKey := "trail:" ++ id
          symbol := terms.symbol
          side := terms.side.flip
          orderKind := .stopMarket
          quantity := terms.quantity
          price := none
          stopPrice := some stop
          timeInForce := .goodTillCanceled
          strategyId := terms.linkedOrder.map OrderId.text })
      record.triggered record.submitted ∧
    (desk.ticks.map TickTask.fired).sum = record.triggered.length ∧
    (∀ id stop, (id, stop) ∈ record.reports → record.book.get? id ≠ none →
      ∃ (number : Nat) (task : TickTask),
        desk.ticks[number]? = some task ∧ task.phase = .firing id stop) ∧
    (∀ (number : Nat) (task : TickTask) (id : String) (stop : Decimal),
      desk.ticks[number]? = some task → task.phase = .firing id stop →
      let taken := (desk.step (.tick number .take)).record
      (∀ trail, record.book.get? id = some trail →
        taken.book.get? id = none ∧ taken.triggered = record.triggered ++ [id] ∧
          taken.submitted = record.submitted ++ [trail.protectiveOrder stop]) ∧
      (record.book.get? id = none → taken = record)) ∧
    ∀ number answer, (desk.step (.tick number (.answer answer))).record = record := by
  intro desk record armedIds
  have orderly : desk.Orderly := orderly_empty.run events
  have balanced : record.Balanced := orderly.balanced
  refine ⟨balanced.distinct, balanced.placed, ?_, balanced.reportedOnce, ?_, orderly.counted,
    orderly.pending, ?_, ?_⟩
  · have total := balanced.placed.length_eq
    rw [List.length_append, List.length_append, List.length_map] at total
    rw [← total, TrailBook.size, Dictionary.size, Dictionary.keys, List.length_map]
  · refine balanced.closed.imp ?_
    rintro id ticket ⟨terms, armed, stop, rfl, reported, ticket_eq⟩
    exact ⟨terms, armed, stop, rfl, reported, ticket_eq⟩
  · intro number task id stop started awaits taken
    have takes : taken = (task.fire record id stop).1 := step_take started awaits
    refine ⟨fun trail found => ?_, fun gone => ?_⟩
    · rw [takes, TickTask.fire_of_found found]
      exact ⟨(TrailBook.get?_remove _ _ _).trans (if_pos rfl), rfl, rfl⟩
    · rw [takes, TickTask.fire_of_gone gone]
  · intro number answer
    unfold step
    dsimp only
    split
    · rfl
    · rename_i task started
      exact task.step_answer_record desk.record answer

end Desk

end OrderKeeper
