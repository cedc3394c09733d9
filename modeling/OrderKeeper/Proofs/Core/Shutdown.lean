import OrderKeeper.Core.Lifecycle
import OrderKeeper.Paper.Core

/-!
Contract: the core over its whole life, in whatever order it is started and shut down.

Owns: the steps of all who use a core, the agreement of these steps with the core's own stop,
and what holds whenever every shutdown call has returned.

Does not own: the order in which signals leave the queue.

A shutdown call waits for the daemons, and anything may happen while it waits.  A call that
finds another one under way, or done, returns at once.  So the start of a core that is down
already hands its bus to a dispatcher that no later call stops.
-/

set_option autoImplicit false

namespace OrderKeeper

variable {World : Type}

/-! ## Steps -/

/-- A core with its shutdown calls and the signals that its bus was handed. -/
structure Lifetime (World : Type) where
  core : Core World
  /-- A shutdown call waits for the daemons. -/
  isWaiting : Bool
  /-- A shutdown call has returned. -/
  hasReturned : Bool
  handed : List Signal

inductive LifetimeEvent where
  | start (clock : Nat) (bus : Option Bus)
  | shutdown
  /-- The shutdown call that waits looks whether the daemons have ended. -/
  | shutdownResumes
  | daemonPass (now : Instant) (daemon : Daemon)
  /-- A daemon sees the shutdown between two passes. -/
  | daemonEnds (daemon : Daemon)
  | put (signal : Signal)
  /-- It is the dispatcher's turn. -/
  | dispatch (now : Instant)

/-- Whether an event is a start call. -/
def LifetimeEvent.isStart : LifetimeEvent → Bool
  | .start _ _ => true
  | _ => false

namespace Core

/-- A daemon is no longer there. -/
def endDaemon (core : Core World) (daemon : Daemon) : Core World :=
  { core with daemons := core.daemons.filter fun timer => timer.daemon ≠ daemon }

theorem foldl_endDaemon (core : Core World) (daemons : List Daemon) :
    daemons.foldl endDaemon core =
      { core with daemons := core.daemons.filter fun timer => timer.daemon ∉ daemons } := by
  induction daemons generalizing core with
  | nil =>
      have all : core.daemons.filter (fun timer => timer.daemon ∉ ([] : List Daemon)) =
          core.daemons := List.filter_eq_self.mpr (by simp)
      rw [all]
      rfl
  | cons daemon rest inductionHypothesis =>
      rw [List.foldl_cons, inductionHypothesis]
      simp [endDaemon, List.filter_filter, Bool.and_comm]

/-- Once each of its daemons has ended, a core has none. -/
theorem foldl_endDaemon_all (core : Core World) :
    Daemon.inStartOrder.foldl endDaemon core = { core with daemons := [] } := by
  have all : ∀ daemon : Daemon, daemon ∈ Daemon.inStartOrder := by
    intro daemon
    cases daemon <;> decide
  rw [foldl_endDaemon]
  simp [all]

/-- The dispatcher, if it runs, takes one signal, if there is one. -/
def dispatchTurn (core : Core World) (now : Instant) : Core World × Option Dispatch :=
  match core.dispatcher with
  | none => (core, none)
  | some bus =>
      match dispatchNext bus now core.queue with
      | none => (core, none)
      | some (dispatch, queue) =>
          ({ core with queue, counters := core.counters.addDispatch dispatch }, some dispatch)

theorem dispatch_daemons (core : Core World) (now : Instant) :
    (core.dispatch now).1.daemons = core.daemons := by
  unfold dispatch
  cases core.dispatcher <;> rfl

/-- The start of a core that was not started. -/
theorem start_of_unstarted {core : Core World} (clock : Nat) (bus : Option Bus)
    (unstarted : core.started = false) (noDispatcher : core.dispatcher = none) :
    core.start clock bus =
      { core with
        started := true
        daemons :=
          if core.stopping then [] else Daemon.inStartOrder.map fun daemon => ⟨daemon, clock⟩
        dispatcher := bus } := by
  cases bus <;> simp [start, startDispatcher, unstarted, noDispatcher]

end Core

namespace Lifetime

def fresh (core : Core World) : Lifetime World where
  core := core
  isWaiting := false
  hasReturned := false
  handed := []

/-- A shutdown call that is not the first returns at once. -/
def shutdown (lifetime : Lifetime World) : Lifetime World :=
  if lifetime.core.stopping then { lifetime with hasReturned := true }
  else { lifetime with core := { lifetime.core with stopping := true }, isWaiting := true }

/-- Once the daemons have ended, the dispatcher is stopped and the call returns. -/
def resumeShutdown (lifetime : Lifetime World) : Lifetime World :=
  if lifetime.isWaiting && lifetime.core.daemons.isEmpty then
    { lifetime with core := lifetime.core.stopDispatcher, isWaiting := false, hasReturned := true }
  else lifetime

def passDaemon (lifetime : Lifetime World) (now : Instant) (daemon : Daemon) : Lifetime World :=
  if lifetime.core.daemons.any fun timer => timer.daemon = daemon then
    { lifetime with core := lifetime.core.runPass now daemon }
  else lifetime

def endDaemon (lifetime : Lifetime World) (daemon : Daemon) : Lifetime World :=
  if lifetime.core.stopping then { lifetime with core := lifetime.core.endDaemon daemon }
  else lifetime

def dispatch (lifetime : Lifetime World) (now : Instant) : Lifetime World :=
  let (core, dispatch) := lifetime.core.dispatchTurn now
  { lifetime with core, handed := lifetime.handed ++ (dispatch.bind Dispatch.handed?).toList }

def step (lifetime : Lifetime World) : LifetimeEvent → Lifetime World
  | .start clock bus => { lifetime with core := lifetime.core.start clock bus }
  | .shutdown => lifetime.shutdown
  | .shutdownResumes => lifetime.resumeShutdown
  | .daemonPass now daemon => lifetime.passDaemon now daemon
  | .daemonEnds daemon => lifetime.endDaemon daemon
  | .put signal => { lifetime with core := lifetime.core.enqueue signal }
  | .dispatch now => lifetime.dispatch now

def run (lifetime : Lifetime World) (events : List LifetimeEvent) : Lifetime World :=
  events.foldl step lifetime

theorem run_cons (lifetime : Lifetime World) (event : LifetimeEvent)
    (events : List LifetimeEvent) :
    lifetime.run (event :: events) = (lifetime.step event).run events :=
  rfl

theorem run_append (lifetime : Lifetime World) (earlier later : List LifetimeEvent) :
    lifetime.run (earlier ++ later) = (lifetime.run earlier).run later :=
  List.foldl_append

/-- An event that changes nothing changes nothing any number of times. -/
theorem run_replicate_of_stays {lifetime : Lifetime World} {event : LifetimeEvent}
    (stays : lifetime.step event = lifetime) (count : Nat) :
    lifetime.run (List.replicate count event) = lifetime := by
  induction count with
  | zero => rfl
  | succ count inductionHypothesis =>
      rw [List.replicate_succ, run_cons, stays, inductionHypothesis]

/-- A shutdown call has returned, and none is under way. -/
def IsDown (lifetime : Lifetime World) : Prop :=
  lifetime.hasReturned = true ∧ lifetime.isWaiting = false

/-- Whether a first start, with a bus, falls on a core that is down already. -/
def StartsLate (lifetime : Lifetime World) (events : List LifetimeEvent) : Prop :=
  ∃ earlier clock bus later, events = earlier ++ .start clock (some bus) :: later ∧
    (lifetime.run earlier).core.started = false ∧ (lifetime.run earlier).IsDown

/-! ## A stop is a shutdown call during which nothing else happens -/

/-- Daemons that see the shutdown end one after the other. -/
theorem run_daemonEnds (lifetime : Lifetime World) (stopping : lifetime.core.stopping = true)
    (daemons : List Daemon) :
    lifetime.run (daemons.map .daemonEnds) =
      { lifetime with core := daemons.foldl Core.endDaemon lifetime.core } := by
  induction daemons generalizing lifetime with
  | nil => rfl
  | cons daemon rest inductionHypothesis =>
      have ended : lifetime.step (.daemonEnds daemon) =
          { lifetime with core := lifetime.core.endDaemon daemon } := by
        simp [step, endDaemon, stopping]
      rw [List.map_cons, run_cons, ended]
      exact inductionHypothesis _ stopping

theorem run_dispatches (bus : Bus) (now : Instant) (count : Nat) (lifetime : Lifetime World)
    (isBus : lifetime.core.dispatcher = some bus) :
    let (dispatches, queue) := dispatchUpTo bus now count lifetime.core.queue
    lifetime.run (List.replicate count (.dispatch now)) =
      { lifetime with
        core := { lifetime.core with
          queue, counters := dispatches.foldl Counters.addDispatch lifetime.core.counters }
        handed := lifetime.handed ++ dispatches.filterMap Dispatch.handed? } := by
  induction count generalizing lifetime with
  | zero => simp [run, dispatchUpTo]
  | succ count inductionHypothesis =>
      rw [List.replicate_succ, run_cons]
      unfold dispatchUpTo
      cases next : dispatchNext bus now lifetime.core.queue with
      | none =>
          have stays : lifetime.step (.dispatch now) = lifetime := by
            simp [step, dispatch, Core.dispatchTurn, isBus, next]
          rw [stays, run_replicate_of_stays stays]
          simp
      | some taken =>
          obtain ⟨first, queue⟩ := taken
          have taken : lifetime.step (.dispatch now) =
              { lifetime with
                core := { lifetime.core with
                  queue, counters := lifetime.core.counters.addDispatch first }
                handed := lifetime.handed ++ first.handed?.toList } := by
            simp [step, dispatch, Core.dispatchTurn, isBus, next]
          have rest := inductionHypothesis (lifetime.step (.dispatch now))
            (by rw [taken]; exact isBus)
          rw [taken] at rest ⊢
          refine rest.trans ?_
          cases handed : first.handed? <;> simp [handed]

/-- The dispatcher's turns until the queue is empty. -/
theorem run_dispatch (now : Instant) (lifetime : Lifetime World) :
    lifetime.run (List.replicate lifetime.core.queue.size (.dispatch now)) =
      { lifetime with
        core := (lifetime.core.dispatch now).1
        handed := lifetime.handed ++
          (lifetime.core.dispatch now).2.filterMap Dispatch.handed? } := by
  cases isBus : lifetime.core.dispatcher with
  | some bus =>
      refine (run_dispatches bus now lifetime.core.queue.size lifetime isBus).trans ?_
      simp [Core.dispatch, isBus, dispatchAll]
  | none =>
      have stays : lifetime.step (.dispatch now) = lifetime := by
        simp [step, dispatch, Core.dispatchTurn, isBus]
      simp [run_replicate_of_stays stays, Core.dispatch, isBus]

/-- The core's own stop is a run: a shutdown call, the ends of the daemons, the turns of the
dispatcher while they end, and the return of the call. -/
theorem run_stop (core : Core World) (now : Instant) (isOpen : core.stopping = false) :
    let turns := if core.started then core.queue.size else 0
    let down := (fresh core).run (.shutdown :: Daemon.inStartOrder.map .daemonEnds ++
      (List.replicate turns (.dispatch now) ++ [.shutdownResumes]))
    down.IsDown ∧ down.core = (core.stop now).1 ∧
      down.handed = (core.stop now).2.filterMap Dispatch.handed? := by
  intro turns down
  let ending : Core World := { core with stopping := true, daemons := [] }
  let drained := if core.started then ending.dispatch now else (ending, [])
  have ended : (fresh core).run (.shutdown :: Daemon.inStartOrder.map .daemonEnds) =
      ⟨ending, true, false, []⟩ := by
    have called : (fresh core).step .shutdown =
        ⟨{ core with stopping := true }, true, false, []⟩ := by
      simp [step, shutdown, fresh, isOpen]
    rw [run_cons, called, run_daemonEnds _ rfl, Core.foldl_endDaemon_all]
  have emptied : Lifetime.run ⟨ending, true, false, []⟩ (List.replicate turns (.dispatch now)) =
      ⟨drained.1, true, false, drained.2.filterMap Dispatch.handed?⟩ := by
    cases started : core.started with
    | true => simpa [turns, drained, started] using run_dispatch now ⟨ending, true, false, []⟩
    | false => simp [turns, drained, started, run]
  have noDaemon : drained.1.daemons = [] := by
    cases started : core.started <;> simp [drained, started, ending, Core.dispatch_daemons]
  have isStop : core.stop now = (drained.1.stopDispatcher, drained.2) := by
    simp [Core.stop, isOpen, drained, ending]
  have isDown : down =
      ⟨drained.1.stopDispatcher, false, true, drained.2.filterMap Dispatch.handed?⟩ := by
    show Lifetime.run _ (_ ++ (_ ++ _)) = _
    rw [run_append, ended, run_append, emptied]
    simp [run, step, resumeShutdown, noDaemon]
  rw [isDown, isStop]
  exact ⟨⟨rfl, rfl⟩, rfl, rfl⟩

/-! ## What every step keeps -/

/-- The records of a core and of its shutdown calls agree.  A core that was not started has
neither daemons nor a dispatcher, and one on which nobody called a shutdown has none under way
or done.  Once the first shutdown call is over, a daemon is never there again. -/
structure IsSound (lifetime : Lifetime World) : Prop where
  idle : lifetime.core.started = false →
    lifetime.core.daemons = [] ∧ lifetime.core.dispatcher = none
  uncalled : lifetime.core.stopping = false →
    lifetime.isWaiting = false ∧ lifetime.hasReturned = false
  ended : lifetime.core.stopping = true → lifetime.isWaiting = false →
    lifetime.hasReturned = true ∧ lifetime.core.daemons = []

theorem IsSound.create (settings : Settings) (directory : VenueDirectory World)
    (broker : Broker World) (world : World) :
    (fresh (Core.create settings directory broker world)).IsSound where
  idle := fun _ => ⟨rfl, rfl⟩
  uncalled := fun _ => ⟨rfl, rfl⟩
  ended := fun stopping => nomatch stopping

/-- The calls, the daemons and the dispatcher are the same. -/
structure SameCalls (lifetime other : Lifetime World) : Prop where
  daemons : other.core.daemons = lifetime.core.daemons
  dispatcher : other.core.dispatcher = lifetime.core.dispatcher
  started : other.core.started = lifetime.core.started
  stopping : other.core.stopping = lifetime.core.stopping
  isWaiting : other.isWaiting = lifetime.isWaiting
  hasReturned : other.hasReturned = lifetime.hasReturned

theorem SameCalls.of_eq {lifetime other : Lifetime World} (same : other = lifetime) :
    lifetime.SameCalls other := by
  rw [same]
  exact ⟨rfl, rfl, rfl, rfl, rfl, rfl⟩

theorem sameCalls_passDaemon (lifetime : Lifetime World) (now : Instant) (daemon : Daemon) :
    lifetime.SameCalls (lifetime.passDaemon now daemon) := by
  unfold passDaemon
  split
  · cases daemon <;> exact ⟨rfl, rfl, rfl, rfl, rfl, rfl⟩
  · exact .of_eq rfl

theorem sameCalls_dispatch (lifetime : Lifetime World) (now : Instant) :
    lifetime.SameCalls (lifetime.dispatch now) := by
  cases isBus : lifetime.core.dispatcher with
  | none => exact .of_eq (by simp [dispatch, Core.dispatchTurn, isBus])
  | some bus =>
      cases next : dispatchNext bus now lifetime.core.queue with
      | none => exact .of_eq (by simp [dispatch, Core.dispatchTurn, isBus, next])
      | some taken => constructor <;> simp [dispatch, Core.dispatchTurn, isBus, next]

/-- All that a step can do to the calls, the daemons and the dispatcher. -/
theorem step_cases (lifetime : Lifetime World) (event : LifetimeEvent) :
    (lifetime.SameCalls (lifetime.step event) ∧
        (event.isStart = true → lifetime.core.started = true)) ∨
      (∃ clock bus, event = .start clock bus ∧ lifetime.core.started = false) ∨
      (event = .shutdown ∧ lifetime.core.stopping = false ∧
        lifetime.step event =
          { lifetime with core := { lifetime.core with stopping := true }, isWaiting := true }) ∨
      (event = .shutdown ∧ lifetime.core.stopping = true ∧
        lifetime.step event = { lifetime with hasReturned := true }) ∨
      (event = .shutdownResumes ∧ lifetime.isWaiting = true ∧ lifetime.core.daemons = [] ∧
        lifetime.step event =
          { lifetime with
            core := lifetime.core.stopDispatcher, isWaiting := false, hasReturned := true }) ∨
      (∃ daemon, event = .daemonEnds daemon ∧ lifetime.core.stopping = true ∧
        lifetime.step event = { lifetime with core := lifetime.core.endDaemon daemon }) := by
  cases event with
  | start clock bus =>
      cases started : lifetime.core.started with
      | false => exact .inr (.inl ⟨clock, bus, rfl, rfl⟩)
      | true => exact .inl ⟨.of_eq (by simp [step, Core.start, started]), fun _ => rfl⟩
  | shutdown =>
      cases stopping : lifetime.core.stopping with
      | false => exact .inr (.inr (.inl ⟨rfl, rfl, by simp [step, shutdown, stopping]⟩))
      | true => exact .inr (.inr (.inr (.inl ⟨rfl, rfl, by simp [step, shutdown, stopping]⟩)))
  | shutdownResumes =>
      by_cases allEnded : (lifetime.isWaiting && lifetime.core.daemons.isEmpty) = true
      · obtain ⟨waiting, noDaemon⟩ := Bool.and_eq_true_iff.mp allEnded
        refine .inr (.inr (.inr (.inr (.inl ⟨rfl, waiting, List.isEmpty_iff.mp noDaemon, ?_⟩))))
        exact if_pos allEnded
      · exact .inl ⟨.of_eq (if_neg allEnded), fun isStart => nomatch isStart⟩
  | daemonPass now daemon =>
      exact .inl ⟨lifetime.sameCalls_passDaemon now daemon, fun isStart => nomatch isStart⟩
  | daemonEnds daemon =>
      cases stopping : lifetime.core.stopping with
      | false =>
          exact .inl ⟨.of_eq (by simp [step, endDaemon, stopping]), fun isStart => nomatch isStart⟩
      | true =>
          exact .inr (.inr (.inr (.inr (.inr
            ⟨daemon, rfl, rfl, by simp [step, endDaemon, stopping]⟩))))
  | put signal =>
      exact .inl ⟨⟨rfl, rfl, rfl, rfl, rfl, rfl⟩, fun isStart => nomatch isStart⟩
  | dispatch now =>
      exact .inl ⟨lifetime.sameCalls_dispatch now, fun isStart => nomatch isStart⟩

section Sound

variable {lifetime : Lifetime World}

theorem IsSound.step (sound : lifetime.IsSound) (event : LifetimeEvent) :
    (lifetime.step event).IsSound := by
  obtain ⟨same, -⟩ | ⟨clock, bus, rfl, unstarted⟩ | ⟨rfl, isOpen, called⟩ |
    ⟨rfl, stopping, called⟩ | ⟨rfl, waiting, noDaemon, returned⟩ | ⟨daemon, rfl, stopping, ended⟩ :=
      lifetime.step_cases event
  · exact ⟨by rw [same.started, same.daemons, same.dispatcher]; exact sound.idle,
      by rw [same.stopping, same.isWaiting, same.hasReturned]; exact sound.uncalled,
      by rw [same.stopping, same.isWaiting, same.hasReturned, same.daemons]; exact sound.ended⟩
  · show IsSound { lifetime with core := lifetime.core.start clock bus }
    rw [Core.start_of_unstarted clock bus unstarted (sound.idle unstarted).2]
    exact ⟨fun stillUnstarted => (nomatch stillUnstarted), sound.uncalled,
      fun stopping returned => ⟨(sound.ended stopping returned).1, if_pos stopping⟩⟩
  · rw [called]
    exact ⟨sound.idle, fun isOpen => (nomatch isOpen), fun _ notWaiting => (nomatch notWaiting)⟩
  · rw [called]
    refine ⟨sound.idle, fun isOpen => ?_, fun _ notWaiting => ?_⟩
    · rw [stopping] at isOpen
      cases isOpen
    · exact ⟨rfl, (sound.ended stopping notWaiting).2⟩
  · rw [returned]
    refine ⟨fun unstarted => ⟨noDaemon, rfl⟩, fun isOpen => ?_, fun _ _ => ⟨rfl, noDaemon⟩⟩
    have notWaiting := (sound.uncalled isOpen).1
    rw [waiting] at notWaiting
    cases notWaiting
  · rw [ended]
    refine ⟨fun unstarted => ?_, sound.uncalled, fun _ notWaiting => ?_⟩
    · obtain ⟨noDaemon, noDispatcher⟩ := sound.idle unstarted
      exact ⟨by simp [Core.endDaemon, noDaemon], noDispatcher⟩
    · obtain ⟨returned, noDaemon⟩ := sound.ended stopping notWaiting
      exact ⟨returned, by simp [Core.endDaemon, noDaemon]⟩

theorem IsSound.run (sound : lifetime.IsSound) (events : List LifetimeEvent) :
    (lifetime.run events).IsSound := by
  induction events generalizing lifetime with
  | nil => exact sound
  | cons event rest inductionHypothesis => exact inductionHypothesis (sound.step event)

theorem IsSound.stopping_of_isDown (sound : lifetime.IsSound) (isDown : lifetime.IsDown) :
    lifetime.core.stopping = true := by
  cases stopping : lifetime.core.stopping with
  | true => rfl
  | false =>
      have notReturned := (sound.uncalled stopping).2
      rw [isDown.1] at notReturned
      cases notReturned

/-! ## The dispatcher of a core that is down -/

/-- A dispatcher comes to be on a core that is down by a first start with a bus only, and then
it stays. -/
theorem IsSound.step_isDown_and_dispatching (sound : lifetime.IsSound) (event : LifetimeEvent) :
    (lifetime.step event).IsDown ∧ (lifetime.step event).core.isDispatching = true ↔
      (lifetime.IsDown ∧ lifetime.core.isDispatching = true) ∨
      ∃ clock bus, event = .start clock (some bus) ∧ lifetime.core.started = false ∧
        lifetime.IsDown := by
  obtain ⟨same, noFirst⟩ | ⟨clock, bus, rfl, unstarted⟩ | ⟨rfl, isOpen, called⟩ |
    ⟨rfl, stopping, called⟩ | ⟨rfl, waiting, noDaemon, returned⟩ | ⟨daemon, rfl, stopping, ended⟩ :=
      lifetime.step_cases event
  · unfold IsDown Core.isDispatching
    rw [same.isWaiting, same.hasReturned, same.dispatcher]
    refine ⟨.inl, fun dispatching => dispatching.resolve_right ?_⟩
    rintro ⟨clock, bus, rfl, unstarted, -⟩
    rw [noFirst rfl] at unstarted
    cases unstarted
  · obtain ⟨-, noDispatcher⟩ := sound.idle unstarted
    show lifetime.IsDown ∧ (lifetime.core.start clock bus).isDispatching = true ↔ _
    rw [Core.start_of_unstarted clock bus unstarted noDispatcher]
    cases bus <;> simp [Core.isDispatching, noDispatcher, unstarted]
  · have notReturned := (sound.uncalled isOpen).2
    rw [called]
    simp [IsDown, notReturned]
  · have sameDown : IsDown { lifetime with hasReturned := true } ↔ lifetime.IsDown :=
      ⟨fun isDown => ⟨(sound.ended stopping isDown.2).1, isDown.2⟩, fun isDown => ⟨rfl, isDown.2⟩⟩
    rw [called, sameDown]
    simp
  · rw [returned]
    simp [IsDown, waiting, Core.isDispatching, Core.stopDispatcher]
  · rw [ended]
    simp [IsDown, Core.endDaemon, Core.isDispatching]

theorem startsLate_cons (event : LifetimeEvent) (events : List LifetimeEvent) :
    lifetime.StartsLate (event :: events) ↔
      (∃ clock bus, event = .start clock (some bus) ∧ lifetime.core.started = false ∧
        lifetime.IsDown) ∨ (lifetime.step event).StartsLate events := by
  constructor
  · rintro ⟨earlier, clock, bus, later, parts, unstarted, isDown⟩
    cases earlier with
    | nil =>
        obtain ⟨rfl, -⟩ := List.cons.inj parts
        exact .inl ⟨clock, bus, rfl, unstarted, isDown⟩
    | cons first others =>
        obtain ⟨rfl, rest⟩ := List.cons.inj parts
        exact .inr ⟨others, clock, bus, later, rest, unstarted, isDown⟩
  · rintro (⟨clock, bus, rfl, unstarted, isDown⟩ |
      ⟨earlier, clock, bus, later, rfl, unstarted, isDown⟩)
    · exact ⟨[], clock, bus, events, rfl, unstarted, isDown⟩
    · exact ⟨event :: earlier, clock, bus, later, rfl, unstarted, isDown⟩

theorem IsSound.run_isDown_and_dispatching (sound : lifetime.IsSound)
    (events : List LifetimeEvent) :
    (lifetime.run events).IsDown ∧ (lifetime.run events).core.isDispatching = true ↔
      (lifetime.IsDown ∧ lifetime.core.isDispatching = true) ∨ lifetime.StartsLate events := by
  induction events generalizing lifetime with
  | nil =>
      have notLate : ¬ lifetime.StartsLate [] := by
        rintro ⟨earlier, clock, bus, later, parts, -⟩
        simp at parts
      exact ⟨.inl, fun dispatching => dispatching.resolve_right notLate⟩
  | cons event rest inductionHypothesis =>
      rw [run_cons, inductionHypothesis (sound.step event), sound.step_isDown_and_dispatching,
        startsLate_cons, or_assoc]

/-! ## The bus of a core without a dispatcher -/

/-- Without a dispatcher, and until a start, no signal is handed to a bus. -/
theorem step_without_dispatcher (noDispatcher : lifetime.core.dispatcher = none)
    {event : LifetimeEvent} (noStart : event.isStart = false) :
    (lifetime.step event).core.dispatcher = none ∧
      (lifetime.step event).handed = lifetime.handed := by
  cases event with
  | start clock bus => cases noStart
  | put signal => exact ⟨noDispatcher, rfl⟩
  | dispatch now => simp [step, dispatch, Core.dispatchTurn, noDispatcher]
  | daemonPass now daemon =>
      refine ⟨(lifetime.sameCalls_passDaemon now daemon).dispatcher.trans noDispatcher, ?_⟩
      show (lifetime.passDaemon now daemon).handed = lifetime.handed
      unfold passDaemon
      split <;> rfl
  | shutdown =>
      show (lifetime.shutdown).core.dispatcher = none ∧ lifetime.shutdown.handed = lifetime.handed
      unfold shutdown
      split <;> exact ⟨noDispatcher, rfl⟩
  | shutdownResumes =>
      show lifetime.resumeShutdown.core.dispatcher = none ∧
        lifetime.resumeShutdown.handed = lifetime.handed
      unfold resumeShutdown
      split
      · exact ⟨rfl, rfl⟩
      · exact ⟨noDispatcher, rfl⟩
  | daemonEnds daemon =>
      show (lifetime.endDaemon daemon).core.dispatcher = none ∧
        (lifetime.endDaemon daemon).handed = lifetime.handed
      unfold endDaemon
      split <;> exact ⟨noDispatcher, rfl⟩

theorem run_without_dispatcher (noDispatcher : lifetime.core.dispatcher = none)
    {events : List LifetimeEvent} (noStart : ∀ event ∈ events, event.isStart = false) :
    (lifetime.run events).handed = lifetime.handed := by
  induction events generalizing lifetime with
  | nil => rfl
  | cons event rest inductionHypothesis =>
      obtain ⟨first, others⟩ := List.forall_mem_cons.mp noStart
      obtain ⟨stillNone, sameHanded⟩ := step_without_dispatcher noDispatcher first
      exact (inductionHypothesis stillNone others).trans sameHanded

end Sound

/-- Start calls, shutdown calls, passes, producers and the dispatcher in any order.  Whenever a
shutdown call has returned and none is under way, no daemon is left and the core does not run.
A dispatcher is left just if the core was first started, with a bus, when it was down already.
If it was not, no signal is handed to a bus until the next start. -/
theorem run_ends_with_shutdown (settings : Settings) (directory : VenueDirectory World)
    (broker : Broker World) (world : World) (events : List LifetimeEvent) :
    let first := fresh (Core.create settings directory broker world)
    let lifetime := first.run events
    lifetime.IsDown →
      lifetime.core.daemons = [] ∧ lifetime.core.isRunning = false ∧
      (lifetime.core.isDispatching = true ↔ first.StartsLate events) ∧
      (¬ first.StartsLate events → ∀ later, (∀ event ∈ later, event.isStart = false) →
        (lifetime.run later).handed = lifetime.handed) := by
  intro first lifetime isDown
  have soundFirst : first.IsSound := .create settings directory broker world
  have sound : lifetime.IsSound := soundFirst.run events
  have stopping : lifetime.core.stopping = true := sound.stopping_of_isDown isDown
  have dispatching : lifetime.core.isDispatching = true ↔ first.StartsLate events := by
    have notDown : ¬ first.IsDown := fun isDown => nomatch isDown.1
    have both := soundFirst.run_isDown_and_dispatching events
    rw [or_iff_right fun left => notDown left.1] at both
    exact ⟨fun dispatching => both.mp ⟨isDown, dispatching⟩, fun late => (both.mpr late).2⟩
  refine ⟨(sound.ended stopping isDown.2).2, by simp [Core.isRunning, stopping], dispatching,
    fun notLate later noStart => run_without_dispatcher ?_ noStart⟩
  rw [← dispatching] at notLate
  exact Option.not_isSome_iff_eq_none.mp notLate

/-- A paper core is started and shut down while a signal waits; one that comes later stays. -/
theorem shut_down_core_hands_nothing :
    let first := fresh (PaperCore.create (PaperCore.numberedId "paper") Settings.default)
    let signal : Signal := ⟨"t", .null, .zero, none, none⟩
    let bus : Bus := fun _ => .accepted
    let events : List LifetimeEvent := [.start 0 (some bus), .put signal, .shutdown,
      .daemonEnds .pairs, .shutdownResumes, .dispatch ⟨0, 0⟩, .daemonEnds .trailing, .shutdown,
      .daemonEnds .reconcile, .shutdownResumes]
    let lifetime := first.run events
    lifetime.IsDown ∧ ¬ first.StartsLate events ∧ lifetime.core.daemons = [] ∧
      lifetime.core.isRunning = false ∧ lifetime.handed = [signal] ∧
      (lifetime.run [.put signal, .shutdown, .dispatch ⟨1, 0⟩]).handed = [signal] := by
  intro first signal bus events lifetime
  have isDown : lifetime.IsDown := ⟨rfl, rfl⟩
  obtain ⟨noDaemon, notRunning, dispatching, quiet⟩ :=
    run_ends_with_shutdown Settings.default (PaperMarket.directory Settings.default.paperVenues)
      (PaperMarket.broker (PaperCore.numberedId "paper") Settings.default.paperVenues).toBroker
      (.ofNames Settings.default.paperVenues) events isDown
  have notLate : ¬ first.StartsLate events := fun late => nomatch dispatching.mpr late
  exact ⟨isDown, notLate, noDaemon, notRunning, rfl, quiet notLate _ (by decide)⟩

/-- A core that is shut down before it is started: it is down again after a second shutdown call
has returned, and its dispatcher hands what comes then to the bus. -/
theorem late_start_leaves_dispatcher :
    let first := fresh (PaperCore.create (PaperCore.numberedId "paper") Settings.default)
    let signal : Signal := ⟨"t", .null, .zero, none, none⟩
    let bus : Bus := fun _ => .accepted
    let lifetime := first.run [.shutdown, .shutdownResumes, .start 0 (some bus), .shutdown]
    lifetime.IsDown ∧ lifetime.core.isDispatching = true ∧ lifetime.handed = [] ∧
      (lifetime.run [.put signal, .dispatch ⟨1, 0⟩]).handed = [signal] :=
  ⟨⟨rfl, rfl⟩, rfl, rfl, rfl⟩

end Lifetime

end OrderKeeper
