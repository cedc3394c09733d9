import OrderKeeper.Core.Lifecycle
import OrderKeeper.Proofs.Signal.Mailbox

/-!
Contract: the signals of a core as those of a mailbox.

Owns: the turns of a dispatcher and the calls of a core as runs of a mailbox.
-/

set_option autoImplicit false

namespace OrderKeeper

/-! ## Dispatchers -/

theorem SignalQueue.takeNumbered_of_dequeue? {queue rest : SignalQueue} {signal : Signal}
    (leaves : queue.dequeue? = some (signal, rest)) (numbers : List Nat) :
    ∃ number left, queue.takeNumbered numbers = some ((number, signal), rest, left) := by
  obtain ⟨earlier, _, -, -, isPlace, -⟩ := dequeue?_split leaves
  unfold takeNumbered
  rw [isPlace, leaves]
  exact ⟨_, _, rfl⟩

/-- The signal that a dispatcher took, and its fate. -/
def Dispatch.taken : Dispatch → Signal × SignalFate
  | .expired signal => (signal, .expired)
  | .published signal _ => (signal, .handed)

/-- One turn of a dispatcher, with the answer of the bus if it is handed a signal, takes one
signal as the dispatcher of a core does. -/
theorem dispatchNext_eq_run {mailbox : Mailbox} (isReady : mailbox.dispatcher = some .ready)
    {bus : Bus} {dispatch : Dispatch} {queue : SignalQueue}
    (dispatched : dispatchNext bus mailbox.clock mailbox.queue = some (dispatch, queue)) :
    ∃ events departure, (mailbox.run events).queue = queue ∧
      (mailbox.run events).dispatcher = some .ready ∧
      (mailbox.run events).clock = mailbox.clock ∧
      (mailbox.run events).departures = mailbox.departures ++ [departure] ∧
      (departure.signal, departure.fate) = dispatch.taken := by
  unfold dispatchNext at dispatched
  rw [Option.map_eq_some_iff] at dispatched
  obtain ⟨⟨signal, rest⟩, leaves, isDispatch⟩ := dispatched
  obtain ⟨number, left, taken⟩ := SignalQueue.takeNumbered_of_dequeue? leaves mailbox.numbers
  cases lapsed : signal.hasLapsed mailbox.clock with
  | true =>
      simp only [lapsed, if_true, Prod.mk.injEq] at isDispatch
      obtain ⟨rfl, rfl⟩ := isDispatch
      refine ⟨[.dispatch], ⟨number, signal, .expired, mailbox.clock⟩, ?_⟩
      simp [Mailbox.run, Mailbox.step, Mailbox.dispatch, Mailbox.depart, Mailbox.dispatchedFate,
        Dispatch.taken, isReady, taken, lapsed]
  | false =>
      simp only [lapsed, Bool.false_eq_true, if_false, Prod.mk.injEq] at isDispatch
      obtain ⟨rfl, rfl⟩ := isDispatch
      refine ⟨[.dispatch, .answer (bus signal)], ⟨number, signal, .handed, mailbox.clock⟩, ?_⟩
      simp [Mailbox.run, Mailbox.step, Mailbox.dispatch, Mailbox.depart, Mailbox.dispatchedFate,
        Mailbox.hear, Dispatch.taken, isReady, taken, lapsed]

/-- A dispatcher that empties the queue takes turn after turn. -/
theorem dispatchUpTo_eq_run (bus : Bus) (fuel : Nat) {mailbox : Mailbox}
    (isReady : mailbox.dispatcher = some .ready) :
    let result := dispatchUpTo bus mailbox.clock fuel mailbox.queue
    ∃ events left, (mailbox.run events).queue = result.2 ∧
      (mailbox.run events).dispatcher = some .ready ∧
      (mailbox.run events).departures = mailbox.departures ++ left ∧
      left.map (fun departure => (departure.signal, departure.fate)) =
        result.1.map Dispatch.taken := by
  induction fuel generalizing mailbox with
  | zero => exact ⟨[], [], rfl, isReady, (List.append_nil _).symm, rfl⟩
  | succ fuel inductionHypothesis =>
      unfold dispatchUpTo
      cases dispatched : dispatchNext bus mailbox.clock mailbox.queue with
      | none => exact ⟨[], [], rfl, isReady, (List.append_nil _).symm, rfl⟩
      | some next =>
          obtain ⟨dispatch, queue⟩ := next
          obtain ⟨events, departure, isQueue, stillReady, sameClock, departures, isTaken⟩ :=
            dispatchNext_eq_run isReady dispatched
          obtain ⟨more, left, lastQueue, lastReady, lastDepartures, areTaken⟩ :=
            inductionHypothesis stillReady
          rw [sameClock, isQueue] at lastQueue areTaken
          have appended : mailbox.run (events ++ more) = (mailbox.run events).run more :=
            List.foldl_append
          refine ⟨events ++ more, departure :: left, ?_, ?_, ?_, ?_⟩
          · rw [appended]
            exact lastQueue
          · rw [appended]
            exact lastReady
          · rw [appended, lastDepartures, departures, List.append_assoc]
            rfl
          · rw [List.map_cons, isTaken, areTaken]
            rfl

/-- A call that a core makes on its queue and its dispatcher. -/
inductive SignalCall where
  | enqueue (signal : Signal)
  | dequeue
  | startDispatcher (bus : Bus)
  | stopDispatcher
  | dispatch (now : Instant)

/-! ## Calls -/

section Calls

variable {World : Type}

def Core.afterSignalCall (core : Core World) : SignalCall → Core World
  | .enqueue signal => core.enqueue signal
  | .dequeue => core.dequeue.1
  | .startDispatcher bus => (core.startDispatcher bus).1
  | .stopDispatcher => core.stopDispatcher
  | .dispatch now => (core.dispatch now).1

/-- The mailbox has the queue of the core, and a dispatcher that is ready if the core has one. -/
structure Mailbox.Mirrors (mailbox : Mailbox) (core : Core World) : Prop where
  queue : mailbox.queue = core.queue
  dispatcher : mailbox.dispatcher = core.dispatcher.map fun _ => .ready

/-- What a core does with its signals is a run of the mailbox. -/
theorem Mailbox.Mirrors.after_call {mailbox : Mailbox} {core : Core World}
    (mirrors : mailbox.Mirrors core) (call : SignalCall) :
    ∃ events, (mailbox.run events).Mirrors (core.afterSignalCall call) := by
  cases call with
  | enqueue signal =>
      refine ⟨[.put signal], ?_, mirrors.dispatcher⟩
      exact congrArg (SignalQueue.enqueue · signal) mirrors.queue
  | dequeue =>
      refine ⟨[.takeOut], ?_⟩
      unfold Core.afterSignalCall Core.dequeue
      cases leaves : core.queue.dequeue? with
      | none =>
          have nothing : mailbox.queue.takeNumbered mailbox.numbers = none := by
            rw [SignalQueue.takeNumbered_eq_none_iff, mirrors.queue,
              ← SignalQueue.dequeue?_eq_none_iff, leaves]
          have unchanged : mailbox.run [.takeOut] = mailbox := by
            simp [Mailbox.run, Mailbox.step, Mailbox.depart, nothing]
          rw [unchanged]
          exact mirrors
      | some next =>
          rw [← mirrors.queue] at leaves
          obtain ⟨number, left, taken⟩ :=
            SignalQueue.takeNumbered_of_dequeue? leaves mailbox.numbers
          constructor
          · simp [Mailbox.run, Mailbox.step, Mailbox.depart, taken]
          · simp [Mailbox.run, Mailbox.step, Mailbox.depart, taken, mirrors.dispatcher]
  | startDispatcher bus =>
      refine ⟨[.start], ?_⟩
      have isRunning := mirrors.dispatcher
      unfold Core.afterSignalCall Core.startDispatcher
      cases running : core.dispatcher with
      | none =>
          rw [running] at isRunning
          constructor
          · simp [Mailbox.run, Mailbox.step, Mailbox.start, isRunning, mirrors.queue]
          · simp [Mailbox.run, Mailbox.step, Mailbox.start, isRunning]
      | some _ =>
          rw [running] at isRunning
          have unchanged : mailbox.run [.start] = mailbox := by
            simp [Mailbox.run, Mailbox.step, Mailbox.start, isRunning]
          rw [unchanged]
          exact mirrors
  | stopDispatcher => exact ⟨[.stop], mirrors.queue, rfl⟩
  | dispatch now =>
      unfold Core.afterSignalCall Core.dispatch
      cases running : core.dispatcher with
      | none => exact ⟨[], mirrors⟩
      | some bus =>
          have isReady := mirrors.dispatcher
          rw [running] at isReady
          obtain ⟨events, left, isQueue, stillReady, -, -⟩ :=
            @dispatchUpTo_eq_run bus mailbox.queue.size (mailbox.step (.moveClock now)) isReady
          refine ⟨.moveClock now :: events, ?_, ?_⟩
          · rw [mirrors.queue] at isQueue
            have stepQueue : (mailbox.step (.moveClock now)).queue = core.queue := mirrors.queue
            rw [stepQueue] at isQueue
            exact isQueue
          · exact stillReady

/-- Whatever calls a core makes, a mailbox that starts empty can follow. -/
theorem exists_mirroring_run (clock : Instant) (settings : Settings)
    (directory : VenueDirectory World) (broker : Broker World) (world : World)
    (calls : List SignalCall) :
    ∃ events, ((Mailbox.empty clock).run events).Mirrors
      (calls.foldl Core.afterSignalCall (.create settings directory broker world)) := by
  have fromAnywhere : ∀ (mailbox : Mailbox) (core : Core World), mailbox.Mirrors core →
      ∃ events, (mailbox.run events).Mirrors (calls.foldl Core.afterSignalCall core) := by
    induction calls with
    | nil => exact fun mailbox core mirrors => ⟨[], mirrors⟩
    | cons call rest inductionHypothesis =>
        intro mailbox core mirrors
        obtain ⟨events, next⟩ := mirrors.after_call call
        obtain ⟨more, last⟩ := inductionHypothesis _ _ next
        refine ⟨events ++ more, ?_⟩
        have appended : mailbox.run (events ++ more) = (mailbox.run events).run more :=
          List.foldl_append
        rw [appended]
        exact last
  exact fromAnywhere _ _ ⟨rfl, rfl⟩

end Calls

end OrderKeeper
