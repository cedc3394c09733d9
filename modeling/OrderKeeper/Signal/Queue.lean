import OrderKeeper.Signal.Basic

/-!
Contract: the queue between producers of signals and the bus.

Owns: the waiting signals in order of arrival, and the choice of the one to leave: the
first among those of the highest priority.  Priorities are ranked by bit pattern, so
that `-0` comes after `0`; one that is not a number counts as `0`.
-/

set_option autoImplicit false

namespace OrderKeeper

/-- Waiting signals, the earliest arrival first. -/
structure SignalQueue where
  waiting : List Signal
deriving Inhabited

namespace SignalQueue

def empty : SignalQueue := ⟨[]⟩

def size (queue : SignalQueue) : Nat :=
  queue.waiting.length

/-- A signal as it is queued. -/
def asQueued (signal : Signal) : Signal :=
  if signal.priority.isNaN then { signal with priority := .zero } else signal

def enqueue (queue : SignalQueue) (signal : Signal) : SignalQueue :=
  ⟨queue.waiting ++ [asQueued signal]⟩

def rank (signal : Signal) : Int :=
  signal.priority.rank

/-- Whether a signal is ranked no lower than each of some others. -/
def isForemost (signals : List Signal) (signal : Signal) : Bool :=
  signals.all fun other => decide (rank other ≤ rank signal)

/-- Takes out the first signal of the highest rank. -/
def dequeue? (queue : SignalQueue) : Option (Signal × SignalQueue) :=
  match queue.waiting.findIdx? (isForemost queue.waiting) with
  | none => none
  | some index =>
      queue.waiting[index]?.map fun signal => (signal, ⟨queue.waiting.eraseIdx index⟩)

end SignalQueue

end OrderKeeper
