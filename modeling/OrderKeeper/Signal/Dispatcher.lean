import OrderKeeper.Signal.Queue

/-!
Contract: handing queued signals to the bus.

Owns: the fate of one signal taken from the queue, and the run of a dispatcher until the
queue is empty.  Delivery is at most once: a signal that the bus does not accept is
dropped, and the next one follows.
-/

set_option autoImplicit false

namespace OrderKeeper

/-- What became of a signal that the dispatcher took from the queue. -/
inductive Dispatch where
  /-- It had expired and was not handed to the bus. -/
  | expired (signal : Signal)
  | published (signal : Signal) (answer : BusAnswer)

/-- Why a signal was dropped, if it was. -/
def Dispatch.dropReason? : Dispatch → Option String
  | .expired _ => some "expired"
  | .published _ .accepted => none
  | .published _ .brokeDown => some "publish_panic"
  | .published _ _ => some "publish_error"

/-- The signal that the bus was handed, if any. -/
def Dispatch.handed? : Dispatch → Option Signal
  | .expired _ => none
  | .published signal _ => some signal

/-- How a bus answers each signal. -/
abbrev Bus := Signal → BusAnswer

/-- Takes the next signal and hands it to the bus unless it has expired. -/
def dispatchNext (bus : Bus) (now : Instant) (queue : SignalQueue) :
    Option (Dispatch × SignalQueue) :=
  queue.dequeue?.map fun (signal, queue) =>
    (if signal.hasLapsed now then .expired signal else .published signal (bus signal), queue)

/-- Dispatches until the queue is empty; `fuel` bounds the number of signals. -/
def dispatchUpTo (bus : Bus) (now : Instant) : Nat → SignalQueue →
    List Dispatch × SignalQueue
  | 0, queue => ([], queue)
  | fuel + 1, queue =>
      match dispatchNext bus now queue with
      | none => ([], queue)
      | some (dispatch, queue) =>
          let (rest, queue) := dispatchUpTo bus now fuel queue
          (dispatch :: rest, queue)

def dispatchAll (bus : Bus) (now : Instant) (queue : SignalQueue) :
    List Dispatch × SignalQueue :=
  dispatchUpTo bus now queue.size queue

end OrderKeeper
