import OrderKeeper.Settings

/-!
Contract: the daemons of the core and when their passes are due.

Owns: the three daemons, their intervals, the timer of a running one, and the passes of
several timers in order of time.
-/

set_option autoImplicit false

namespace OrderKeeper

inductive Daemon where
  | reconcile
  | pairs
  | trailing
deriving DecidableEq, Repr

namespace Daemon

/-- The daemons in the order in which they are started. -/
def inStartOrder : List Daemon := [.reconcile, .pairs, .trailing]

/-- Milliseconds between two passes of a daemon. -/
def interval (settings : Settings) : Daemon → Nat
  | .reconcile => settings.reconcileSeconds * 1000
  | .pairs => settings.pairSeconds * 1000
  | .trailing => settings.trailingSeconds * 1000

end Daemon

/-- A running daemon and the time of its next pass. -/
structure DaemonTimer where
  daemon : Daemon
  deadline : Nat
deriving DecidableEq, Repr

namespace DaemonTimer

/-- The times of the passes of a timer before a given time. -/
def passTimes (settings : Settings) (limit : Nat) (timer : DaemonTimer) : List Nat :=
  let interval := timer.daemon.interval settings
  (List.range ((limit - timer.deadline + (interval - 1)) / interval)).map fun count =>
    timer.deadline + count * interval

/-- A timer once its passes before a given time are over. -/
def advance (settings : Settings) (limit : Nat) (timer : DaemonTimer) : DaemonTimer :=
  { timer with
    deadline :=
      timer.deadline
        + (timer.passTimes settings limit).length * timer.daemon.interval settings }

end DaemonTimer

/-- The passes of some timers before a given time, in order of time. -/
def agenda (settings : Settings) (timers : List DaemonTimer) (limit : Nat) :
    List (Nat × Daemon) :=
  let passes := timers.flatMap fun timer =>
    (timer.passTimes settings limit).map fun time => (time, timer.daemon)
  passes.mergeSort fun a b => decide (a.1 ≤ b.1)

end OrderKeeper
