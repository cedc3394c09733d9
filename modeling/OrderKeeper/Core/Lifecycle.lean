import OrderKeeper.Core.Basic
import OrderKeeper.Monitoring.HealthReport

/-!
Contract: the core from start to stop.

Owns: the dispatcher, the start and the stop of the daemons, the passes that are due
before a time, and the health of the core.

Starting twice does nothing, and neither does a second stop.  A core that was stopped
before it is started spawns no daemon, but hands its bus to the dispatcher.
-/

set_option autoImplicit false

namespace OrderKeeper.Core

variable {World : Type}

/-! ## Dispatcher -/

/-- Starts the dispatcher unless it runs. -/
def startDispatcher (core : Core World) (bus : Bus) : Core World × Bool :=
  match core.dispatcher with
  | some _ => (core, false)
  | none => ({ core with dispatcher := some bus }, true)

/-- Stops the dispatcher; what is queued stays queued. -/
def stopDispatcher (core : Core World) : Core World :=
  { core with dispatcher := none }

/-- Lets the dispatcher, if it runs, empty the queue. -/
def dispatch (core : Core World) (now : Instant) : Core World × List Dispatch :=
  match core.dispatcher with
  | none => (core, [])
  | some bus =>
      let (dispatches, queue) := dispatchAll bus now core.queue
      ({ core with
        queue
        counters := dispatches.foldl Counters.addDispatch core.counters }, dispatches)

/-! ## Lifecycle -/

def isRunning (core : Core World) : Bool :=
  core.started && !core.stopping

def isDispatching (core : Core World) : Bool :=
  core.dispatcher.isSome

/-- Starts every daemon, its first pass due at once, and the dispatcher if there is a bus
for it. -/
def start (core : Core World) (clock : Nat) (bus : Option Bus) : Core World :=
  if core.started then core
  else
    let daemons :=
      if core.stopping then [] else Daemon.inStartOrder.map fun daemon => ⟨daemon, clock⟩
    let core := { core with started := true, daemons }
    match bus with
    | some bus => (core.startDispatcher bus).1
    | none => core

/-- Ends every daemon, then the dispatcher.  While the daemons of a started core end, the
dispatcher still works. -/
def stop (core : Core World) (now : Instant) : Core World × List Dispatch :=
  if core.stopping then (core, [])
  else
    let core := { core with stopping := true, daemons := [] }
    let (core, dispatches) := if core.started then core.dispatch now else (core, [])
    (core.stopDispatcher, dispatches)

/-! ## Time -/

/-- Runs the passes before a given time, those of `guests` among them, a daemon that runs
beside the core's own. -/
def runUntil (core : Core World) (now : Instant) (guests : List DaemonTimer) (limit : Nat) :
    Core World :=
  let passes := agenda core.settings (core.daemons ++ guests) limit
  let core := passes.foldl (fun core pass => core.runPass now pass.2) core
  { core with daemons := core.daemons.map (DaemonTimer.advance core.settings limit) }

/-! ## Health -/

def health (core : Core World) (now startedAt : Instant) (stopping : Bool) : HealthReport where
  stopping := stopping
  openOrders := core.state.ledger.countOpen
  trackedOrders := core.state.ledger.size
  activeTrails := core.book.size
  queuedSignals := core.queue.size
  dispatcherRunning := core.isDispatching
  venues := core.directory.keys
  uptimeSeconds := (Int.tdiv (now.milliseconds - startedAt.milliseconds) 1000).toNat
  timestamp := now.seconds

end OrderKeeper.Core
