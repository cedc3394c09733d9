import OrderKeeper.Core.Daemon
import OrderKeeper.Monitoring.Counters
import OrderKeeper.Pair.Linked

/-!
Contract: the core as one state.

Owns: the ledger, the trails, the queue and the counters together, and what one pass, one
placement and one signal do to them.
-/

set_option autoImplicit false

namespace OrderKeeper

/-- Everything that passes, placements and signals change. -/
structure Core (World : Type) where
  settings : Settings
  directory : VenueDirectory World
  broker : Broker World
  state : State World
  book : TrailBook
  queue : SignalQueue
  counters : Counters
  /-- The bus of the dispatcher while that runs. -/
  dispatcher : Option Bus
  daemons : List DaemonTimer
  started : Bool
  stopping : Bool

namespace Core

variable {World : Type}

def create (settings : Settings) (directory : VenueDirectory World) (broker : Broker World)
    (world : World) : Core World where
  settings := settings
  directory := directory
  broker := broker
  state := { ledger := .empty, world }
  book := .empty
  queue := .empty
  counters := .zero
  dispatcher := none
  daemons := []
  started := false
  stopping := false

/-! ## Passes -/

def reconcile (core : Core World) (now : Instant) : Core World × ReconcileSummary :=
  let (state, summary) :=
    reconcileAll core.directory core.settings.absencePolicy now core.state
  ({ core with state, counters := core.counters.addReconcile summary }, summary)

def watchPairs (core : Core World) (now : Instant) : Core World × PairSummary :=
  let (state, summary) := watchOnce core.directory now core.state
  ({ core with state, counters := core.counters.addPairPass summary }, summary)

def tick (core : Core World) (now : Instant) : Core World × TickResult World :=
  let result := tickOnce core.directory core.broker now core.book core.state
  ({ core with
    book := result.book
    state := result.state
    counters := core.counters.addTick result.outcomes }, result)

/-- One pass of a daemon; one that breaks down keeps what it did. -/
def runPass (core : Core World) (now : Instant) : Daemon → Core World
  | .reconcile => (core.reconcile now).1
  | .pairs => (core.watchPairs now).1
  | .trailing => (core.tick now).1

/-! ## Orders and trails -/

def place (core : Core World) (now : Instant) (ticket : OrderTicket) :
    Core World × Except Refusal Receipt :=
  let (answer, state) := core.broker.place now ticket core.state
  ({ core with state }, answer)

def submitPair (core : Core World) (now : Instant) (group : String)
    (first second : OrderTicket) : Core World × Except PairFailure LinkedPair :=
  let (answer, state) := placePair core.broker now group first second core.state
  ({ core with state }, answer)

def updateLedger {α : Type} (core : Core World) (update : Ledger → Ledger × α) :
    Core World × α :=
  let (ledger, answer) := update core.state.ledger
  ({ core with state := { core.state with ledger } }, answer)

/-! ## Signals -/

def enqueue (core : Core World) (signal : Signal) : Core World :=
  { core with queue := core.queue.enqueue signal }

def dequeue (core : Core World) : Core World × Option Signal :=
  match core.queue.dequeue? with
  | some (signal, queue) => ({ core with queue }, some signal)
  | none => (core, none)

end Core

end OrderKeeper
