import OrderKeeper.Core.Lifecycle
import OrderKeeper.Monitoring.Endpoint
import OrderKeeper.Paper.Drift
import OrderKeeper.Simulation.World

/-!
Contract: a core under a virtual clock.

Owns: a core wired to paper and scripted venues, the wall clock and the timer clock, the
waits in which daemons and the dispatcher make progress, and what can be seen from
outside between two moments.

The clocks move independently of each other; passes and dispatched signals take no time.
Ids that are drawn have numbered names, by which they can be given from outside.
-/

set_option autoImplicit false

namespace OrderKeeper.Simulation

/-- A venue to wire up, under the name that it is entered with. -/
structure VenuePlan where
  name : String
  enteredAs : String
  /-- The script of a scripted venue; without one it is a paper venue. -/
  script : Option ScriptedVenue

structure Session where
  core : Core World
  /-- Milliseconds since the epoch on the wall clock. -/
  wallClock : Int
  startedAt : Int
  /-- Milliseconds on the clock of timers. -/
  timerClock : Nat
  groupsMade : Nat
  /-- Whether the bus of the dispatcher notes the signals it is handed. -/
  notesSignals : Bool
  published : List Signal

namespace Session

/-! ## Wiring -/

def gatewayOf (plan : VenuePlan) : VenueGateway World :=
  match plan.script with
  | some script => World.scriptedGateway plan.name script.capabilities
  | none => (World.paperSlot plan.name).gateway

def directoryOf (plans : List VenuePlan) : VenueDirectory World :=
  plans.foldl (fun directory plan => directory.insert plan.enteredAs (gatewayOf plan)) .empty

/-- The paper venues in order, by the name that symbols end in. -/
def brokerOf (plans : List VenuePlan) : PaperBroker World where
  venues := .ofList <| plans.filterMap fun plan =>
    match plan.script with
    | some _ => none
    | none => some ((PaperExchange.create plan.name).name, World.paperSlot plan.name)
  drawId := World.drawId

def addVenue (world : World) (plan : VenuePlan) : World :=
  match plan.script with
  | some script => { world with scripts := world.scripts.insert plan.name script }
  | none =>
      { world with market := world.market.setVenue plan.name (.create plan.name) }

def create (settings : Settings) (plans : List VenuePlan) (wallClock : Int) : Session where
  core :=
    .create settings (directoryOf plans) (World.broker (brokerOf plans))
      (plans.foldl addVenue .empty)
  wallClock := wallClock
  startedAt := wallClock
  timerClock := 0
  groupsMade := 0
  notesSignals := true
  published := []

def now (session : Session) : Instant :=
  .ofMilliseconds session.wallClock

/-! ## Names of ids -/

def groupAt (made : Nat) : String :=
  "group#" ++ String.ofList (Text.numeral (made + 1))

/-- Whether a text is the id of an order or a group that has come about. -/
def isDrawn (session : Session) (text : String) : Bool :=
  (List.range session.core.state.world.market.ordersPlaced).any
    (fun placed => (World.orderIdAt placed).text = text)
  || (List.range session.groupsMade).any fun made => groupAt made = text

/-- Keeps a text apart from an id of the same spelling that comes about later. -/
def apart : Char := Char.ofNat 0x10FFFD

/-- What a text from outside stands for: the id of that spelling if there is one by now,
else itself. -/
def resolve (session : Session) (text : String) : String :=
  let spelled := text.startsWith "order#" || text.startsWith "group#"
  if spelled && !session.isDrawn text then text.push apart else text

/-- A text as it is shown outside. -/
def reveal (text : String) : String :=
  String.ofList (text.toList.filter (· != apart))

/-! ## Observation -/

/-- Forgets what has been noted. -/
def clearNotes (session : Session) : Session :=
  let state := session.core.state
  { session with
    core := { session.core with
      state := { state with world := state.world.clearNotes } }
    published := [] }

/-- The orders of a session that an earlier one has not or has otherwise, by id. -/
def changedSince (before session : Session) : List Order :=
  let old := before.core.state.ledger
  let changed := session.core.state.ledger.orders.filter fun order =>
    match old.get? order.id with
    | some former => !former.agrees order
    | none => true
  changed.mergeSort fun a b => decide (a.id.text ≤ b.id.text)

def placements (session : Session) : List Placement :=
  session.core.state.world.placements

/-- The noted calls in the order of their texts. -/
def calls (session : Session) : List String :=
  (session.core.state.world.calls.map VenueCall.render).mergeSort fun a b => decide (a ≤ b)

def sortedIds (orders : List Order) : List String :=
  (orders.map fun order => order.id.text).mergeSort fun a b => decide (a ≤ b)

/-! ## Changes from outside -/

/-- Changes the core and keeps an answer. -/
def onCore {α : Type} (session : Session) (act : Core World → Core World × α) : Session × α :=
  let (core, answer) := act session.core
  ({ session with core }, answer)

def updateLedger {α : Type} (session : Session) (update : Ledger → Ledger × α) : Session × α :=
  session.onCore fun core => core.updateLedger update

/-- Reads the order of an id, changes it and writes it back. -/
def amend (session : Session) (id : OrderId) (change : Order → Order) :
    Session × Option WriteOutcome :=
  match session.core.state.ledger.get? id with
  | none => (session, none)
  | some order =>
      let (session, outcome) :=
        session.updateLedger fun ledger => ledger.write session.now (change order)
      (session, some outcome)

def updateWorld {α : Type} (session : Session) (update : World → World × α) : Session × α :=
  session.onCore fun core =>
    let (world, answer) := update core.state.world
    ({ core with state := { core.state with world } }, answer)

def paperExchange (session : Session) (name : String) : PaperExchange :=
  session.core.state.world.market.venueAt name

def updatePaper {α : Type} (session : Session) (name : String)
    (update : PaperExchange → PaperExchange × α) : Session × α :=
  session.updateWorld fun world =>
    let (venue, answer) := update (world.market.venueAt name)
    ({ world with market := world.market.setVenue name venue }, answer)

def updateScript (session : Session) (name : String)
    (update : ScriptedVenue → ScriptedVenue) : Session :=
  (session.updateWorld fun world =>
    ({ world with scripts := world.scripts.insert name (update (world.scriptOf name)) }, ())).1

/-- Adds outcomes of placements to come. -/
def script (session : Session) (outcomes : List PlacementScript) : Session :=
  (session.updateWorld fun world =>
    ({ world with outcomes := world.outcomes ++ outcomes }, ())).1

/-- Creates a pair under a numbered group; only a pair that came about takes a number. -/
def submitPair (session : Session) (first second : OrderTicket) :
    Session × Except PairFailure LinkedPair :=
  let (session, answer) :=
    session.onCore fun core =>
      core.submitPair session.now (groupAt session.groupsMade) first second
  match answer with
  | .ok _ => ({ session with groupsMade := session.groupsMade + 1 }, answer)
  | .error _ => (session, answer)

/-- Arms a trail. -/
def addTrail (session : Session) (symbol : String) (side : Side)
    (percent absolute : Option Decimal) (quantity : Decimal) (linkedOrder : Option OrderId) :
    Session × Except TrailRefusal String :=
  session.onCore fun core =>
    match core.book.add session.now symbol side percent absolute quantity linkedOrder with
    | .ok (book, id) => ({ core with book }, .ok id)
    | .error cause => (core, .error cause)

def removeTrail (session : Session) (id : String) : Session × Option Trail :=
  session.onCore fun core =>
    let (book, trail) := core.book.remove id
    ({ core with book }, trail)

/-! ## Time -/

/-- Lets the dispatcher empty the queue. -/
def dispatch (session : Session) : Session :=
  let (session, dispatches) := session.onCore fun core => core.dispatch session.now
  let handed := if session.notesSignals then dispatches.filterMap Dispatch.handed? else []
  { session with published := session.published ++ handed }

/-- Runs the passes of daemons that are due before a time of the timer clock. -/
def runDaemons (session : Session) (guests : List DaemonTimer) (limit : Nat) : Session :=
  { session with core := session.core.runUntil session.now guests limit }

/-- Lets everything that is ready now make progress. -/
def settle (session : Session) : Session :=
  (session.runDaemons [] (session.timerClock + 1)).dispatch

/-- Waits on the timer clock.  A pass that is due when the wait ends is left to the next
one, so nothing makes progress in a wait of no length. -/
def wait (session : Session) (guests : List DaemonTimer) (ms : Nat) : Session :=
  if ms = 0 then session
  else
    let limit := session.timerClock + ms
    { (session.runDaemons guests limit).dispatch with timerClock := limit }

/-- Runs one daemon by itself for a while, then lets the others go on while it ends. -/
def runAlone (session : Session) (daemon : Daemon) (ms : Nat) : Session :=
  (session.wait [⟨daemon, session.timerClock⟩] ms).settle

/-! ## Signals -/

def startDispatcher (session : Session) (bus : Bus) (notesSignals : Bool) : Session × Bool :=
  let (session, isNew) := session.onCore fun core => core.startDispatcher bus
  (if isNew then { session with notesSignals } else session, isNew)

/-- Stops the dispatcher; daemons that are ready go on while it ends. -/
def stopDispatcher (session : Session) : Session :=
  if session.core.isDispatching then
    let session := session.runDaemons [] (session.timerClock + 1)
    { session with core := session.core.stopDispatcher }
  else session

/-- How long a consumer waits for a signal, in milliseconds. -/
abbrev patience : Nat := 10

/-- Takes the foremost signal, or waits for one in vain. -/
def awaitSignal (session : Session) : Session × Option Signal :=
  match session.onCore Core.dequeue with
  | (session, some signal) => (session, some signal)
  | (session, none) => (session.wait [] patience, none)

/-- A consumer asks for a signal before some others are queued at one go. -/
def consumeAcross (session : Session) (signals : List Signal) : Session × Option Signal :=
  let enqueueAll := fun core : Core World => (signals.foldl Core.enqueue core, ())
  match session.onCore Core.dequeue with
  | (session, some signal) => ((session.settle.onCore enqueueAll).1, some signal)
  | (session, none) => (session.settle.onCore enqueueAll).1.onCore Core.dequeue

/-! ## Lifecycle -/

def start (session : Session) (bus : Option Bus) : Session :=
  let wasDispatching := session.core.isDispatching
  let (session, _) := session.onCore fun core => (core.start session.timerClock bus, ())
  if session.core.isDispatching && !wasDispatching then { session with notesSignals := true }
  else session

def stop (session : Session) : Session :=
  let (session, dispatches) := session.onCore fun core => core.stop session.now
  let handed := if session.notesSignals then dispatches.filterMap Dispatch.handed? else []
  { session with published := session.published ++ handed }

/-! ## Health -/

def health (session : Session) (stopping : Bool) : HealthReport :=
  session.core.health session.now (.ofMilliseconds session.startedAt) stopping

def http (session : Session) (method target : String) : HttpResponse :=
  .answer method target (session.health false).render session.core.counters.render

end Session

end OrderKeeper.Simulation
