import OrderKeeper.Pair.Watch
import OrderKeeper.Reconcile.Pass
import OrderKeeper.Signal.Dispatcher
import OrderKeeper.Trailing.Tick

/-!
Contract: what the core counts.

Owns: the counters, what each pass and each dispatched signal adds to them, and their
exposition as text.

A counter with labels shows one line per label value that was counted, and is left out
while there is none.
-/

set_option autoImplicit false

namespace OrderKeeper

structure Counters where
  reconcileRuns : Nat
  reconcileImported : Nat
  reconcileClosed : Nat
  /-- Failed fetches by venue. -/
  venueFailures : Dictionary Nat
  /-- Cancels of siblings by outcome. -/
  siblingCancels : Dictionary Nat
  /-- Triggered trails by symbol. -/
  trailingTriggers : Dictionary Nat
  /-- Signals that the bus accepted, by topic. -/
  signalsDispatched : Dictionary Nat
  /-- Lost signals by reason. -/
  signalsDropped : Dictionary Nat
deriving Inhabited

namespace Counters

def zero : Counters := ⟨0, 0, 0, .empty, .empty, .empty, .empty, .empty⟩

/-! ## Counting -/

def increment (counts : Dictionary Nat) (label : String) : Dictionary Nat :=
  counts.insert label ((counts.get? label).getD 0 + 1)

/-- Adds an amount under a label; nothing is counted for zero. -/
def incrementBy (counts : Dictionary Nat) (label : String) (amount : Nat) :
    Dictionary Nat :=
  if amount = 0 then counts else counts.insert label ((counts.get? label).getD 0 + amount)

def addReconcile (counters : Counters) (summary : ReconcileSummary) : Counters :=
  { counters with
    reconcileRuns := counters.reconcileRuns + 1
    reconcileImported := counters.reconcileImported + summary.imported
    reconcileClosed := counters.reconcileClosed + summary.closed
    venueFailures := summary.venuesFailed.foldl increment counters.venueFailures }

def addPairPass (counters : Counters) (summary : PairSummary) : Counters :=
  { counters with
    siblingCancels :=
      incrementBy
        (incrementBy (incrementBy counters.siblingCancels "success" summary.resolved)
          "failure" summary.cancelFailures)
        "unsupported" summary.unsupported }

def addTrailOutcome (counters : Counters) : TrailOutcome → Counters
  | .fired symbol _ _ =>
      { counters with trailingTriggers := increment counters.trailingTriggers symbol }
  | _ => counters

def addTick (counters : Counters) (outcomes : List TrailOutcome) : Counters :=
  outcomes.foldl addTrailOutcome counters

def addDispatch (counters : Counters) (dispatch : Dispatch) : Counters :=
  match dispatch.dropReason?, dispatch.handed? with
  | some reason, _ =>
      { counters with signalsDropped := increment counters.signalsDropped reason }
  | none, some signal =>
      { counters with signalsDispatched := increment counters.signalsDispatched signal.topic }
  | none, none => counters

/-! ## Exposition -/

/-- The lines of one counter: a count by itself, or counts by the values of a label. -/
inductive Samples where
  | plain (count : Nat)
  | labelled (label : String) (counts : Dictionary Nat)

structure Family where
  name : String
  help : String
  samples : Samples

/-- All counters in the order of their names. -/
def families (counters : Counters) : List Family :=
  [{ name := "oco_cancels_total", help := "OCO sibling cancellations"
     samples := .labelled "outcome" counters.siblingCancels },
    { name := "reconcile_closed_total"
      help := "Local orders closed because they vanished remotely"
      samples := .plain counters.reconcileClosed },
    { name := "reconcile_imported_total"
      help := "Remote orders imported into the local store"
      samples := .plain counters.reconcileImported },
    { name := "reconcile_runs_total", help := "Reconciliation passes executed"
      samples := .plain counters.reconcileRuns },
    { name := "reconcile_venue_failures_total"
      help := "Venue fetch failures during reconciliation"
      samples := .labelled "venue" counters.venueFailures },
    { name := "signal_queue_dispatched_total", help := "Signals forwarded to the event bus"
      samples := .labelled "topic" counters.signalsDispatched },
    { name := "signal_queue_dropped_total"
      help := "Signals dropped before or during dispatch"
      samples := .labelled "reason" counters.signalsDropped },
    { name := "trailing_triggers_total", help := "Trailing stops triggered"
      samples := .labelled "symbol" counters.trailingTriggers }]

def escapeLabelChar (c : Char) : List Char :=
  match c with
  | '\\' => ['\\', '\\']
  | '\n' => ['\\', 'n']
  | '"' => ['\\', '"']
  | c => [c]

def renderCount (count : Nat) : String :=
  " " ++ String.ofList (Text.numeral count) ++ "\n"

/-- The sample lines of a counter. -/
def Family.lines (family : Family) : List String :=
  match family.samples with
  | .plain count => [family.name ++ renderCount count]
  | .labelled label counts =>
      counts.entries.map fun (value, count) =>
        family.name ++ "\x7b" ++ label ++ "=\""
          ++ String.ofList (value.toList.flatMap escapeLabelChar) ++ "\"\x7d"
          ++ renderCount count

def Family.render (family : Family) : String :=
  if family.lines.isEmpty then ""
  else
    "# HELP " ++ family.name ++ " " ++ family.help ++ "\n# TYPE " ++ family.name
      ++ " counter\n" ++ String.join family.lines

def render (counters : Counters) : String :=
  String.join (counters.families.map Family.render)

end Counters

end OrderKeeper
