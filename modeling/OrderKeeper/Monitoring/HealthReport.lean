import OrderKeeper.Json.Value

/-!
Contract: the state of the core as an observer asks for it.

Owns: the health report and its JSON form.
-/

set_option autoImplicit false

namespace OrderKeeper

open Json (Value)

structure HealthReport where
  stopping : Bool
  openOrders : Nat
  trackedOrders : Nat
  activeTrails : Nat
  queuedSignals : Nat
  dispatcherRunning : Bool
  venues : List String
  uptimeSeconds : Nat
  /-- Seconds since the epoch. -/
  timestamp : Int
deriving DecidableEq, Repr

namespace HealthReport

def status (report : HealthReport) : String :=
  if report.stopping then "stopping" else "healthy"

/-- The version of the core. -/
def version : String := "0.1.0"

/-- The members in the order in which they are written. -/
def members (report : HealthReport) : List (String × Value) :=
  let count := fun n : Nat => Value.number (.integer n)
  [("status", .string report.status),
    ("version", .string version),
    ("open_orders", count report.openOrders),
    ("tracked_orders", count report.trackedOrders),
    ("active_trails", count report.activeTrails),
    ("queued_signals", count report.queuedSignals),
    ("signal_dispatcher_running", .bool report.dispatcherRunning),
    ("venues", .array (report.venues.map .string)),
    ("uptime_seconds", count report.uptimeSeconds),
    ("timestamp", .number (.integer report.timestamp))]

/-- The report on one line. -/
def render (report : HealthReport) : String :=
  (Value.object report.members).render

end HealthReport

end OrderKeeper
