import OrderKeeper.Dictionary

/-!
Contract: how often a repeated message is written.

Owns: one throttle, which lets a message through at most once in an interval and
counts the others, and throttles by key, each on its own.
-/

set_option autoImplicit false

namespace OrderKeeper

/-- Times and the interval are counts of one unit of a clock that never goes back. -/
structure Throttle where
  interval : Nat
  lastEmission : Option Nat
  suppressed : Nat
deriving DecidableEq, Repr

namespace Throttle

def create (interval : Nat) : Throttle := ⟨interval, none, 0⟩

/-- Whether a message is let through now; one that is not is counted. -/
def shouldEmit (throttle : Throttle) (now : Nat) : Throttle × Bool :=
  match throttle.lastEmission with
  | some last =>
      if now - last < throttle.interval then
        ({ throttle with suppressed := throttle.suppressed + 1 }, false)
      else ({ throttle with lastEmission := some now }, true)
  | none => ({ throttle with lastEmission := some now }, true)

/-- The number of messages held back since the last call. -/
def takeSuppressed (throttle : Throttle) : Throttle × Nat :=
  ({ throttle with suppressed := 0 }, throttle.suppressed)

end Throttle

structure KeyedThrottle where
  interval : Nat
  throttles : Dictionary Throttle

namespace KeyedThrottle

def create (interval : Nat) : KeyedThrottle := ⟨interval, .empty⟩

/-- The number of messages of a key held back before this one, if it is let through. -/
def letThrough (keyed : KeyedThrottle) (now : Nat) (key : String) : KeyedThrottle × Option Nat :=
  let throttle := (keyed.throttles.get? key).getD (.create keyed.interval)
  match throttle.shouldEmit now with
  | (throttle, true) =>
      let (throttle, suppressed) := throttle.takeSuppressed
      ({ keyed with throttles := keyed.throttles.insert key throttle }, some suppressed)
  | (throttle, false) =>
      ({ keyed with throttles := keyed.throttles.insert key throttle }, none)

end KeyedThrottle

end OrderKeeper
