import OrderKeeper.Json.Decoder
import OrderKeeper.Time.Timestamp

/-!
Contract: signals that wait for dispatch.

Owns: the signal, its reader, its expiry and its lifetime, and what a bus may answer to
it.
-/

set_option autoImplicit false

namespace OrderKeeper

-- Powers are those of the core library, also beside a library that has its own.
attribute [local instance (high)] instPowNat

open Json (Document Fields Value)

structure Signal where
  topic : String
  /-- A payload that is passed on unread. -/
  data : Value
  /-- The higher goes first. -/
  priority : Binary64
  expiresAt : Option Instant
  source : Option String
deriving Inhabited

/-- Why a lifetime leads to no expiry. -/
inductive LifetimeError where
  | outOfBounds
  | beyondCalendar
deriving DecidableEq, Repr

def LifetimeError.message : LifetimeError → String
  | .outOfBounds => "TimeDelta::milliseconds out of bounds"
  | .beyondCalendar => "`DateTime + TimeDelta` overflowed"

namespace Signal

/-- A signal is expired from the instant of its expiry on. -/
def hasLapsed (signal : Signal) (now : Instant) : Bool :=
  match signal.expiresAt with
  | some instant => decide (instant ≤ now)
  | none => false

/-- The signal with an expiry some milliseconds from now, which must be a date. -/
def withLifetime (signal : Signal) (now : Instant) (ms : Int) :
    Except LifetimeError Signal :=
  let expiry := Instant.ofMilliseconds (now.milliseconds + ms)
  if ms.natAbs = 2 ^ (63 : Nat) then .error .outOfBounds
  else if Timestamp.isInRange expiry then .ok { signal with expiresAt := some expiry }
  else .error .beyondCalendar

def ofDocument? (document : Document) : Option Signal := do
  let fields ← document.fields?
    [["topic"], ["data"], ["priority"], ["expires_at"], ["source"]]
  let topic ← fields.required? 0 Document.text?
  let data ← fields.required? 1 (Document.toValue? (Json.depthBudget - 1))
  let priority ← fields.required? 2 Document.float?
  let expiresAt ← fields.optional? 3 fun document => document.text?.bind Timestamp.parse?
  let source ← fields.optional? 4 Document.text?
  some { topic, data, priority, expiresAt, source }

def parse? (text : String) : Option Signal :=
  (Document.parse? text).bind ofDocument?

end Signal

/-- What a bus does with a signal it is handed. -/
inductive BusAnswer where
  | accepted
  | unavailable (text : String)
  | rejected (text : String)
  /-- The bus broke down; the dispatcher goes on. -/
  | brokeDown
deriving DecidableEq, Repr

end OrderKeeper
