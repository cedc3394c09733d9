import OrderKeeper.Json.Decoder
import OrderKeeper.Reconcile.Policy
import OrderKeeper.Text.Blank

/-!
Contract: the settings of the core.

Owns: the settings with their defaults, their reader and writer, and the conditions
that they must meet.
-/

set_option autoImplicit false

namespace OrderKeeper

-- Powers are those of the core library, also beside a library that has its own.
attribute [local instance (high)] instPowNat

open Json (Document Fields Value)

structure Settings where
  reconcileSeconds : Nat
  pairSeconds : Nat
  trailingSeconds : Nat
  absencePolicy : AbsencePolicy
  /-- Least time between repeated warnings about one venue or symbol. -/
  logThrottleSeconds : Nat
  healthSocket : Option Nat
  paperVenues : List String
deriving DecidableEq, Repr

inductive SettingsError where
  | unreadable
  | malformed
  | invalid (text : String)
deriving DecidableEq, Repr

def SettingsError.message : SettingsError → String
  | .unreadable => "Failed to read config file"
  | .malformed => "Invalid config JSON"
  | .invalid text => "Invalid config: " ++ text

namespace Settings

def default : Settings where
  reconcileSeconds := 30
  pairSeconds := 3
  trailingSeconds := 5
  absencePolicy := .assumeFilled
  logThrottleSeconds := 60
  healthSocket := none
  paperVenues := ["PAPER"]

instance : Inhabited Settings := ⟨default⟩

def fieldNames : List String :=
  ["reconcile_interval_secs", "oco_interval_secs", "trailing_interval_secs",
    "missing_order_policy", "log_throttle_secs", "health_port", "paper_venues"]

def ofDocument? (document : Document) : Option Settings := do
  let fields ← document.fields? (fieldNames.map fun name => [name])
  let seconds := Document.natural? (2 ^ (64 : Nat))
  let reconcileSeconds ← fields.withDefault? 0 default.reconcileSeconds seconds
  let pairSeconds ← fields.withDefault? 1 default.pairSeconds seconds
  let trailingSeconds ← fields.withDefault? 2 default.trailingSeconds seconds
  let absencePolicy ← fields.withDefault? 3 default.absencePolicy
    (Document.word? AbsencePolicy.ofName?)
  let logThrottleSeconds ← fields.withDefault? 4 default.logThrottleSeconds seconds
  let healthSocket ← fields.withDefault? 5 default.healthSocket
    (Document.nullable? (Document.natural? (2 ^ (16 : Nat))))
  let paperVenues ← fields.withDefault? 6 default.paperVenues (Document.list? Document.text?)
  some
    { reconcileSeconds, pairSeconds, trailingSeconds, absencePolicy,
      logThrottleSeconds, healthSocket, paperVenues }

/-- Every interval is at least a second, and no venue name is blank. -/
def checked (settings : Settings) : Except SettingsError Settings :=
  let tooShort := fun name : String =>
    Except.error (SettingsError.invalid (name ++ " must be at least 1"))
  if settings.reconcileSeconds = 0 then tooShort "reconcile_interval_secs"
  else if settings.pairSeconds = 0 then tooShort "oco_interval_secs"
  else if settings.trailingSeconds = 0 then tooShort "trailing_interval_secs"
  else if settings.paperVenues.any fun name => (Text.trim name).isEmpty then
    .error (.invalid "paper_venues cannot contain empty names")
  else .ok settings

def parse (text : String) : Except SettingsError Settings :=
  match (Document.parse? text).bind ofDocument? with
  | some settings => settings.checked
  | none => .error .malformed

def toValue (settings : Settings) : Value :=
  let count := fun n : Nat => Value.number (.integer n)
  .ofMembers
    [("reconcile_interval_secs", count settings.reconcileSeconds),
      ("oco_interval_secs", count settings.pairSeconds),
      ("trailing_interval_secs", count settings.trailingSeconds),
      ("missing_order_policy", .string settings.absencePolicy.name),
      ("log_throttle_secs", count settings.logThrottleSeconds),
      ("health_port", (settings.healthSocket.map count).getD .null),
      ("paper_venues", .array (settings.paperVenues.map .string))]

end Settings

end OrderKeeper
