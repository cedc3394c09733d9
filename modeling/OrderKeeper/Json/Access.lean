import OrderKeeper.Json.Value

/-!
Contract: looking into JSON values.

Owns: the readers of single values and of the members of an object, which treat a member
that is `null` as one that is missing.
-/

set_option autoImplicit false

namespace OrderKeeper.Json.Value

def text? : Value → Option String
  | .string text => some text
  | _ => none

def bool? : Value → Option Bool
  | .bool value => some value
  | _ => none

def integer? : Value → Option Int
  | .number (.integer value) => some value
  | _ => none

def natural? (value : Value) : Option Nat :=
  value.integer?.bind fun i => if 0 ≤ i then some i.toNat else none

/-- The items of an array, each read in the same way. -/
def items? {α : Type} (read : Value → Option α) : Value → Option (List α)
  | .array items => items.mapM read
  | _ => none

/-- The members of an object, the value of each read in the same way. -/
def members? {α : Type} (read : Value → Option α) : Value → Option (Dictionary α)
  | .object members => do
      let entries ← members.mapM fun (key, value) => (read value).map fun x => (key, x)
      some (.ofList entries)
  | _ => none

def member? (value : Value) (key : String) : Option Value :=
  match value with
  | .object members =>
      match members.find? fun entry => entry.1 = key with
      | some (_, .null) => none
      | some (_, found) => some found
      | none => none
  | _ => none

/-- A member that must be there. -/
def need? {α : Type} (value : Value) (key : String) (read : Value → Option α) : Option α :=
  (value.member? key).bind read

/-- A member that may be missing. -/
def may? {α : Type} (value : Value) (key : String) (read : Value → Option α) :
    Option (Option α) :=
  match value.member? key with
  | none => some none
  | some found => (read found).map some

/-- A member with a value of its own when it is missing. -/
def mayOr? {α : Type} (value : Value) (key : String) (default : α) (read : Value → Option α) :
    Option α :=
  (value.may? key read).map fun found => found.getD default

/-- A value that may be absent, `null` then. -/
def optional {α : Type} (write : α → Value) (x : Option α) : Value :=
  (x.map write).getD .null

end OrderKeeper.Json.Value
