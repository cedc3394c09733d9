import OrderKeeper.Json.Value

/-!
Contract: typed reading of JSON documents.

Owns: the readers of single values, and the reading of a record either from an object,
by field name, or from an array, by position.  A field that an object names twice is
refused, one that no field is named after is skipped unread.
-/

set_option autoImplicit false

namespace OrderKeeper.Json

namespace Document

def text? : Document → Option String
  | .string pieces => decodeString? pieces
  | _ => none

def number? : Document → Option Number
  | .numeral text => Number.ofText? text
  | _ => none

def float? (document : Document) : Option Binary64 :=
  document.number?.map Number.toFloat

/-- A natural number below `limit`, written as an integer. -/
def natural? (limit : Nat) (document : Document) : Option Nat :=
  match document.number? with
  | some (.integer value) => if 0 ≤ value ∧ value < limit then some value.toNat else none
  | _ => none

/-- An absent value for `null`, a present one otherwise. -/
def nullable? {α : Type} (read : Document → Option α) : Document → Option (Option α)
  | .null => some none
  | document => (read document).map some

def list? {α : Type} (read : Document → Option α) : Document → Option (List α)
  | .array items => items.mapM read
  | _ => none

/-- A word of a fixed list: a string, or an object of that one name with the value `null`. -/
def word? {α : Type} (read : String → Option α) : Document → Option α
  | .string pieces => (decodeString? pieces).bind read
  | .object [(key, .null)] => (decodeString? key).bind read
  | _ => none

end Document

/-! ## Records -/

/-- The values found for the fields of a record, in field order. -/
structure Fields where
  byPosition : Bool
  found : List (Option Document)

/-- The members of an object whose keys can all be read. -/
def namedMembers? : List (List Piece × Document) → Option (List (String × Document))
  | [] => some []
  | (key, value) :: rest => do
      let key ← decodeString? key
      let rest ← namedMembers? rest
      some ((key, value) :: rest)

/-- The one member named after a field, unless there are several. -/
def uniqueMember? (names : List String) (members : List (String × Document)) :
    Option (Option Document) :=
  match members.filter (fun member => names.contains member.1) with
  | [] => some none
  | [(_, value)] => some (some value)
  | _ => none

/-- The fields of a record, each under one of several names. -/
def Document.fields? (names : List (List String)) : Document → Option Fields
  | .object members => do
      let members ← namedMembers? members
      let found ← names.mapM fun names => uniqueMember? names members
      some { byPosition := false, found }
  | .array items =>
      if names.length < items.length then none
      else
        some
          { byPosition := true
            found := items.map some ++ List.replicate (names.length - items.length) none }
  | _ => none

namespace Fields

def at? (fields : Fields) (index : Nat) : Option Document :=
  (fields.found[index]?).join

/-- A field that must be there. -/
def required? {α : Type} (fields : Fields) (index : Nat) (read : Document → Option α) :
    Option α :=
  (fields.at? index).bind read

/-- A field that may be `null`, and that an object may leave out. -/
def optional? {α : Type} (fields : Fields) (index : Nat) (read : Document → Option α) :
    Option (Option α) :=
  match fields.at? index with
  | some document => document.nullable? read
  | none => if fields.byPosition then none else some none

/-- A field with a value of its own when it is left out. -/
def withDefault? {α : Type} (fields : Fields) (index : Nat) (default : α)
    (read : Document → Option α) : Option α :=
  match fields.at? index with
  | some document => read document
  | none => some default

end Fields

end OrderKeeper.Json
