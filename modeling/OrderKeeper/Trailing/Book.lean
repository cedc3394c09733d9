import OrderKeeper.Dictionary
import OrderKeeper.Text.Digits
import OrderKeeper.Trailing.Trail

/-!
Contract: the set of active trails.

Owns: the ids of trails, arming and removing them, and the price that one is fed.  A trail
that a price triggers leaves the set with that price.
-/

set_option autoImplicit false

namespace OrderKeeper

/-- Active trails by id, and the number that the next one is made with. -/
structure TrailBook where
  trails : Dictionary Trail
  nextNumber : Nat
deriving Inhabited

namespace TrailBook

def empty : TrailBook := ⟨.empty, 0⟩

def trailId (symbol : String) (side : Side) (now : Instant) (offset : TrailOffset)
    (number : Nat) : String :=
  symbol ++ ":" ++ side.name ++ ":" ++ String.ofList (Text.signedNumeral now.milliseconds)
    ++ ":" ++ offset.describe ++ ":" ++ String.ofList (Text.numeral number)

/-- Arms a trail with exactly one positive offset and a positive quantity. -/
def add (book : TrailBook) (now : Instant) (symbol : String) (side : Side)
    (percent absolute : Option Decimal) (quantity : Decimal) (linkedOrder : Option OrderId) :
    Except TrailRefusal (TrailBook × String) := do
  let offset ← TrailOffset.ofParameters percent absolute
  requirePositive "quantity" quantity
  let id := trailId symbol side now offset book.nextNumber
  let trail := Trail.create now id symbol side offset quantity linkedOrder
  return ({ trails := book.trails.insert id trail, nextNumber := book.nextNumber + 1 }, id)

def get? (book : TrailBook) (id : String) : Option Trail :=
  book.trails.get? id

/-- Takes a trail out without firing it. -/
def remove (book : TrailBook) (id : String) : TrailBook × Option Trail :=
  ({ book with trails := book.trails.erase id }, book.trails.get? id)

def size (book : TrailBook) : Nat :=
  book.trails.size

/-- All active trails, the oldest first. -/
def oldestFirst (book : TrailBook) : List Trail :=
  book.trails.values.mergeSort fun a b => decide (a.createdAt ≤ b.createdAt)

/-- Feeds a price to the trail of an id.  A trail that triggers leaves the set and is
returned with its stop, so that it fires once. -/
def feed (book : TrailBook) (id : String) (price : Decimal) :
    Option (TrailBook × Except ArithmeticError (TrailReaction × Option Trail)) :=
  match book.trails.get? id with
  | none => none
  | some trail =>
      match trail.feed price with
      | (trail, .error cause) =>
          some ({ book with trails := book.trails.insert id trail }, .error cause)
      | (trail, .ok (.triggered stop)) =>
          some ({ book with trails := book.trails.erase id },
            .ok (.triggered stop, some trail))
      | (trail, .ok reaction) =>
          some ({ book with trails := book.trails.insert id trail }, .ok (reaction, none))

end TrailBook

end OrderKeeper
