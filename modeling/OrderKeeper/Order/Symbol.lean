import OrderKeeper.Text.Case

/-!
Contract: composite symbols `BASE.VENUE`.

Owns: the split of a symbol at its last point, and the composite symbol of a base on a
venue.
-/

set_option autoImplicit false

namespace OrderKeeper.Symbol

/-- The parts before and after the last point. -/
def splitLast? : List Char → Option (List Char × List Char)
  | [] => none
  | c :: rest =>
      match splitLast? rest with
      | some (base, venue) => some (c :: base, venue)
      | none => if c = '.' then some ([], rest) else none

/-- The venue of a symbol, unless it has no point or nothing after the last one. -/
def venue? (symbol : String) : Option String :=
  match splitLast? symbol.toList with
  | some (_, []) => none
  | some (_, venue) => some (String.ofList venue)
  | none => none

/-- The part before the last point, or the whole symbol. -/
def base (symbol : String) : String :=
  match splitLast? symbol.toList with
  | some (base, _) => String.ofList base
  | none => symbol

/-- The symbol of `base` on `venue`; a symbol that names the venue already is kept. -/
def composite (base venue : String) : String :=
  match venue? base with
  | some own => if Text.sameLetters own venue then base else base ++ "." ++ venue
  | none => base ++ "." ++ venue

/-- Whether a symbol lies on a venue, up to case. -/
def isOn (symbol venue : String) : Bool :=
  match venue? symbol with
  | some own => Text.sameLetters own venue
  | none => false

end OrderKeeper.Symbol
