import OrderKeeper.Binary64.Basic
import OrderKeeper.Text.Digits

/-!
Contract: binary floating-point numbers read from text.

Owns: the grammar of a float literal — an optional sign, then a word for an infinity
or a NaN in any case, or digits with an optional point and an optional power of ten —
and its reading as the nearest number.
-/

set_option autoImplicit false

namespace OrderKeeper.Binary64

inductive LiteralError where
  | empty
  | invalid
deriving DecidableEq, Repr

def LiteralError.message : LiteralError → String
  | .empty => "cannot parse float from empty string"
  | .invalid => "invalid float literal"

/-- Leading sign of a text, and what follows it. -/
def splitSign : List Char → Bool × List Char
  | '-' :: rest => (true, rest)
  | '+' :: rest => (false, rest)
  | rest => (false, rest)

/-- Powers of ten past this bound decide the value by themselves. -/
abbrev exponentBound : Nat := 100000

/-- The power of ten after a mantissa: none, or a mark, an optional sign and digits. -/
def literalExponent? : List Char → Option Int
  | [] => some 0
  | mark :: rest =>
      if mark = 'e' ∨ mark = 'E' then
        let (negative, digits) := splitSign rest
        if digits.isEmpty || !digits.all Text.isDigit then none
        else
          let size := min (Text.numeralValue digits) exponentBound
          some (if negative then -(size : Int) else size)
      else none

def ofNumeral? (negative : Bool) (text : List Char) : Option Binary64 :=
  let (whole, afterWhole) := Text.spanDigits text
  let (fraction, rest) := match afterWhole with
    | '.' :: afterPoint => Text.spanDigits afterPoint
    | rest => ([], rest)
  if whole.isEmpty && fraction.isEmpty then none
  else
    match literalExponent? rest with
    | none => none
    | some exponent =>
        let coefficient := Text.numeralValue (whole ++ fraction)
        if coefficient = 0 then some (ofMagnitude negative 0)
        else some (ofDecimal negative coefficient (exponent - fraction.length))

def parse (text : String) : Except LiteralError Binary64 :=
  if text.isEmpty then .error .empty
  else
    let (negative, rest) := splitSign text.toList
    let word := String.ofList (rest.map Char.toLower)
    if word = "inf" ∨ word = "infinity" then .ok (infinity negative)
    else if word = "nan" then .ok (if negative then nan.negate else nan)
    else
      match ofNumeral? negative rest with
      | some x => .ok x
      | none => .error .invalid

end OrderKeeper.Binary64
