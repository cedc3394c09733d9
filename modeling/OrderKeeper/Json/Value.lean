import OrderKeeper.Binary64.Shortest
import OrderKeeper.Dictionary
import OrderKeeper.Json.Document

/-!
Contract: JSON values.

Owns: numbers and strings in range, values with the members of an object sorted by
key, the reading of a document as a value, and the printer.

An integer is exact within 64 bits and a float otherwise.  A float keeps the digits
of its significand that fit 64 bits, and is the product or quotient, rounded once
more, of that significand and a power of ten.
-/

set_option autoImplicit false

namespace OrderKeeper.Json

-- Powers are those of the core library, also beside a library that has its own.
attribute [local instance (high)] instPowNat

/-! ## Strings -/

def isHighSurrogate (code : Nat) : Bool :=
  0xD800 ≤ code && code ≤ 0xDBFF

def isLowSurrogate (code : Nat) : Bool :=
  0xDC00 ≤ code && code ≤ 0xDFFF

/-- The characters of a string literal, unless a surrogate in it has no partner. -/
def decodePieces? : List Piece → Option (List Char)
  | [] => some []
  | .char c :: rest => (decodePieces? rest).map (c :: ·)
  | .unit high :: .unit low :: rest =>
      if isHighSurrogate high then
        if isLowSurrogate low then
          (decodePieces? rest).map
            (Char.ofNat ((high - 0xD800) * 0x400 + (low - 0xDC00) + 0x10000) :: ·)
        else none
      else if isLowSurrogate high then none
      else (decodePieces? (.unit low :: rest)).map (Char.ofNat high :: ·)
  | .unit code :: rest =>
      if isHighSurrogate code || isLowSurrogate code then none
      else (decodePieces? rest).map (Char.ofNat code :: ·)

def decodeString? (pieces : List Piece) : Option String :=
  (decodePieces? pieces).map String.ofList

/-! ## Numbers -/

inductive Number where
  | integer (value : Int)
  | float (value : Binary64)
deriving DecidableEq, Repr, Inhabited

/-- Reads digits while the value stays below `2 ^ 64`; the rest is returned unread. -/
def takeDigits (value : Nat) : List Char → Nat × List Char
  | [] => (value, [])
  | c :: rest =>
      let next := 10 * value + Text.digitValue c
      if next < 2 ^ (64 : Nat) then takeDigits next rest else (value, c :: rest)

/-- The least power of ten that is no float table entry: larger ones are taken in steps. -/
abbrev tableEnd : Nat := 309

/-- `significand · 10 ^ (-places)` by one division, or by several when `places` is beyond
the largest power of ten that a float holds. -/
def divideByPower (fuel : Nat) (x : Binary64) (places : Nat) : Binary64 :=
  match fuel with
  | 0 => x
  | fuel + 1 =>
      if places < tableEnd then x.div (Binary64.ofDecimal false 1 places)
      else if x.isZero then x
      else divideByPower fuel (x.div (Binary64.ofDecimal false 1 308)) (places - 308)

/-- The float of a significand and a power of ten, unless it is too large. -/
def scaledFloat? (negative : Bool) (significand : Nat) (exponent : Int) : Option Binary64 :=
  let x := Binary64.ofNat significand
  let scaled : Option Binary64 :=
    if exponent < 0 then
      some (divideByPower (exponent.natAbs / 308 + 2) x exponent.natAbs)
    else if exponent < tableEnd then
      let product := x.mul (Binary64.ofDecimal false 1 exponent)
      if product.isFinite then some product else none
    else if x.isZero then some x
    else none
  scaled.map fun x => if negative then x.negate else x

/-- The bound below which the digits of a power of ten are counted. -/
abbrev exponentLimit : Nat := 2 ^ (31 : Nat)

/-- The float of a numeral.  A power of ten of ten digits or more leaves zero, or has no
float when it is positive and the significand is not zero. -/
def floatOf? (text : NumeralText) : Option Binary64 :=
  let (whole, wholeRest) := takeDigits 0 text.whole
  let (significand, fractionRest) := takeDigits whole (text.fraction.getD [])
  let fractionTaken := (text.fraction.getD []).length - fractionRest.length
  let exponent : Int := (wholeRest.length : Int) - fractionTaken
  match text.exponent with
  | none => scaledFloat? text.negative significand exponent
  | some (negative, digits) =>
      let size := Text.numeralValue digits
      if exponentLimit ≤ size then
        if !negative && significand != 0 then none
        else some (Binary64.ofMagnitude text.negative 0)
      else
        scaledFloat? text.negative significand
          (if negative then exponent - size else exponent + size)

/-- The number that a numeral writes.  Minus zero is a float. -/
def Number.ofText? (text : NumeralText) : Option Number :=
  if text.fraction.isNone && text.exponent.isNone then
    let size := Text.numeralValue text.whole
    if text.negative then
      if 0 < size ∧ size ≤ 2 ^ (63 : Nat) then some (.integer (-(size : Int)))
      else (floatOf? text).map .float
    else if size < 2 ^ (64 : Nat) then some (.integer size)
    else (floatOf? text).map .float
  else (floatOf? text).map .float

def Number.toFloat : Number → Binary64
  | .integer value => Binary64.ofInt value
  | .float value => value

def Number.render : Number → String
  | .integer value => String.ofList (Text.signedNumeral value)
  | .float value => value.renderInterchange

/-! ## Values -/

inductive Value where
  | null
  | bool (value : Bool)
  | number (value : Number)
  | string (value : String)
  | array (items : List Value)
  | object (members : List (String × Value))
deriving Inhabited

/-- An object of members given in any order; of two with one key the later one counts. -/
def Value.ofMembers (members : List (String × Value)) : Value :=
  .object (members.foldl (fun sorted (key, value) => insertEntry key value sorted) [])

/-- How many brackets may be open at once, and one more. -/
abbrev depthBudget : Nat := 128

mutual

/-- The value of a document, if its numbers are in range, its surrogates are paired and
fewer than `budget` brackets are open at once. -/
def Document.toValue? (budget : Nat) : Document → Option Value
  | .null => some .null
  | .bool value => some (.bool value)
  | .numeral text => (Number.ofText? text).map .number
  | .string pieces => (decodeString? pieces).map .string
  | .array items =>
      if budget < 2 then none else (Document.toValues? (budget - 1) items).map .array
  | .object members =>
      if budget < 2 then none
      else (Document.toMembers? (budget - 1) members).map Value.ofMembers

def Document.toValues? (budget : Nat) : List Document → Option (List Value)
  | [] => some []
  | item :: rest =>
      match Document.toValue? budget item with
      | none => none
      | some value => (Document.toValues? budget rest).map (value :: ·)

def Document.toMembers? (budget : Nat) :
    List (List Piece × Document) → Option (List (String × Value))
  | [] => some []
  | (key, item) :: rest =>
      match decodeString? key, Document.toValue? budget item with
      | some key, some value => (Document.toMembers? budget rest).map ((key, value) :: ·)
      | _, _ => none

end

def Value.parse? (text : String) : Option Value :=
  (Document.parse? text).bind (Document.toValue? depthBudget)

/-! ## Printer -/

def hexDigit (n : Nat) : Char :=
  if n < 10 then Char.ofNat ('0'.toNat + n) else Char.ofNat ('a'.toNat + n - 10)

def escapeChar (c : Char) : List Char :=
  match c with
  | '"' => ['\\', '"']
  | '\\' => ['\\', '\\']
  | '\n' => ['\\', 'n']
  | '\r' => ['\\', 'r']
  | '\t' => ['\\', 't']
  | '\x08' => ['\\', 'b']
  | '\x0c' => ['\\', 'f']
  | c =>
      if c.toNat < 0x20 then
        ['\\', 'u', '0', '0', hexDigit (c.toNat / 16), hexDigit (c.toNat % 16)]
      else [c]

def quote (text : String) : String :=
  "\"" ++ String.ofList (text.toList.flatMap escapeChar) ++ "\""

mutual

/-- A value on one line without spaces. -/
def Value.render : Value → String
  | .null => "null"
  | .bool value => if value then "true" else "false"
  | .number value => value.render
  | .string value => quote value
  | .array items => "[" ++ String.intercalate "," (Value.renderItems items) ++ "]"
  | .object members => "\x7b" ++ String.intercalate "," (Value.renderMembers members) ++ "\x7d"

def Value.renderItems : List Value → List String
  | [] => []
  | item :: rest => item.render :: Value.renderItems rest

def Value.renderMembers : List (String × Value) → List String
  | [] => []
  | (key, value) :: rest => (quote key ++ ":" ++ value.render) :: Value.renderMembers rest

end

end OrderKeeper.Json
