import OrderKeeper.Binary64.Basic
import OrderKeeper.Text.Digits

/-!
Contract: the shortest decimal of a binary floating-point number.

Owns: the decimal with the fewest digits that rounds back to a given finite number,
the nearest of those when there are several, and its two layouts: plain positional,
and positional within bounds with a power of ten outside them.
-/

set_option autoImplicit false

namespace OrderKeeper.Binary64

-- Powers are those of the core library, also beside a library that has its own.
attribute [local instance (high)] instPowNat

/-- A positive number and the interval of values that round to it, as counts of
`2 ^ exponent`: the value is `4 · significand`, the ends are `low` and `high`. -/
structure RoundingInterval where
  value : Nat
  low : Nat
  high : Nat
  closed : Bool
  exponent : Int

def roundingInterval (x : Binary64) : RoundingInterval :=
  let significand := x.significand
  let low := if significand = 2 ^ (52 : Nat) ∧ -1074 < x.exponent then 1 else 2
  { value := 4 * significand
    low := 4 * significand - low
    high := 4 * significand + 2
    closed := significand % 2 = 0
    exponent := x.exponent - 2 }

/-- `count · 2 ^ exponent / 10 ^ power` as a fraction. -/
def onGrid (count : Nat) (exponent power : Int) : Nat × Nat :=
  let numerator := count * 2 ^ exponent.toNat * 10 ^ (-power).toNat
  let denominator := 2 ^ (-exponent).toNat * 10 ^ power.toNat
  (numerator, denominator)

/-- The multiple of `10 ^ power` in the interval that is nearest to its value. -/
def candidate? (interval : RoundingInterval) (power : Int) : Option Nat :=
  let (n, d) := onGrid interval.value interval.exponent power
  let (lowN, lowD) := onGrid interval.low interval.exponent power
  let (highN, highD) := onGrid interval.high interval.exponent power
  let inside := fun k : Nat =>
    if interval.closed then lowN ≤ k * lowD && k * highD ≤ highN
    else lowN < k * lowD && k * highD < highN
  let below := n / d
  let nearest := nearestQuotient n d
  let other := if nearest = below then below + 1 else below
  if inside nearest then some nearest
  else if inside other then some other
  else none

/-- The coarsest power of ten, from `power` downwards, on which the interval has a point. -/
def coarsest (interval : RoundingInterval) (power : Int) : Nat → Nat × Int
  | 0 => (0, power)
  | steps + 1 =>
      match candidate? interval power with
      | some k => if k = 0 then coarsest interval (power - 1) steps else (k, power)
      | none => coarsest interval (power - 1) steps

/-- Digits and power of ten of a positive finite number: `digits · 10 ^ power`. -/
def shortest (x : Binary64) : Nat × Int :=
  let interval := x.roundingInterval
  let bits : Int := (x.significand.log2 : Int) + x.exponent
  coarsest interval (bits * 30103 / 100000 + 2) 24

/-! ## Layouts -/

/-- The digits with the point where `power` puts it and no power of ten. -/
def positional (digits : List Char) (power : Int) : List Char :=
  if 0 ≤ power then digits ++ List.replicate power.toNat '0'
  else
    let places := (-power).toNat
    let padded := List.replicate (places + 1 - digits.length) '0' ++ digits
    padded.take (padded.length - places) ++ '.' :: padded.drop (padded.length - places)

/-- A finite number in plain positional digits, an integer without a point. -/
def renderPositional (x : Binary64) : String :=
  let sign := if x.isNegative then ['-'] else []
  if x.isZero then String.ofList (sign ++ ['0'])
  else
    let (digits, power) := x.shortest
    String.ofList (sign ++ positional (Text.numeral digits) power)

/-- Where an interchange numeral stops being positional and how its exponent is written. -/
structure NumeralLayout where
  /-- The smallest exponent of the leading digit that is written positionally. -/
  leastExponent : Int
  /-- The first exponent of the leading digit that no longer is. -/
  exponentLimit : Int

/-- The leading digit stands between the fifth fraction place and the sixteenth digit. -/
def interchangeLayout : NumeralLayout :=
  { leastExponent := -5, exponentLimit := 16 }

/-- A finite number as an interchange numeral: a point always stands in a positional one,
and an exponent has a sign. -/
def renderInterchange (x : Binary64) : String :=
  let sign := if x.isNegative then ['-'] else []
  if x.isZero then String.ofList (sign ++ ['0', '.', '0'])
  else
    let (digits, power) := x.shortest
    let numeral := Text.numeral digits
    let leading : Int := power + numeral.length - 1
    if interchangeLayout.leastExponent ≤ leading ∧ leading < interchangeLayout.exponentLimit then
      let fraction := if 0 ≤ power then ['.', '0'] else []
      String.ofList (sign ++ positional numeral power ++ fraction)
    else
      let fraction := match numeral.tail with
        | [] => []
        | rest => '.' :: rest
      let exponentSign := if leading < 0 then '-' else '+'
      String.ofList (sign ++ numeral.take 1 ++ fraction ++ ['e', exponentSign]
        ++ Text.numeral leading.natAbs)

end OrderKeeper.Binary64
