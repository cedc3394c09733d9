import OrderKeeper.Binary64.Text
import OrderKeeper.Decimal.Text
import OrderKeeper.Text.Blank

/-!
Contract: values given on the command line.

Owns: a first price of a symbol, written `SYMBOL=PRICE`, and the step of the random walk,
a fraction from zero up to but not including one.
-/

set_option autoImplicit false

namespace OrderKeeper.CommandLine

/-! ## First prices -/

inductive SeedPriceError where
  | noSeparator
  | noSymbol
  | badPrice (cause : NumeralError)
  | notPositive
deriving DecidableEq, Repr

def SeedPriceError.message (text : String) : SeedPriceError → String
  | .noSeparator => "Expected SYMBOL=PRICE, got '" ++ text ++ "'"
  | .noSymbol => "Missing symbol in '" ++ text ++ "'"
  | .badPrice cause => "Invalid price in '" ++ text ++ "': " ++ cause.message
  | .notPositive => "Price must be positive in '" ++ text ++ "'"

structure SeedPrice where
  symbol : String
  price : Decimal
deriving DecidableEq

/-- Splits at the first equals sign; blanks around both parts are dropped. -/
def SeedPrice.parse (text : String) : Except SeedPriceError SeedPrice :=
  let chars := text.toList
  let symbol := String.ofList (Text.trimChars (chars.takeWhile (· != '=')))
  match chars.dropWhile (· != '=') with
  | [] => .error .noSeparator
  | _ :: price =>
      if symbol.isEmpty then .error .noSymbol
      else
        match Decimal.parse (String.ofList (Text.trimChars price)) with
        | .error cause => .error (.badPrice cause)
        | .ok price => if price ≤ .zero then .error .notPositive else .ok { symbol, price }

/-! ## Steps of the random walk -/

inductive WalkStepError where
  | badNumber (cause : Binary64.LiteralError)
  | outOfRange
deriving DecidableEq, Repr

def WalkStepError.message (text : String) : WalkStepError → String
  | .badNumber cause => "Invalid walk step '" ++ text ++ "': " ++ cause.message
  | .outOfRange => "Walk step must be in [0, 1), got '" ++ text ++ "'"

def WalkStep.parse (text : String) : Except WalkStepError Binary64 :=
  match Binary64.parse (Text.trim text) with
  | .error cause => .error (.badNumber cause)
  | .ok step =>
      if step.isFinite && !step.below .zero && step.below .one then .ok step
      else .error .outOfRange

end OrderKeeper.CommandLine
