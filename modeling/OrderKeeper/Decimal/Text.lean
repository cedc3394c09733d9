import OrderKeeper.Decimal.Arithmetic
import OrderKeeper.Text.Digits

/-!
Contract: decimals as text.

Owns: the printer, the reader of plain numerals, the reader that also takes a power
of ten, and the causes for which a text is no decimal.

A plain numeral has one leading sign at most, digits, one point at most, and
underscores after the first digit.  Digits past the 28th fraction digit, or past 96
bits once the point is written, are rounded away: the first of them decides, and
those after it must be digits or underscores but count for nothing.
-/

set_option autoImplicit false

namespace OrderKeeper

-- Powers are those of the core library, also beside a library that has its own.
attribute [local instance (high)] instPowNat

/-- Why a text is no decimal. -/
inductive NumeralError where
  | empty
  | noDigits
  | twoPoints
  | leadingUnderscore
  | unknownCharacter
  | tooManyDigits
  | roundedTooLarge
  | badExponent
  | exponentTooLarge (exponent : Nat)
  | valueTooLarge
deriving DecidableEq, Repr

def NumeralError.message : NumeralError → String
  | .empty => "Invalid decimal: empty"
  | .noDigits => "Invalid decimal: no digits found"
  | .twoPoints => "Invalid decimal: two decimal points"
  | .leadingUnderscore => "Invalid decimal: must start lead with a number"
  | .unknownCharacter => "Invalid decimal: unknown character"
  | .tooManyDigits => "Invalid decimal: overflow from too many digits"
  | .roundedTooLarge => "Invalid decimal: overflow from mantissa after rounding"
  | .badExponent => "Failed to parse"
  | .exponentTooLarge exponent =>
      "Scale exceeds the maximum precision allowed: " ++ String.ofList (Text.numeral exponent)
        ++ " > 28"
  | .valueTooLarge => "Number exceeds maximum value that can be represented."

namespace Decimal

/-! ## Printer -/

/-- All digits of the mantissa, at least one of them before the point. -/
def render (x : Decimal) : String :=
  let digits := Text.paddedNumeral (x.scale + 1) x.mantissa
  let whole := digits.take (digits.length - x.scale)
  let fraction := digits.drop (digits.length - x.scale)
  String.ofList ((if x.negative then ['-'] else []) ++ whole
    ++ (if fraction.isEmpty then [] else '.' :: fraction))

/-! ## Reader of plain numerals -/

/-- What has been read of a numeral. -/
structure Partial where
  negative : Bool
  mantissa : Nat
  scale : Nat
  hasPoint : Bool
  hasDigit : Bool
  /-- Whether the last character was an underscore that put off the rounding. -/
  putsOff : Bool
  mantissa_lt : mantissa < 2 ^ (96 : Nat)

def Partial.start (negative : Bool) : Partial :=
  ⟨negative, 0, 0, false, false, false, zero.mantissa_lt⟩

/-- The decimal with a scale that counts modulo 29. -/
def ofWrappedScale (negative : Bool) (mantissa scale : Nat)
    (mantissa_lt : mantissa < 2 ^ (96 : Nat)) :
    Decimal :=
  ofParts negative mantissa (scale % 29) mantissa_lt (by omega)

def Partial.finish (read : Partial) : Except NumeralError Decimal :=
  if read.hasDigit then
    .ok (ofWrappedScale read.negative read.mantissa read.scale read.mantissa_lt)
  else .error .noDigits

/-- Why a character cannot continue a numeral. -/
def refusal (c : Char) : NumeralError :=
  if c = '.' then .twoPoints
  else if c = '_' then .leadingUnderscore
  else .unknownCharacter

/-- The first of some characters that may not follow the digit that decides the rounding. -/
def strayCharacter? (rest : List Char) : Option Char :=
  rest.find? fun c => !(Text.isDigit c || c == '_')

/-- Ends a numeral at the first digit that is rounded away. -/
def Partial.roundAt (read : Partial) (digit : Nat) (rest : List Char) :
    Except NumeralError Decimal :=
  match strayCharacter? rest with
  | some c => .error (refusal c)
  | none =>
      if digit < 5 then
        .ok (ofWrappedScale read.negative read.mantissa read.scale read.mantissa_lt)
      else if fits : read.mantissa + 1 < 2 ^ (96 : Nat) then
        .ok (ofWrappedScale read.negative (read.mantissa + 1) read.scale fits)
      else if read.scale = 0 then .error .roundedTooLarge
      else .ok (ofWrappedScale read.negative carriedMantissa (read.scale - 1) carriedMantissa_lt)

/-- Mantissas from which on a further digit may pass 64 bits. -/
abbrev wideMantissa : Nat := (2 ^ (64 : Nat) - 1) / 10 - 255

/-- Whether the digits before the last one make a wide mantissa. -/
def Partial.isWide (read : Partial) : Bool :=
  wideMantissa ≤ read.mantissa / 10

/-- A numeral with one more digit. -/
def Partial.push (read : Partial) (digit : Nat)
    (fits : 10 * read.mantissa + digit < 2 ^ (96 : Nat)) : Partial :=
  { read with
    mantissa := 10 * read.mantissa + digit
    scale := if read.hasPoint then read.scale + 1 else read.scale
    hasDigit := true
    putsOff := false
    mantissa_lt := fits }

/-- Reads the rest of a numeral, its sign being read.  An underscore past the last
fraction digit stands for the digit zero, but in a wide numeral it puts the rounding
off to the next digit. -/
def readRest (read : Partial) : List Char → Except NumeralError Decimal
  | [] => read.finish
  | c :: rest =>
      let full := read.hasPoint && decide (28 ≤ read.scale) && !read.putsOff
      if Text.isDigit c then
        if fits : 10 * read.mantissa + Text.digitValue c < 2 ^ (96 : Nat) then
          if full then read.roundAt (Text.digitValue c) rest
          else readRest (read.push (Text.digitValue c) fits) rest
        else if read.hasPoint then read.roundAt (Text.digitValue c) rest
        else .error .tooManyDigits
      else if c = '.' && !read.hasPoint then readRest { read with hasPoint := true } rest
      else if c = '_' && read.hasDigit then
        if !full then readRest read rest
        else if read.isWide then readRest { read with putsOff := true } rest
        else read.roundAt 0 rest
      else .error (refusal c)

/-- Reads a plain numeral. -/
def ofNumeral (text : List Char) : Except NumeralError Decimal :=
  match text with
  | [] => .error .empty
  | '-' :: rest => readRest (.start true) rest
  | '+' :: rest => readRest (.start false) rest
  | text => readRest (.start false) text

/-! ## Powers of ten -/

/-- A run of digits, with one leading plus sign at most, below `2 ^ 32`. -/
def exponentValue? (text : List Char) : Option Nat :=
  let digits := match text with
    | '+' :: rest => rest
    | digits => digits
  if digits.isEmpty || !digits.all Text.isDigit then none
  else
    let value := Text.numeralValue digits
    if value < 2 ^ (32 : Nat) then some value else none

/-- Drops fraction digits, rounding half up on the first dropped one. -/
def dropHalfUp (mantissa dropped : Nat) : Nat :=
  if dropped = 0 then mantissa
  else
    let kept := mantissa / 10 ^ dropped
    if 5 ≤ mantissa / 10 ^ (dropped - 1) % 10 then kept + 1 else kept

theorem dropHalfUp_le (mantissa dropped : Nat) : dropHalfUp mantissa dropped ≤ mantissa := by
  unfold dropHalfUp
  split
  · exact Nat.le_refl _
  · rename_i positive
    obtain ⟨k, rfl⟩ : ∃ k, dropped = k + 1 := ⟨dropped - 1, by omega⟩
    have split_pow : mantissa / 10 ^ (k + 1) = mantissa / 10 ^ k / 10 := by
      rw [Nat.pow_succ, Nat.div_div_eq_div_mul]
    have := Nat.div_le_self mantissa (10 ^ k)
    simp only [Nat.add_sub_cancel, split_pow]
    split <;> omega

/-- The number with its point moved `places` to the left, rounded at 28 digits.  What is
rounded to zero keeps its sign. -/
def movePointLeft (x : Decimal) (places : Nat) : Decimal :=
  if fits : x.scale + places ≤ 28 then
    ofParts x.negative x.mantissa (x.scale + places) x.mantissa_lt fits
  else
    ⟨x.negative, dropHalfUp x.mantissa (x.scale - (28 - places)), 28,
      Nat.lt_of_le_of_lt (dropHalfUp_le _ _) x.mantissa_lt, Nat.le_refl _⟩

theorem scale_sub_le (x : Decimal) (places : Nat) : x.scale - places ≤ 28 :=
  Nat.le_trans (Nat.sub_le x.scale places) x.scale_le

/-- The number times a power of ten.  A point that moves within the fraction keeps the
digits; one that moves past it leaves an integer. -/
def movePointRight (x : Decimal) (places : Nat) : Except NumeralError Decimal :=
  if places ≤ x.scale then
    .ok (ofParts x.negative x.mantissa (x.scale - places) x.mantissa_lt (x.scale_sub_le places))
  else if 28 < places then .error (.exponentTooLarge places)
  else if x.isZero then .ok zero
  else
    match fit? x.negative (x.mantissa * 10 ^ (places - x.scale)) 0 with
    | some product => .ok product.normalize
    | none => .error .valueTooLarge

/-- Reads a plain numeral with a power of ten after the first `e` or `E`. -/
def ofScientific (text : List Char) : Except NumeralError Decimal :=
  let isMark := fun c => c == 'e' || c == 'E'
  match ofNumeral (text.takeWhile (!isMark ·)), (text.dropWhile (!isMark ·)).tail with
  | .error cause, _ => .error cause
  | .ok base, '-' :: digits =>
      match exponentValue? digits with
      | none => .error .badExponent
      | some places =>
          if places ≤ 28 then .ok (base.movePointLeft places)
          else .error (.exponentTooLarge places)
  | .ok base, digits =>
      match exponentValue? digits with
      | none => .error .badExponent
      | some places => base.movePointRight places

/-- Reads a decimal: a plain numeral, or one with a power of ten. -/
def parse (text : String) : Except NumeralError Decimal :=
  let chars := text.toList
  if chars.any (fun c => c == 'e' || c == 'E') then ofScientific chars else ofNumeral chars

end Decimal

end OrderKeeper
