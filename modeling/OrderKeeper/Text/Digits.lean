/-!
Contract: ASCII digits and numerals.

Owns: the value of one digit, the value of a run of digits, and the digits of a
number, least width included.
-/

set_option autoImplicit false

namespace OrderKeeper.Text

def isDigit (c : Char) : Bool :=
  '0' ≤ c && c ≤ '9'

def digitValue (c : Char) : Nat :=
  c.toNat - '0'.toNat

def digitChar (digit : Nat) : Char :=
  Char.ofNat ('0'.toNat + digit % 10)

/-- The number that a run of digits writes, most significant digit first. -/
def numeralValue (digits : List Char) : Nat :=
  digits.foldl (fun value c => 10 * value + digitValue c) 0

/-- The digits of a number, most significant first; zero has one digit. -/
def numeral (n : Nat) : List Char :=
  if n < 10 then [digitChar n] else numeral (n / 10) ++ [digitChar n]
termination_by n

/-- The digits of a number, filled with zeros on the left up to `width`. -/
def paddedNumeral (width n : Nat) : List Char :=
  let digits := numeral n
  List.replicate (width - digits.length) '0' ++ digits

/-- An integer with a minus sign when it is negative. -/
def signedNumeral (i : Int) : List Char :=
  if i < 0 then '-' :: numeral i.natAbs else numeral i.natAbs

/-- The longest run of digits at the start of a text, and what follows it. -/
def spanDigits (text : List Char) : List Char × List Char :=
  (text.takeWhile isDigit, text.dropWhile isDigit)

end OrderKeeper.Text
