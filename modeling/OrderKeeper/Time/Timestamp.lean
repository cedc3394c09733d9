import OrderKeeper.Text.Blank
import OrderKeeper.Text.Digits
import OrderKeeper.Time.Calendar
import OrderKeeper.Time.Instant

/-!
Contract: instants as RFC 3339 text.

Owns: the writer, which uses UTC and groups of three fraction digits, and the reader,
which also takes blanks between the parts, fields of one digit, signed years and a
blank in place of the `T`.
-/

set_option autoImplicit false

namespace OrderKeeper.Timestamp

-- Powers are those of the core library, also beside a library that has its own.
attribute [local instance (high)] instPowNat

/-! ## Writer -/

def renderYear (year : Int) : List Char :=
  if 0 ≤ year ∧ year ≤ 9999 then Text.paddedNumeral 4 year.natAbs
  else (if year < 0 then '-' else '+') :: Text.paddedNumeral 4 year.natAbs

/-- No digits, three, six or nine: the least of these that loses nothing. -/
def renderFraction (nanoseconds : Nat) : List Char :=
  if nanoseconds = 0 then []
  else if nanoseconds % 1000000 = 0 then '.' :: Text.paddedNumeral 3 (nanoseconds / 1000000)
  else if nanoseconds % 1000 = 0 then '.' :: Text.paddedNumeral 6 (nanoseconds / 1000)
  else '.' :: Text.paddedNumeral 9 nanoseconds

def render (instant : Instant) : String :=
  let date := Date.ofDayNumber (Int.fdiv instant.seconds 86400)
  let secondOfDay := (Int.fmod instant.seconds 86400).toNat
  let leap := instant.nanoseconds / 1000000000
  String.ofList (renderYear date.year ++ ['-'] ++ Text.paddedNumeral 2 date.month ++ ['-']
    ++ Text.paddedNumeral 2 date.day ++ ['T']
    ++ Text.paddedNumeral 2 (secondOfDay / 3600) ++ [':']
    ++ Text.paddedNumeral 2 (secondOfDay / 60 % 60) ++ [':']
    ++ Text.paddedNumeral 2 (secondOfDay % 60 + leap)
    ++ renderFraction (instant.nanoseconds % 1000000000) ++ ['Z'])

/-! ## Reader -/

/-- Between one and `width` digits, blanks before them skipped. -/
def readField? (width : Nat) (text : List Char) : Option (Nat × List Char) :=
  let text := Text.trimStartChars text
  let digits := (text.take width).takeWhile Text.isDigit
  if digits.isEmpty then none
  else some (Text.numeralValue digits, text.drop digits.length)

/-- A year: up to four digits, or any number of them after a sign. -/
def readYear? (text : List Char) : Option (Int × List Char) :=
  match Text.trimStartChars text with
  | '-' :: rest =>
      let (digits, rest) := Text.spanDigits rest
      if digits.isEmpty then none else some (-(Text.numeralValue digits : Int), rest)
  | '+' :: rest =>
      let (digits, rest) := Text.spanDigits rest
      if digits.isEmpty then none else some (Text.numeralValue digits, rest)
  | text => (readField? 4 text).map fun (year, rest) => ((year : Int), rest)

/-- One given character, blanks before it skipped. -/
def readMark? (mark : Char) (text : List Char) : Option (List Char) :=
  match Text.trimStartChars text with
  | c :: rest => if c = mark then some rest else none
  | [] => none

def readDate? (text : List Char) : Option (Date × List Char) := do
  let (year, text) ← readYear? text
  let text ← readMark? '-' text
  let (month, text) ← readField? 2 text
  let text ← readMark? '-' text
  let (day, text) ← readField? 2 text
  let date : Date := { year, month, day }
  if date.exists? then some (date, text) else none

/-- Nanoseconds from up to nine digits; further digits are skipped. -/
def readFraction? (text : List Char) : Option (Nat × List Char) :=
  match text with
  | '.' :: rest =>
      let (digits, rest) := Text.spanDigits rest
      if digits.isEmpty then none
      else
        let kept := digits.take 9
        some (Text.numeralValue kept * 10 ^ (9 - kept.length), rest)
  | text => some (0, text)

/-- Second of the day and nanoseconds.  Second 60 is the leap second after second 59. -/
def readTime? (text : List Char) : Option (Nat × Nat × List Char) := do
  let (hour, text) ← readField? 2 text
  let text ← readMark? ':' text
  let (minute, text) ← readField? 2 text
  let text ← readMark? ':' text
  let (second, text) ← readField? 2 text
  let (nanoseconds, text) ← readFraction? text
  if 23 < hour ∨ 59 < minute ∨ 60 < second then none
  else if second = 60 then
    some (hour * 3600 + minute * 60 + 59, nanoseconds + 1000000000, text)
  else some (hour * 3600 + minute * 60 + second, nanoseconds, text)

def twoDigits? : List Char → Option (Nat × List Char)
  | tens :: ones :: rest =>
      if Text.isDigit tens && Text.isDigit ones then
        some (Text.numeralValue [tens, ones], rest)
      else none
  | _ => none

/-- Hours and minutes of an offset, with any colons and blanks between them. -/
def readOffsetSize? (text : List Char) : Option (Nat × List Char) := do
  let (hours, text) ← twoDigits? text
  let (minutes, text) ← twoDigits? (text.dropWhile fun c => c = ':' || Text.isBlank c)
  if 59 < minutes ∨ 23 < hours then none
  else some (hours * 3600 + minutes * 60, text)

/-- Seconds east of UTC: a letter `Z`, the word `UTC`, or a signed offset. -/
def readOffset? (text : List Char) : Option (Int × List Char) :=
  let text := Text.trimStartChars text
  if (text.take 3).map Char.toUpper = ['U', 'T', 'C'] then some (0, text.drop 3)
  else
    match text with
    | 'Z' :: rest => some (0, rest)
    | 'z' :: rest => some (0, rest)
    | '+' :: rest => (readOffsetSize? rest).map fun (size, rest) => ((size : Int), rest)
    | '-' :: rest => (readOffsetSize? rest).map fun (size, rest) => (-(size : Int), rest)
    | '\u2212' :: rest => (readOffsetSize? rest).map fun (size, rest) => (-(size : Int), rest)
    | _ => none

/-- Whether the day of an instant lies in the years that a date may have. -/
def isInRange (instant : Instant) : Bool :=
  let day := Int.fdiv instant.seconds 86400
  Date.toDayNumber ⟨Date.firstYear, 1, 1⟩ ≤ day
    && day ≤ Date.toDayNumber ⟨Date.lastYear, 12, 31⟩

def parse? (text : String) : Option Instant := do
  let (date, rest) ← readDate? text.toList
  let rest ← match rest with
    | 't' :: rest => some rest
    | 'T' :: rest => some rest
    | ' ' :: rest => some rest
    | _ => none
  let (secondOfDay, nanoseconds, rest) ← readTime? rest
  let (offset, rest) ← readOffset? rest
  let instant : Instant := ⟨date.toDayNumber * 86400 + secondOfDay - offset, nanoseconds⟩
  if (Text.trimStartChars rest).isEmpty && isInRange instant then some instant else none

end OrderKeeper.Timestamp
