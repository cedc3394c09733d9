import OrderKeeper.Text.Digits

/-!
Contract: the grammar of JSON text.

Owns: a document as it is written — numerals and string literals still in pieces, the
members of an object in order with their repetitions — and its reader.

Does not own: the range of numbers, the pairing of surrogates and the depth of
nesting.  A reader of values settles these for the parts that it uses, so a part that
nobody uses may break them.
-/

set_option autoImplicit false

namespace OrderKeeper.Json

/-- One character of a string literal, or one UTF-16 unit written as `\u` and four
hexadecimal digits. -/
inductive Piece where
  | char (c : Char)
  | unit (code : Nat)
deriving DecidableEq, Repr, Inhabited

/-- A numeral in pieces: digits before the point, after it, and the power of ten with its
sign. -/
structure NumeralText where
  negative : Bool
  whole : List Char
  fraction : Option (List Char)
  exponent : Option (Bool × List Char)
deriving DecidableEq, Repr, Inhabited

inductive Document where
  | null
  | bool (value : Bool)
  | numeral (text : NumeralText)
  | string (pieces : List Piece)
  | array (items : List Document)
  | object (members : List (List Piece × Document))
deriving Inhabited

namespace Document

/-! ## Tokens -/

def isSpace (c : Char) : Bool :=
  c == ' ' || c == '\n' || c == '\t' || c == '\r'

def skipSpace (text : List Char) : List Char :=
  text.dropWhile isSpace

/-- The text after an expected word. -/
def afterWord? : List Char → List Char → Option (List Char)
  | [], text => some text
  | _ :: _, [] => none
  | expected :: word, c :: text => if expected = c then afterWord? word text else none

def hexValue? (c : Char) : Option Nat :=
  if Text.isDigit c then some (Text.digitValue c)
  else if 'a' ≤ c && c ≤ 'f' then some (c.toNat - 'a'.toNat + 10)
  else if 'A' ≤ c && c ≤ 'F' then some (c.toNat - 'A'.toNat + 10)
  else none

def hexUnit? (a b c d : Char) : Option Nat := do
  let a ← hexValue? a
  let b ← hexValue? b
  let c ← hexValue? c
  let d ← hexValue? d
  some (((a * 16 + b) * 16 + c) * 16 + d)

/-- The character that a backslash and a letter stand for. -/
def shortEscape? (c : Char) : Option Char :=
  match c with
  | '"' => some '"'
  | '\\' => some '\\'
  | '/' => some '/'
  | 'b' => some '\x08'
  | 'f' => some '\x0c'
  | 'n' => some '\n'
  | 'r' => some '\r'
  | 't' => some '\t'
  | _ => none

/-- The pieces of a string literal up to its closing quote; control characters must be
escaped. -/
def readString? : List Char → Option (List Piece × List Char)
  | [] => none
  | '"' :: rest => some ([], rest)
  | '\\' :: 'u' :: a :: b :: c :: d :: rest => do
      let code ← hexUnit? a b c d
      let (pieces, rest) ← readString? rest
      some (.unit code :: pieces, rest)
  | '\\' :: letter :: rest => do
      let c ← shortEscape? letter
      let (pieces, rest) ← readString? rest
      some (.char c :: pieces, rest)
  | '\\' :: [] => none
  | c :: rest =>
      if c.toNat < 0x20 then none
      else do
        let (pieces, rest) ← readString? rest
        some (.char c :: pieces, rest)

def readFraction? : List Char → Option (Option (List Char) × List Char)
  | '.' :: rest =>
      let (digits, rest) := Text.spanDigits rest
      if digits.isEmpty then none else some (some digits, rest)
  | rest => some (none, rest)

def readExponent? : List Char → Option (Option (Bool × List Char) × List Char)
  | [] => some (none, [])
  | mark :: rest =>
      if mark = 'e' ∨ mark = 'E' then
        let (negative, rest) := match rest with
          | '-' :: rest => (true, rest)
          | '+' :: rest => (false, rest)
          | rest => (false, rest)
        let (digits, rest) := Text.spanDigits rest
        if digits.isEmpty then none else some (some (negative, digits), rest)
      else some (none, mark :: rest)

/-- A numeral: no leading zero before another digit, and a digit on each side of a point. -/
def readNumeral? (negative : Bool) (text : List Char) : Option (NumeralText × List Char) := do
  let (whole, rest) := Text.spanDigits text
  if whole.isEmpty || (1 < whole.length && whole.head? == some '0') then none
  else
    let (fraction, rest) ← readFraction? rest
    let (exponent, rest) ← readExponent? rest
    some ({ negative, whole, fraction, exponent }, rest)

/-! ## Values -/

mutual

/-- A value after any space, with `fuel` bounding the steps taken. -/
def readValue? (fuel : Nat) (text : List Char) : Option (Document × List Char) :=
  match fuel with
  | 0 => none
  | fuel + 1 =>
      match skipSpace text with
      | 'n' :: rest => (afterWord? ['u', 'l', 'l'] rest).map fun rest => (.null, rest)
      | 't' :: rest => (afterWord? ['r', 'u', 'e'] rest).map fun rest => (.bool true, rest)
      | 'f' :: rest =>
          (afterWord? ['a', 'l', 's', 'e'] rest).map fun rest => (.bool false, rest)
      | '"' :: rest => (readString? rest).map fun (pieces, rest) => (.string pieces, rest)
      | '[' :: rest =>
          match skipSpace rest with
          | ']' :: rest => some (.array [], rest)
          | rest => (readItems? fuel rest).map fun (items, rest) => (.array items, rest)
      | '{' :: rest =>
          match skipSpace rest with
          | '}' :: rest => some (.object [], rest)
          | rest => (readMembers? fuel rest).map fun (members, rest) => (.object members, rest)
      | '-' :: rest =>
          (readNumeral? true rest).map fun (text, rest) => (.numeral text, rest)
      | rest => (readNumeral? false rest).map fun (text, rest) => (.numeral text, rest)

/-- Items of an array up to its closing bracket, at least one. -/
def readItems? (fuel : Nat) (text : List Char) : Option (List Document × List Char) :=
  match fuel with
  | 0 => none
  | fuel + 1 =>
      match readValue? fuel text with
      | none => none
      | some (item, rest) =>
          match skipSpace rest with
          | ']' :: rest => some ([item], rest)
          | ',' :: rest => (readItems? fuel rest).map fun (items, rest) => (item :: items, rest)
          | _ => none

/-- Members of an object up to its closing brace, at least one. -/
def readMembers? (fuel : Nat) (text : List Char) :
    Option (List (List Piece × Document) × List Char) :=
  match fuel with
  | 0 => none
  | fuel + 1 =>
      match skipSpace text with
      | '"' :: rest =>
          match readString? rest with
          | none => none
          | some (key, rest) =>
              match skipSpace rest with
              | ':' :: rest =>
                  match readValue? fuel rest with
                  | none => none
                  | some (value, rest) =>
                      match skipSpace rest with
                      | '}' :: rest => some ([(key, value)], rest)
                      | ',' :: rest =>
                          (readMembers? fuel rest).map fun (members, rest) =>
                            ((key, value) :: members, rest)
                      | _ => none
              | _ => none
      | _ => none

end

/-- The one value that a text holds.  A bracket and an item take a step each, so twice
the length of the text bounds the steps. -/
def parse? (text : String) : Option Document :=
  let chars := text.toList
  match readValue? (2 * chars.length + 2) chars with
  | some (document, rest) => if (skipSpace rest).isEmpty then some document else none
  | none => none

end Document

end OrderKeeper.Json
