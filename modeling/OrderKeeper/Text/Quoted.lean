import OrderKeeper.Text.Mark

/-!
Contract: text in double quotes for a reader's eye.

Owns: the escapes that make a quoted text unambiguous, those of characters without a
mark of their own included.
-/

set_option autoImplicit false

namespace OrderKeeper.Text

def hexNumeral (n : Nat) : List Char :=
  Nat.toDigits 16 n

/-- A character inside quotes. -/
def quotedChar (c : Char) : List Char :=
  match c with
  | '"' => ['\\', '"']
  | '\\' => ['\\', '\\']
  | '\n' => ['\\', 'n']
  | '\r' => ['\\', 'r']
  | '\t' => ['\\', 't']
  | '\x00' => ['\\', '0']
  | c =>
      if hasMark c then [c] else ['\\', 'u', '\x7b'] ++ hexNumeral c.toNat ++ ['\x7d']

def quoted (text : String) : String :=
  String.ofList (['"'] ++ text.toList.flatMap quotedChar ++ ['"'])

end OrderKeeper.Text
