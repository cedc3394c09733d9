/-!
Contract: ASCII letter case.

Owns: upper and lower casing that touches `A`–`Z` and `a`–`z` only, and equality
up to that case.  Every other character, accented letters included, stands for
itself.
-/

set_option autoImplicit false

namespace OrderKeeper.Text

def upper (text : String) : String :=
  String.ofList (text.toList.map Char.toUpper)

def lower (text : String) : String :=
  String.ofList (text.toList.map Char.toLower)

/-- Equality up to the case of ASCII letters. -/
def sameLetters (left right : String) : Bool :=
  left.toList.map Char.toLower == right.toList.map Char.toLower

end OrderKeeper.Text
