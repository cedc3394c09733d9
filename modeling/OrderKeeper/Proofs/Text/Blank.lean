import Mathlib.Data.List.Basic
import OrderKeeper.Proofs.Text.Case
import OrderKeeper.Text.Blank

/-!
Contract: blanks and letter case.

Owns: that upper case touches no blank and makes none, so that a text may be trimmed before
or after it is brought into upper case.
-/

set_option autoImplicit false

namespace OrderKeeper.Text

@[simp] theorem isBlank_toUpper (c : Char) : isBlank c.toUpper = isBlank c := by
  by_cases isLower : 97 ≤ c.toNat ∧ c.toNat ≤ 122
  · have table : ∀ code ≤ 122, 97 ≤ code →
        isBlank (Char.ofNat code).toUpper = isBlank (Char.ofNat code) := by decide
    have entry := table c.toNat isLower.2 isLower.1
    rwa [Char.ofNat_toNat] at entry
  · have unchanged : c.toUpper = c := dif_neg isLower
    rw [unchanged]

theorem trimStartChars_map_toUpper (text : List Char) :
    trimStartChars (text.map Char.toUpper) = (trimStartChars text).map Char.toUpper := by
  have sameTest : isBlank ∘ Char.toUpper = isBlank := funext isBlank_toUpper
  unfold trimStartChars
  rw [List.dropWhile_map, sameTest]

theorem trim_upper (text : String) : trim (upper text) = upper (trim text) := by
  unfold trim upper trimChars
  rw [String.toList_ofList, String.toList_ofList, trimStartChars_map_toUpper, ← List.map_reverse,
    trimStartChars_map_toUpper, List.map_reverse]

end OrderKeeper.Text
