import Mathlib
import OrderKeeper.Text.Case

/-!
Contract: equality up to the case of letters, as an equivalence.

Owns: the two readings of that equality, by lower and by upper case, its equivalence laws,
and its collapse to plain equality on texts in upper case.
-/

set_option autoImplicit false

namespace OrderKeeper.Text

/-- A text in upper case is kept by a second rewriting. -/
@[simp] theorem upper_upper (text : String) : upper (upper text) = upper text := by
  unfold upper
  rw [String.toList_ofList, List.map_map]
  congr 1
  refine List.map_congr_left fun c _ => ?_
  exact Char.toUpper_toUpper_eq_toUpper c

theorem upper_eq_empty_iff {text : String} : upper text = "" ↔ text = "" := by
  unfold upper
  rw [String.ofList_eq_empty_iff, List.map_eq_nil_iff, String.toList_eq_nil_iff]

/-- Lower case separates exactly the characters that upper case does. -/
theorem toLower_eq_iff (left right : Char) :
    left.toLower = right.toLower ↔ left.toUpper = right.toUpper := by
  constructor
  · intro same
    rw [← Char.toUpper_toLower_eq_toUpper left, same, Char.toUpper_toLower_eq_toUpper]
  · intro same
    rw [← Char.toLower_toUpper_eq_toLower left, same, Char.toLower_toUpper_eq_toLower]

private theorem map_toLower_eq_iff (left right : List Char) :
    left.map Char.toLower = right.map Char.toLower ↔
      left.map Char.toUpper = right.map Char.toUpper := by
  induction left generalizing right with
  | nil => cases right <;> simp
  | cons first rest inductionHypothesis =>
      cases right with
      | nil => simp
      | cons other others =>
          simp only [List.map_cons, List.cons.injEq]
          rw [toLower_eq_iff, inductionHypothesis]

theorem sameLetters_iff (left right : String) :
    sameLetters left right = true ↔ upper left = upper right := by
  unfold sameLetters upper
  rw [beq_iff_eq, map_toLower_eq_iff, String.ofList_inj]

@[simp] theorem sameLetters_refl (text : String) : sameLetters text text = true :=
  (sameLetters_iff text text).mpr rfl

theorem sameLetters_symm {left right : String} (same : sameLetters left right = true) :
    sameLetters right left = true :=
  (sameLetters_iff right left).mpr ((sameLetters_iff left right).mp same).symm

theorem sameLetters_trans {left middle right : String} (first : sameLetters left middle = true)
    (second : sameLetters middle right = true) : sameLetters left right = true :=
  (sameLetters_iff left right).mpr
    (((sameLetters_iff left middle).mp first).trans ((sameLetters_iff middle right).mp second))

/-- Texts in upper case that differ at all differ in a letter. -/
theorem eq_of_sameLetters {left right : String} (leftUpper : upper left = left)
    (rightUpper : upper right = right) (same : sameLetters left right = true) : left = right := by
  have equal := (sameLetters_iff left right).mp same
  rwa [leftUpper, rightUpper] at equal

end OrderKeeper.Text
