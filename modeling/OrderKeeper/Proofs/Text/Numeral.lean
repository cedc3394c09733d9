import Mathlib.Data.List.Basic
import OrderKeeper.Text.Digits

/-!
Contract: numerals in texts whose parts are set apart by colons.

Owns: the number that a numeral writes, the characters of a numeral, and the parts
before the first and after the last colon of a text.
-/

set_option autoImplicit false

namespace OrderKeeper.Text

/-! ## Parts set apart by colons -/

theorem append_colon_inj {left right leftRest rightRest : List Char}
    (leftPlain : ':' ∉ left) (rightPlain : ':' ∉ right)
    (same : left ++ ':' :: leftRest = right ++ ':' :: rightRest) : left = right := by
  induction left generalizing right with
  | nil =>
      cases right with
      | nil => rfl
      | cons c others =>
          have colonFirst : ':' = c := (List.cons.inj same).1
          exact absurd (colonFirst ▸ List.mem_cons_self) rightPlain
  | cons d rest inductionHypothesis =>
      cases right with
      | nil =>
          have colonFirst : d = ':' := (List.cons.inj same).1
          exact absurd (colonFirst ▸ List.mem_cons_self) leftPlain
      | cons c others =>
          have sameFirst : d = c := (List.cons.inj same).1
          have sameRest := inductionHypothesis
            (fun member => leftPlain (List.mem_cons_of_mem d member))
            (fun member => rightPlain (List.mem_cons_of_mem c member)) (List.cons.inj same).2
          rw [sameFirst, sameRest]

/-- The part after the last colon does not depend on how the rest is read. -/
theorem append_colon_last_inj {left right leftStart rightStart : List Char}
    (leftPlain : ':' ∉ left) (rightPlain : ':' ∉ right)
    (same : leftStart ++ ':' :: left = rightStart ++ ':' :: right) : left = right := by
  have reversed := congrArg List.reverse same
  simp only [List.reverse_append, List.reverse_cons, List.append_assoc,
    List.singleton_append] at reversed
  have sameReversed := append_colon_inj (by simpa using leftPlain) (by simpa using rightPlain)
    reversed
  exact List.reverse_injective sameReversed

/-! ## Numerals -/

theorem digitValue_digitChar (digit : Nat) : digitValue (digitChar digit) = digit % 10 := by
  have below : digit % 10 < 10 := Nat.mod_lt _ (by decide)
  have table : ∀ d < 10, digitValue (Char.ofNat ('0'.toNat + d)) = d := by decide
  exact table _ below

theorem digitChar_ne_colon (digit : Nat) : digitChar digit ≠ ':' := by
  have below : digit % 10 < 10 := Nat.mod_lt _ (by decide)
  have table : ∀ d < 10, Char.ofNat ('0'.toNat + d) ≠ ':' := by decide
  exact table _ below

theorem colon_not_mem_numeral (n : Nat) : ':' ∉ numeral n := by
  induction n using numeral.induct with
  | case1 n small =>
    rw [numeral, if_pos small]
    simpa using (digitChar_ne_colon n).symm
  | case2 n large inductionHypothesis =>
    rw [numeral, if_neg large]
    simpa using ⟨inductionHypothesis, (digitChar_ne_colon n).symm⟩

/-- A numeral writes its number. -/
theorem numeralValue_numeral (n : Nat) : numeralValue (numeral n) = n := by
  induction n using numeral.induct with
  | case1 n small =>
    rw [numeral, if_pos small]
    simp only [numeralValue, List.foldl_cons, List.foldl_nil, digitValue_digitChar]
    omega
  | case2 n large inductionHypothesis =>
    rw [numeral, if_neg large, numeralValue, List.foldl_append]
    rw [numeralValue] at inductionHypothesis
    simp only [inductionHypothesis, List.foldl_cons, List.foldl_nil, digitValue_digitChar]
    omega

theorem numeral_inj {first second : Nat} (same : numeral first = numeral second) :
    first = second := by
  rw [← numeralValue_numeral first, same, numeralValue_numeral]

end OrderKeeper.Text
