import OrderKeeper.Json.Value

/-!
Contract: the documents that have a value.

Owns: the depth of a document, the literals that have a value, that a document has a value within a
budget of brackets exactly if its literals have one and it is not too deep, and that its parts have
values then.

Does not own: which value that is.
-/

set_option autoImplicit false

namespace OrderKeeper.Json.Document

mutual

/-- The most brackets that are open at once. -/
def depth : Document → Nat
  | .array items => itemsDepth items + 1
  | .object members => membersDepth members + 1
  | _ => 0

def itemsDepth : List Document → Nat
  | [] => 0
  | item :: rest => max (depth item) (itemsDepth rest)

def membersDepth : List (List Piece × Document) → Nat
  | [] => 0
  | (_, item) :: rest => max (depth item) (membersDepth rest)

end

mutual

/-- Every numeral has a number, and every string and every key has a text. -/
def isLegible : Document → Bool
  | .numeral text => (Number.ofText? text).isSome
  | .string pieces => (decodeString? pieces).isSome
  | .array items => itemsLegible items
  | .object members => membersLegible members
  | _ => true

def itemsLegible : List Document → Bool
  | [] => true
  | item :: rest => isLegible item && itemsLegible rest

def membersLegible : List (List Piece × Document) → Bool
  | [] => true
  | (key, item) :: rest => (decodeString? key).isSome && (isLegible item && membersLegible rest)

end

/-- A depth for which a budget of brackets is enough.  What has no brackets needs none. -/
def Fits (depth budget : Nat) : Prop :=
  depth = 0 ∨ depth < budget

instance (depth budget : Nat) : Decidable (Fits depth budget) :=
  inferInstanceAs (Decidable (_ ∨ _))

/-- The literals of a document have values, and a budget of brackets is enough for it. -/
structure HasValue (budget : Nat) (document : Document) : Prop where
  legible : document.isLegible = true
  fits : Fits document.depth budget

theorem hasValue_iff {budget : Nat} {document : Document} :
    HasValue budget document ↔ document.isLegible = true ∧ Fits document.depth budget :=
  ⟨fun ⟨legible, fits⟩ => ⟨legible, fits⟩, fun ⟨legible, fits⟩ => ⟨legible, fits⟩⟩

instance (budget : Nat) (document : Document) : Decidable (HasValue budget document) :=
  decidable_of_iff' _ hasValue_iff

theorem fits_max_iff {first second budget : Nat} :
    Fits (max first second) budget ↔ Fits first budget ∧ Fits second budget := by
  unfold Fits
  omega

theorem fits_succ_iff {depth budget : Nat} :
    Fits (depth + 1) budget ↔ ¬budget < 2 ∧ Fits depth (budget - 1) := by
  unfold Fits
  omega

theorem isSome_toValues?_cons (budget : Nat) (item : Document) (rest : List Document) :
    (toValues? budget (item :: rest)).isSome =
      ((toValue? budget item).isSome && (toValues? budget rest).isSome) := by
  rw [toValues?]
  cases toValue? budget item with
  | none => rfl
  | some value => simp

theorem isSome_toMembers?_cons (budget : Nat) (key : List Piece) (item : Document)
    (rest : List (List Piece × Document)) :
    (toMembers? budget ((key, item) :: rest)).isSome =
      ((decodeString? key).isSome &&
        ((toValue? budget item).isSome && (toMembers? budget rest).isSome)) := by
  rw [toMembers?]
  cases decodeString? key with
  | none => rfl
  | some name =>
      cases toValue? budget item with
      | none => rfl
      | some value => simp

mutual

/-- A document has a value within a budget exactly if its literals have one and the budget is enough
for its depth. -/
theorem isSome_toValue?_iff : ∀ (document : Document) (budget : Nat),
    (document.toValue? budget).isSome = true ↔
      document.isLegible = true ∧ Fits document.depth budget
  | .null, _ => by simp [toValue?, isLegible, depth, Fits]
  | .bool _, _ => by simp [toValue?, isLegible, depth, Fits]
  | .numeral _, _ => by simp [toValue?, isLegible, depth, Fits]
  | .string _, _ => by simp [toValue?, isLegible, depth, Fits]
  | .array items, budget => by
      rw [toValue?, isLegible, depth, fits_succ_iff, and_left_comm,
        ← isSome_toValues?_iff items (budget - 1)]
      by_cases shallow : budget < 2 <;> simp [shallow]
  | .object members, budget => by
      rw [toValue?, isLegible, depth, fits_succ_iff, and_left_comm,
        ← isSome_toMembers?_iff members (budget - 1)]
      by_cases shallow : budget < 2 <;> simp [shallow]

theorem isSome_toValues?_iff : ∀ (items : List Document) (budget : Nat),
    (toValues? budget items).isSome = true ↔
      itemsLegible items = true ∧ Fits (itemsDepth items) budget
  | [], _ => by simp [toValues?, itemsLegible, itemsDepth, Fits]
  | item :: rest, budget => by
      rw [isSome_toValues?_cons, itemsLegible, itemsDepth, fits_max_iff, Bool.and_eq_true,
        Bool.and_eq_true, isSome_toValue?_iff item budget, isSome_toValues?_iff rest budget]
      exact and_and_and_comm

theorem isSome_toMembers?_iff : ∀ (members : List (List Piece × Document)) (budget : Nat),
    (toMembers? budget members).isSome = true ↔
      membersLegible members = true ∧ Fits (membersDepth members) budget
  | [], _ => by simp [toMembers?, membersLegible, membersDepth, Fits]
  | (key, item) :: rest, budget => by
      rw [isSome_toMembers?_cons, membersLegible, membersDepth, fits_max_iff, Bool.and_eq_true,
        Bool.and_eq_true, Bool.and_eq_true, Bool.and_eq_true, isSome_toValue?_iff item budget,
        isSome_toMembers?_iff rest budget]
      exact (and_congr_right' and_and_and_comm).trans and_assoc.symm

end

theorem exists_value_iff {document : Document} {budget : Nat} :
    (∃ value, document.toValue? budget = some value) ↔ document.HasValue budget := by
  rw [← Option.isSome_iff_exists, isSome_toValue?_iff, hasValue_iff]

theorem items_haveValues_iff {items : List Document} {budget : Nat} :
    itemsLegible items = true ∧ Fits (itemsDepth items) budget ↔
      ∀ item ∈ items, item.HasValue budget := by
  induction items with
  | nil => simp [itemsLegible, itemsDepth, Fits]
  | cons item rest inductionHypothesis =>
      rw [List.forall_mem_cons, ← inductionHypothesis, hasValue_iff, itemsLegible, itemsDepth,
        fits_max_iff, Bool.and_eq_true]
      exact and_and_and_comm

theorem members_haveValues_iff {members : List (List Piece × Document)} {budget : Nat} :
    membersLegible members = true ∧ Fits (membersDepth members) budget ↔
      ∀ member ∈ members,
        (decodeString? member.1).isSome = true ∧ member.2.HasValue budget := by
  induction members with
  | nil => simp [membersLegible, membersDepth, Fits]
  | cons member rest inductionHypothesis =>
      obtain ⟨key, item⟩ := member
      rw [List.forall_mem_cons, ← inductionHypothesis, hasValue_iff, membersLegible, membersDepth,
        fits_max_iff, Bool.and_eq_true, Bool.and_eq_true]
      exact and_assoc.trans ((and_congr_right' and_and_and_comm).trans and_assoc.symm)

/-- The items of an array with a value have values, with a bracket less to open. -/
theorem HasValue.item {items : List Document} {budget : Nat}
    (hasValue : (Document.array items).HasValue budget) :
    ∀ item ∈ items, item.HasValue (budget - 1) :=
  items_haveValues_iff.mp ⟨hasValue.legible, (fits_succ_iff.mp hasValue.fits).2⟩

/-- So do the members of an object, and their keys have texts. -/
theorem HasValue.member {members : List (List Piece × Document)} {budget : Nat}
    (hasValue : (Document.object members).HasValue budget) :
    ∀ member ∈ members,
      (decodeString? member.1).isSome = true ∧ member.2.HasValue (budget - 1) :=
  members_haveValues_iff.mp ⟨hasValue.legible, (fits_succ_iff.mp hasValue.fits).2⟩

end OrderKeeper.Json.Document
