import OrderKeeper.Json.Decoder

/-!
Contract: what an object gives to the fields of a record.

Owns: the values that an object has under the names of a field, and that the object can be read as a
record exactly if its keys have texts and no field gets two values.

Does not own: the reading of those values.
-/

set_option autoImplicit false

namespace OrderKeeper.Json

/-- A list is read item by item if each of its items is. -/
theorem mapM_eq_some_iff {α β : Type} {read : α → Option β} {Reads : α → Prop} {result : α → β}
    (reads_iff : ∀ x y, read x = some y ↔ Reads x ∧ y = result x) (xs : List α) (ys : List β) :
    xs.mapM read = some ys ↔ (∀ x ∈ xs, Reads x) ∧ ys = xs.map result := by
  induction xs generalizing ys with
  | nil => simp [eq_comm]
  | cons x rest inductionHypothesis =>
      rw [List.mapM_cons, List.forall_mem_cons, List.map_cons]
      simp only [Option.bind_eq_bind, Option.bind_eq_some_iff, inductionHypothesis, reads_iff]
      constructor
      · rintro ⟨y, ⟨reads, rfl⟩, others, ⟨restReads, rfl⟩, same⟩
        exact ⟨⟨reads, restReads⟩, (Option.some.inj same).symm⟩
      · rintro ⟨⟨reads, restReads⟩, rfl⟩
        exact ⟨_, ⟨reads, rfl⟩, _, ⟨restReads, rfl⟩, rfl⟩

/-- An object as it is written: its members in order, with their repetitions. -/
abbrev Members := List (List Piece × Document)

/-- The values that an object has under the names of a field, in order. -/
def valuesOf (names : List String) (object : Members) : List Document :=
  (object.filter fun member => (decodeString? member.1).any fun key => names.contains key).map
    Prod.snd

theorem exists_member_of_mem_valuesOf {names : List String} {object : Members} {value : Document}
    (given : value ∈ valuesOf names object) : ∃ key, (key, value) ∈ object := by
  obtain ⟨⟨key, _⟩, kept, rfl⟩ := List.mem_map.mp given
  exact ⟨key, (List.mem_filter.mp kept).1⟩

section Object

variable {object : Members} {named : List (String × Document)}

theorem isSome_namedMembers?_iff :
    (namedMembers? object).isSome = true ↔
      ∀ member ∈ object, (decodeString? member.1).isSome = true := by
  induction object with
  | nil => simp [namedMembers?]
  | cons member rest inductionHypothesis =>
      obtain ⟨key, value⟩ := member
      rw [List.forall_mem_cons, ← inductionHypothesis, namedMembers?]
      cases decodeString? key with
      | none => simp
      | some name => cases namedMembers? rest <;> simp

/-- Among members whose keys are read the values of a field are those under one of its names. -/
theorem valuesOf_of_namedMembers? (read : namedMembers? object = some named)
    (names : List String) :
    valuesOf names object =
      (named.filter fun member => names.contains member.1).map Prod.snd := by
  unfold valuesOf
  induction object generalizing named with
  | nil =>
      obtain rfl := Option.some.inj read
      rfl
  | cons member rest inductionHypothesis =>
      obtain ⟨key, value⟩ := member
      rw [namedMembers?] at read
      obtain ⟨name, decoded, later⟩ := Option.bind_eq_some_iff.mp read
      obtain ⟨others, restRead, same⟩ := Option.bind_eq_some_iff.mp later
      obtain rfl := Option.some.inj same
      have restValues := inductionHypothesis restRead
      rw [List.filter_cons, List.filter_cons]
      simp only [decoded, Option.any_some]
      split
      · rw [List.map_cons, List.map_cons, restValues]
      · exact restValues

/-- A field is found if it has one value at most. -/
theorem uniqueMember?_eq_some_iff (read : namedMembers? object = some named) (names : List String)
    (found : Option Document) :
    uniqueMember? names named = some found ↔
      (valuesOf names object).length ≤ 1 ∧ found = (valuesOf names object).head? := by
  rw [valuesOf_of_namedMembers? read]
  unfold uniqueMember?
  generalize named.filter (fun member => names.contains member.1) = given
  rcases given with _ | ⟨⟨key, value⟩, _ | ⟨second, rest⟩⟩
  · simp [eq_comm]
  · simp [eq_comm]
  · simp

/-- An object is read as a record exactly if its keys have texts and no field gets two values.  Each
field gets the value that it has. -/
theorem fields?_object_eq_some_iff {names : List (List String)} {fields : Fields} :
    Document.fields? names (.object object) = some fields ↔
      ((∀ member ∈ object, (decodeString? member.1).isSome = true) ∧
        ∀ field ∈ names, (valuesOf field object).length ≤ 1) ∧
        fields = ⟨false, names.map fun field => (valuesOf field object).head?⟩ := by
  rw [← isSome_namedMembers?_iff, Document.fields?, Option.bind_eq_bind]
  cases read : namedMembers? object with
  | none => simp
  | some named =>
      have found_iff := mapM_eq_some_iff (uniqueMember?_eq_some_iff read) names
      rw [Option.bind_some, Option.bind_eq_bind, Option.bind_eq_some_iff]
      simp only [found_iff, Option.isSome_some, true_and, and_assoc]
      constructor
      · rintro ⟨found, once, rfl, same⟩
        exact ⟨once, (Option.some.inj same).symm⟩
      · rintro ⟨once, rfl⟩
        exact ⟨_, once, rfl, rfl⟩

end Object

end OrderKeeper.Json
