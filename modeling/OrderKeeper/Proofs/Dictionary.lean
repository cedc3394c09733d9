import OrderKeeper.Dictionary
import OrderKeeper.Proofs.Keyed

/-!
Contract: what a dictionary holds after an insertion or a removal.

Owns: the look-up after either, the keys that either leaves, the agreement of look-up
with the entries, the distinctness of keys, what a dictionary made from a list holds, and
the least entry that passes a test.

Does not own: the order law of the entries, which is part of the type.
-/

set_option autoImplicit false

namespace OrderKeeper

variable {α : Type}

/-- The first entry of a key after an insertion. -/
theorem find?_insertEntry (key other : String) (value : α) (entries : List (String × α)) :
    ((insertEntry key value entries).find? fun entry => entry.1 = other).map Prod.snd =
      if other = key then some value
      else (entries.find? fun entry => entry.1 = other).map Prod.snd := by
  induction entries with
  | nil =>
      by_cases same : other = key
      · simp [insertEntry, same]
      · simp [insertEntry, same, Ne.symm same]
  | cons first rest inductionHypothesis =>
      rw [insertEntry]
      by_cases before : key < first.1
      · rw [if_pos before]
        by_cases same : other = key
        · simp [same]
        · simp [same, Ne.symm same]
      · rw [if_neg before]
        by_cases here : key = first.1
        · rw [if_pos here]
          by_cases same : other = key
          · simp [same]
          · have firstOther : first.1 ≠ other := by
              intro equal
              exact same (equal.symm.trans here.symm)
            simp [same, Ne.symm same, firstOther]
        · rw [if_neg here]
          by_cases found : first.1 = other
          · have different : other ≠ key := by
              intro equal
              exact here (equal.symm.trans found.symm)
            simp [found, different]
          · rw [List.find?_cons_of_neg (by simpa using found), inductionHypothesis,
              List.find?_cons_of_neg (by simpa using found)]

/-- An entry that is inserted and dropped leaves what dropping its key leaves. -/
theorem filter_insertEntry (key : String) (value : α) (entries : List (String × α)) :
    (insertEntry key value entries).filter (fun entry => entry.1 != key) =
      entries.filter fun entry => entry.1 != key := by
  induction entries with
  | nil => simp [insertEntry]
  | cons first rest inductionHypothesis =>
      rw [insertEntry]
      split
      · simp
      · split
        · rename_i here
          simp [here]
        · simp only [List.filter_cons, inductionHypothesis]

/-- Among ascending entries the first that passes a test is the one of least key. -/
theorem find?_ascending_eq_some_iff {entries : List (String × α)}
    (ascending : entries.Pairwise fun a b => a.1 < b.1) (test : α → Bool) (found : String × α) :
    (entries.find? fun entry => test entry.2) = some found ↔
      found ∈ entries ∧ test found.2 = true ∧
        ∀ other ∈ entries, test other.2 = true → found.1 ≤ other.1 := by
  induction entries with
  | nil => simp
  | cons first rest inductionHypothesis =>
      have firstBelow := (List.pairwise_cons.mp ascending).1
      have restAscending := (List.pairwise_cons.mp ascending).2
      by_cases passes : test first.2 = true
      · rw [List.find?_cons_of_pos (p := fun entry : String × α => test entry.2) passes]
        constructor
        · intro same
          cases same
          refine ⟨List.mem_cons_self, passes, fun other member _ => ?_⟩
          rcases List.mem_cons.mp member with rfl | later
          · exact String.le_refl _
          · exact Std.le_of_lt (firstBelow other later)
        · rintro ⟨member, _, least⟩
          rcases List.mem_cons.mp member with here | later
          · rw [here]
          · exact absurd (firstBelow found later)
              (String.not_lt.mpr (least first List.mem_cons_self passes))
      · rw [List.find?_cons_of_neg (p := fun entry : String × α => test entry.2) passes,
          inductionHypothesis restAscending]
        constructor
        · rintro ⟨member, foundPasses, least⟩
          refine ⟨List.mem_cons_of_mem first member, foundPasses, fun other otherMember otherPasses => ?_⟩
          rcases List.mem_cons.mp otherMember with here | later
          · rw [here] at otherPasses
            exact absurd otherPasses passes
          · exact least other later otherPasses
        · rintro ⟨member, foundPasses, least⟩
          refine ⟨?_, foundPasses, fun other later => least other (List.mem_cons_of_mem first later)⟩
          rcases List.mem_cons.mp member with here | later
          · rw [here] at foundPasses
            exact absurd foundPasses passes
          · exact later

namespace Dictionary

theorem get?_insert (dictionary : Dictionary α) (key other : String) (value : α) :
    (dictionary.insert key value).get? other =
      if other = key then some value else dictionary.get? other :=
  find?_insertEntry key other value dictionary.entries

/-- Keys are distinct since they ascend. -/
theorem keys_nodup (dictionary : Dictionary α) : dictionary.keys.Nodup := by
  unfold keys
  rw [List.Nodup, List.pairwise_map]
  refine dictionary.ascending.imp ?_
  intro entry other below equal
  rw [equal] at below
  exact String.lt_irrefl other.1 below

/-- Look-up finds exactly the entries. -/
theorem get?_eq_some_iff (dictionary : Dictionary α) (key : String) (value : α) :
    dictionary.get? key = some value ↔ (key, value) ∈ dictionary.entries := by
  unfold get?
  rw [Option.map_eq_some_iff]
  constructor
  · rintro ⟨entry, found, rfl⟩
    obtain ⟨member, rfl⟩ := (Keyed.find?_eq_some_iff dictionary.keys_nodup key entry).mp found
    exact member
  · intro member
    exact ⟨(key, value),
      (Keyed.find?_eq_some_iff dictionary.keys_nodup key (key, value)).mpr ⟨member, rfl⟩, rfl⟩

theorem contains_iff (dictionary : Dictionary α) (key : String) :
    dictionary.contains key = true ↔ ∃ value, (key, value) ∈ dictionary.entries := by
  unfold contains
  rw [Option.isSome_iff_exists]
  simp only [get?_eq_some_iff]

theorem mem_keys_iff (dictionary : Dictionary α) (key : String) :
    key ∈ dictionary.keys ↔ ∃ value, dictionary.get? key = some value := by
  unfold keys
  simp only [get?_eq_some_iff, List.mem_map, Prod.exists, exists_and_right, exists_eq_right]

/-- What a dictionary made from a list holds is in the list. -/
theorem mem_of_get?_ofList {entries : List (String × α)} {key : String} {value : α}
    (found : (ofList entries).get? key = some value) : (key, value) ∈ entries := by
  have fromAny : ∀ dictionary : Dictionary α,
      (entries.foldl (fun dictionary entry => dictionary.insert entry.1 entry.2)
        dictionary).get? key = some value →
      (key, value) ∈ entries ∨ dictionary.get? key = some value := by
    clear found
    induction entries with
    | nil => exact fun _ found => Or.inr found
    | cons entry rest inductionHypothesis =>
        intro dictionary found
        rcases inductionHypothesis (dictionary.insert entry.1 entry.2) found with later | held
        · exact Or.inl (List.mem_cons_of_mem entry later)
        · rw [get?_insert] at held
          by_cases here : key = entry.1
          · rw [if_pos here] at held
            rw [here, ← Option.some.inj held]
            exact Or.inl List.mem_cons_self
          · rw [if_neg here] at held
            exact Or.inr held
  rcases fromAny empty found with member | impossible
  · exact member
  · cases impossible

theorem get?_erase (dictionary : Dictionary α) (key other : String) :
    (dictionary.erase key).get? other = if other = key then none else dictionary.get? other := by
  refine Option.ext fun value => ?_
  rw [get?_eq_some_iff]
  by_cases same : other = key
  · simp [erase, same]
  · rw [if_neg same, get?_eq_some_iff]
    simp [erase, same]

theorem erase_insert (dictionary : Dictionary α) (key : String) (value : α) :
    (dictionary.insert key value).erase key = dictionary.erase key := by
  unfold erase insert
  congr 1
  exact filter_insertEntry key value dictionary.entries

/-- A new key is added to the others. -/
theorem keys_insert_of_new {dictionary : Dictionary α} {key : String} (value : α)
    (new : dictionary.get? key = none) :
    (dictionary.insert key value).keys.Perm (key :: dictionary.keys) := by
  have absent : key ∉ dictionary.keys := by
    rw [mem_keys_iff, new]
    simp
  rw [List.perm_ext_iff_of_nodup (keys_nodup _) (List.nodup_cons.mpr ⟨absent, keys_nodup _⟩)]
  intro other
  rw [List.mem_cons, mem_keys_iff, mem_keys_iff, get?_insert]
  by_cases same : other = key <;> simp [same]

/-- A key that is there already is kept. -/
theorem keys_insert_of_old {dictionary : Dictionary α} {key : String} (value : α)
    {old : α} (found : dictionary.get? key = some old) :
    (dictionary.insert key value).keys.Perm dictionary.keys := by
  rw [List.perm_ext_iff_of_nodup (keys_nodup _) (keys_nodup _)]
  intro other
  rw [mem_keys_iff, mem_keys_iff, get?_insert]
  by_cases same : other = key
  · simp [same, found]
  · simp [same]

theorem keys_erase {dictionary : Dictionary α} {key : String} {value : α}
    (found : dictionary.get? key = some value) :
    dictionary.keys.Perm (key :: (dictionary.erase key).keys) := by
  have gone : key ∉ (dictionary.erase key).keys := by
    rw [mem_keys_iff, get?_erase]
    simp
  rw [List.perm_ext_iff_of_nodup (keys_nodup _) (List.nodup_cons.mpr ⟨gone, keys_nodup _⟩)]
  intro other
  rw [List.mem_cons, mem_keys_iff, mem_keys_iff, get?_erase]
  by_cases same : other = key
  · simp [same, found]
  · simp [same]

end Dictionary

end OrderKeeper
