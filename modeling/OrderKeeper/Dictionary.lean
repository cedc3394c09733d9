/-!
Contract: values under text keys, in the order of the keys.

Owns: a list of entries with ascending keys, look-up, insertion in place of an older
entry, and removal.
-/

set_option autoImplicit false

namespace OrderKeeper

/-- Puts an entry at its place among ascending ones, instead of an older one of its key. -/
def insertEntry {α : Type} (key : String) (value : α) : List (String × α) → List (String × α)
  | [] => [(key, value)]
  | entry :: rest =>
      if key < entry.1 then (key, value) :: entry :: rest
      else if key = entry.1 then (key, value) :: rest
      else entry :: insertEntry key value rest

theorem mem_insertEntry {α : Type} {key : String} {value : α} {entries : List (String × α)}
    {entry : String × α} (mem : entry ∈ insertEntry key value entries) :
    entry = (key, value) ∨ entry ∈ entries := by
  induction entries with
  | nil =>
    rw [insertEntry] at mem
    exact Or.inl (List.mem_singleton.mp mem)
  | cons first rest ih =>
    rw [insertEntry] at mem
    by_cases before : key < first.1
    · rw [if_pos before] at mem
      exact List.mem_cons.mp mem
    · rw [if_neg before] at mem
      by_cases same : key = first.1
      · rw [if_pos same] at mem
        rcases List.mem_cons.mp mem with here | later
        · exact Or.inl here
        · exact Or.inr (List.mem_cons_of_mem _ later)
      · rw [if_neg same] at mem
        rcases List.mem_cons.mp mem with here | later
        · exact Or.inr (here ▸ List.mem_cons_self)
        · exact (ih later).imp_right (List.mem_cons_of_mem _)

theorem insertEntry_ascending {α : Type} (key : String) (value : α)
    {entries : List (String × α)} (ascending : entries.Pairwise fun a b => a.1 < b.1) :
    (insertEntry key value entries).Pairwise fun a b => a.1 < b.1 := by
  induction entries with
  | nil => exact List.pairwise_singleton _ _
  | cons first rest ih =>
    have first_below := (List.pairwise_cons.mp ascending).1
    have rest_ascending := (List.pairwise_cons.mp ascending).2
    rw [insertEntry]
    by_cases before : key < first.1
    · rw [if_pos before]
      refine List.pairwise_cons.mpr ⟨fun entry mem => ?_, ascending⟩
      rcases List.mem_cons.mp mem with here | later
      · exact here ▸ before
      · exact String.lt_trans before (first_below entry later)
    · rw [if_neg before]
      by_cases same : key = first.1
      · rw [if_pos same]
        refine List.pairwise_cons.mpr ⟨fun entry mem => ?_, rest_ascending⟩
        show key < entry.1
        rw [same]
        exact first_below entry mem
      · rw [if_neg same]
        refine List.pairwise_cons.mpr ⟨fun entry mem => ?_, ih rest_ascending⟩
        rcases mem_insertEntry mem with here | later
        · rw [here]
          exact Std.lt_of_le_of_ne (String.not_lt.mp before) (fun equal => same equal.symm)
        · exact first_below entry later

/-- Entries with ascending keys. -/
structure Dictionary (α : Type) where
  entries : List (String × α)
  ascending : entries.Pairwise fun a b => a.1 < b.1

namespace Dictionary

variable {α : Type}

def empty : Dictionary α := ⟨[], List.Pairwise.nil⟩

instance : Inhabited (Dictionary α) := ⟨empty⟩

def get? (dictionary : Dictionary α) (key : String) : Option α :=
  (dictionary.entries.find? fun entry => entry.1 = key).map Prod.snd

def contains (dictionary : Dictionary α) (key : String) : Bool :=
  (dictionary.get? key).isSome

/-- Sets the value of a key, whether it had one or not. -/
def insert (dictionary : Dictionary α) (key : String) (value : α) : Dictionary α :=
  ⟨insertEntry key value dictionary.entries, insertEntry_ascending key value dictionary.ascending⟩

def erase (dictionary : Dictionary α) (key : String) : Dictionary α :=
  ⟨dictionary.entries.filter fun entry => entry.1 != key,
    dictionary.ascending.sublist List.filter_sublist⟩

/-- Later entries of a list replace earlier ones of the same key. -/
def ofList (entries : List (String × α)) : Dictionary α :=
  entries.foldl (fun dictionary entry => dictionary.insert entry.1 entry.2) empty

def keys (dictionary : Dictionary α) : List String :=
  dictionary.entries.map Prod.fst

def values (dictionary : Dictionary α) : List α :=
  dictionary.entries.map Prod.snd

def size (dictionary : Dictionary α) : Nat :=
  dictionary.entries.length

end Dictionary

end OrderKeeper
