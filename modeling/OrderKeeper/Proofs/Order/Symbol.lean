import OrderKeeper.Order.Symbol
import OrderKeeper.Proofs.Text.Case

/-!
Contract: the venue of a composite symbol.

Owns: the names that can stand as the venue of a symbol, the split of a composite symbol
back into its parts, agreement up to the case of the venue, and the uniqueness, up to case,
of the venue that a symbol lies on.
-/

set_option autoImplicit false

namespace OrderKeeper.Symbol

/-- A name that can be the venue part of a symbol. -/
def IsVenueName (venue : String) : Prop :=
  venue ≠ "" ∧ '.' ∉ venue.toList

instance (venue : String) : Decidable (IsVenueName venue) := by
  unfold IsVenueName
  infer_instance

theorem splitLast?_of_no_point {text : List Char} (noPoint : '.' ∉ text) :
    splitLast? text = none := by
  induction text with
  | nil => rfl
  | cons c rest inductionHypothesis =>
      have restPlain : '.' ∉ rest := fun member => noPoint (List.mem_cons_of_mem c member)
      have different : c ≠ '.' := fun equal => noPoint (equal ▸ List.mem_cons_self)
      rw [splitLast?, inductionHypothesis restPlain]
      exact if_neg different

theorem splitLast?_eq_none_iff {text : List Char} : splitLast? text = none ↔ '.' ∉ text := by
  refine ⟨fun unsplit => ?_, splitLast?_of_no_point⟩
  induction text with
  | nil => exact List.not_mem_nil
  | cons c rest inductionHypothesis =>
      rw [splitLast?] at unsplit
      cases later : splitLast? rest with
      | some parts =>
          rw [later] at unsplit
          cases unsplit
      | none =>
          rw [later] at unsplit
          dsimp only at unsplit
          split at unsplit
          · cases unsplit
          · rename_i notPoint
            rw [List.mem_cons, not_or]
            exact ⟨Ne.symm notPoint, inductionHypothesis later⟩

/-- Text behind the last point is the second part of the split. -/
theorem splitLast?_append (base : List Char) {venue : List Char} (noPoint : '.' ∉ venue) :
    splitLast? (base ++ '.' :: venue) = some (base, venue) := by
  induction base with
  | nil => simp [splitLast?, splitLast?_of_no_point noPoint]
  | cons c rest inductionHypothesis =>
      rw [List.cons_append, splitLast?, inductionHypothesis]

theorem toList_composed (base venue : String) :
    (base ++ "." ++ venue).toList = base.toList ++ '.' :: venue.toList := by
  rw [String.toList_append, String.toList_append, List.append_assoc]
  rfl

theorem venue?_composed (base : String) {venue : String} (named : IsVenueName venue) :
    venue? (base ++ "." ++ venue) = some venue := by
  have nonempty : venue.toList ≠ [] := by
    intro empty
    exact named.1 (String.toList_eq_nil_iff.mp empty)
  unfold venue?
  rw [toList_composed, splitLast?_append base.toList named.2]
  cases letters : venue.toList with
  | nil => exact absurd letters nonempty
  | cons c rest => simp only [← letters, String.ofList_toList]

/-- The parts of a split make up the text. -/
theorem eq_of_splitLast? {text start rest : List Char}
    (split : splitLast? text = some (start, rest)) : text = start ++ '.' :: rest := by
  induction text generalizing start with
  | nil => cases split
  | cons c others inductionHypothesis =>
      rw [splitLast?] at split
      cases later : splitLast? others with
      | some parts =>
          rw [later] at split
          cases split
          rw [inductionHypothesis later]
          rfl
      | none =>
          rw [later] at split
          dsimp only at split
          by_cases isPoint : c = '.'
          · rw [if_pos isPoint] at split
            cases split
            rw [isPoint]
            rfl
          · rw [if_neg isPoint] at split
            cases split

/-- A symbol with a venue is its base, a point and its venue. -/
theorem eq_of_venue? {symbol suffix : String} (named : venue? symbol = some suffix) :
    symbol = base symbol ++ "." ++ suffix := by
  apply String.toList_inj.mp
  rw [toList_composed]
  unfold venue? at named
  unfold base
  cases split : splitLast? symbol.toList with
  | none =>
      rw [split] at named
      cases named
  | some parts =>
      obtain ⟨start, rest⟩ := parts
      rw [split] at named
      have sameRest : suffix = String.ofList rest := by
        cases rest with
        | nil => cases named
        | cons c others => exact (Option.some.inj named).symm
      dsimp only
      rw [sameRest, String.toList_ofList, String.toList_ofList]
      exact eq_of_splitLast? split

theorem base_of_no_point {symbol : String} (noPoint : '.' ∉ symbol.toList) :
    base symbol = symbol := by
  unfold base
  rw [splitLast?_of_no_point noPoint]

theorem isOn_of_no_point {symbol : String} (noPoint : '.' ∉ symbol.toList) (venue : String) :
    isOn symbol venue = false := by
  unfold isOn venue?
  rw [splitLast?_of_no_point noPoint]

/-- A symbol with a point is longer than its base. -/
theorem length_base_lt {symbol : String} (pointed : '.' ∈ symbol.toList) :
    (base symbol).toList.length < symbol.toList.length := by
  unfold base
  cases split : splitLast? symbol.toList with
  | none => exact absurd pointed (splitLast?_eq_none_iff.mp split)
  | some parts =>
      dsimp only
      rw [String.toList_ofList, eq_of_splitLast? split, List.length_append, List.length_cons]
      omega

/-- So a symbol with a point and its base differ in more than case. -/
theorem not_sameLetters_base {symbol : String} (pointed : '.' ∈ symbol.toList) :
    Text.sameLetters symbol (base symbol) = false := by
  rw [Bool.eq_false_iff]
  intro same
  unfold Text.sameLetters at same
  have lengths := congrArg List.length (beq_iff_eq.mp same)
  rw [List.length_map, List.length_map] at lengths
  have shorter := length_base_lt pointed
  omega

theorem isOn_iff {symbol venue : String} :
    isOn symbol venue = true ↔
      ∃ own, venue? symbol = some own ∧ Text.sameLetters own venue = true := by
  unfold isOn
  cases venue? symbol <;> simp

/-- A symbol on the venue stays as it is. -/
theorem composite_of_on {symbol venue : String} (here : isOn symbol venue = true) :
    composite symbol venue = symbol := by
  obtain ⟨own, named, same⟩ := isOn_iff.mp here
  unfold composite
  rw [named]
  exact if_pos same

/-- A base that does not lie on the venue itself is followed by the venue. -/
theorem composite_of_not_on {base venue : String} (elsewhere : isOn base venue = false) :
    composite base venue = base ++ "." ++ venue := by
  unfold isOn at elsewhere
  unfold composite
  cases own : venue? base with
  | none => rfl
  | some suffix =>
      rw [own] at elsewhere
      dsimp only at elsewhere ⊢
      rw [elsewhere, if_neg Bool.false_ne_true]

/-- A symbol lies on one venue only, up to case. -/
theorem sameLetters_of_isOn {symbol venue other : String} (onVenue : isOn symbol venue = true)
    (onOther : isOn symbol other = true) : Text.sameLetters venue other = true := by
  obtain ⟨own, named, same⟩ := isOn_iff.mp onVenue
  obtain ⟨otherOwn, otherNamed, otherSame⟩ := isOn_iff.mp onOther
  obtain rfl := Option.some.inj (named.symm.trans otherNamed)
  exact Text.sameLetters_trans (Text.sameLetters_symm same) otherSame

/-- A symbol made for a venue lies on that venue. -/
theorem isOn_composite (base : String) {venue : String} (named : IsVenueName venue) :
    isOn (composite base venue) venue = true := by
  cases here : isOn base venue with
  | true =>
      rw [composite_of_on here]
      exact here
  | false =>
      rw [composite_of_not_on here]
      exact isOn_iff.mpr ⟨venue, venue?_composed base named, Text.sameLetters_refl venue⟩

/-- Behind a point a name without points is the venue, unless it is empty. -/
theorem eq_of_venue?_composed {base venue own : String} (noPoint : '.' ∉ venue.toList)
    (named : venue? (base ++ "." ++ venue) = some own) : own = venue := by
  unfold venue? at named
  rw [toList_composed, splitLast?_append base.toList noPoint] at named
  cases letters : venue.toList with
  | nil =>
      rw [letters] at named
      cases named
  | cons c rest =>
      rw [letters] at named
      rw [← Option.some.inj named, ← letters, String.ofList_toList]

/-- A symbol made for a name without points lies on no other venue. -/
theorem sameLetters_of_isOn_composite {base venue other : String} (noPoint : '.' ∉ venue.toList)
    (onOther : isOn (composite base venue) other = true) : Text.sameLetters venue other = true := by
  cases here : isOn base venue with
  | true =>
      rw [composite_of_on here] at onOther
      exact sameLetters_of_isOn here onOther
  | false =>
      rw [composite_of_not_on here] at onOther
      obtain ⟨own, named, same⟩ := isOn_iff.mp onOther
      rwa [eq_of_venue?_composed noPoint named] at same

/-- The venue of a symbol has a name. -/
theorem venue?_nonempty {symbol own : String} (named : venue? symbol = some own) : own ≠ "" := by
  unfold venue? at named
  cases split : splitLast? symbol.toList with
  | none =>
      rw [split] at named
      cases named
  | some parts =>
      obtain ⟨start, rest⟩ := parts
      rw [split] at named
      cases rest with
      | nil => cases named
      | cons c others =>
          intro empty
          rw [← Option.some.inj named, String.ofList_eq_empty_iff] at empty
          cases empty

/-- No symbol lies on a venue without a name. -/
theorem isOn_empty (symbol : String) : isOn symbol "" = false := by
  by_contra here
  obtain ⟨own, named, same⟩ := isOn_iff.mp (Bool.not_eq_false _ ▸ here)
  rw [Text.sameLetters, beq_iff_eq] at same
  exact venue?_nonempty named (String.toList_eq_nil_iff.mp (List.map_eq_nil_iff.mp same))

/-- Two symbols have one base, and their venues differ in case at most. -/
def AgreesUpToVenueCase (symbol other : String) : Prop :=
  ∃ base venue otherVenue, symbol = base ++ "." ++ venue ∧
    other = base ++ "." ++ otherVenue ∧ Text.sameLetters venue otherVenue = true

theorem isOn_upper (symbol venue : String) :
    isOn symbol (Text.upper venue) = isOn symbol venue := by
  unfold isOn
  cases venue? symbol with
  | none => rfl
  | some own =>
      dsimp only
      rw [Bool.eq_iff_iff, Text.sameLetters_iff, Text.sameLetters_iff, Text.upper_upper]

end OrderKeeper.Symbol
