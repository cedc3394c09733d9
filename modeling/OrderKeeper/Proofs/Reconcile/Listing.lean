import OrderKeeper.Proofs.Dictionary
import OrderKeeper.Reconcile.Alignment

/-!
Contract: which rows of a listing count, and which of them a local order matches.

Owns: the last row of each id, the rows by id as exactly these, and the two rules by which
an order matches a row.

Does not own: what is done with orders and rows that match none.
-/

set_option autoImplicit false

namespace OrderKeeper

/-! ## The last row of each id -/

/-- The rows that count: those with an id that no later row has. -/
def lastRows : List ListedOrder → List ListedOrder
  | [] => []
  | row :: rest =>
      match row.orderId with
      | none => lastRows rest
      | some id =>
          if ∃ later ∈ rest, later.orderId = some id then lastRows rest
          else row :: lastRows rest

theorem lastRows_of_no_id {row : ListedOrder} (noId : row.orderId = none)
    (rest : List ListedOrder) : lastRows (row :: rest) = lastRows rest := by
  rw [lastRows, noId]

theorem lastRows_of_repeated {row : ListedOrder} {id : String} {rest : List ListedOrder}
    (hasId : row.orderId = some id) (repeated : ∃ later ∈ rest, later.orderId = some id) :
    lastRows (row :: rest) = lastRows rest := by
  rw [lastRows, hasId]
  exact if_pos repeated

theorem lastRows_of_last {row : ListedOrder} {id : String} {rest : List ListedOrder}
    (hasId : row.orderId = some id) (last : ¬∃ later ∈ rest, later.orderId = some id) :
    lastRows (row :: rest) = row :: lastRows rest := by
  rw [lastRows, hasId]
  exact if_neg last

theorem mem_lastRows_cons {first row : ListedOrder} {rest : List ListedOrder}
    (member : row ∈ lastRows (first :: rest)) :
    (row = first ∧ ∃ id, first.orderId = some id) ∨ row ∈ lastRows rest := by
  cases hasId : first.orderId with
  | none =>
      rw [lastRows_of_no_id hasId] at member
      exact Or.inr member
  | some id =>
      by_cases repeated : ∃ later ∈ rest, later.orderId = some id
      · rw [lastRows_of_repeated hasId repeated] at member
        exact Or.inr member
      · rw [lastRows_of_last hasId repeated] at member
        exact (List.mem_cons.mp member).imp_left fun here => ⟨here, id, rfl⟩

theorem mem_of_mem_lastRows {rows : List ListedOrder} {row : ListedOrder}
    (member : row ∈ lastRows rows) : row ∈ rows := by
  induction rows with
  | nil => exact member
  | cons first rest inductionHypothesis =>
      rcases mem_lastRows_cons member with ⟨here, -⟩ | later
      · rw [here]
        exact List.mem_cons_self
      · exact List.mem_cons_of_mem first (inductionHypothesis later)

/-- Every row that counts has an id. -/
theorem id_of_mem_lastRows {rows : List ListedOrder} {row : ListedOrder}
    (member : row ∈ lastRows rows) : ∃ id, row.orderId = some id := by
  induction rows with
  | nil => cases member
  | cons first rest inductionHypothesis =>
      rcases mem_lastRows_cons member with ⟨here, hasId⟩ | later
      · rw [here]
        exact hasId
      · exact inductionHypothesis later

/-- Every id of a listing has a row that counts. -/
theorem exists_lastRow {rows : List ListedOrder} {id : String}
    (listed : ∃ row ∈ rows, row.orderId = some id) :
    ∃ row ∈ lastRows rows, row.orderId = some id := by
  induction rows with
  | nil =>
      obtain ⟨row, member, -⟩ := listed
      cases member
  | cons first rest inductionHypothesis =>
      by_cases inRest : ∃ row ∈ rest, row.orderId = some id
      · obtain ⟨row, member, rowId⟩ := inductionHypothesis inRest
        refine ⟨row, ?_, rowId⟩
        unfold lastRows
        split
        · exact member
        · split
          · exact member
          · exact List.mem_cons_of_mem first member
      · have firstId : first.orderId = some id := by
          obtain ⟨row, member, rowId⟩ := listed
          rcases List.mem_cons.mp member with here | later
          · exact here ▸ rowId
          · exact absurd ⟨row, later, rowId⟩ inRest
        rw [lastRows_of_last firstId inRest]
        exact ⟨first, List.mem_cons_self, firstId⟩

theorem lastRows_ids_nodup (rows : List ListedOrder) :
    ((lastRows rows).map ListedOrder.orderId).Nodup := by
  induction rows with
  | nil => exact List.nodup_nil
  | cons first rest inductionHypothesis =>
      cases hasId : first.orderId with
      | none =>
          rw [lastRows_of_no_id hasId]
          exact inductionHypothesis
      | some id =>
          by_cases repeated : ∃ later ∈ rest, later.orderId = some id
          · rw [lastRows_of_repeated hasId repeated]
            exact inductionHypothesis
          · rw [lastRows_of_last hasId repeated, List.map_cons, List.nodup_cons]
            refine ⟨fun member => ?_, inductionHypothesis⟩
            obtain ⟨later, laterMember, sameId⟩ := List.mem_map.mp member
            exact repeated ⟨later, mem_of_mem_lastRows laterMember, sameId.trans hasId⟩

/-- Rows of distinct ids all count. -/
theorem lastRows_of_distinct {rows : List ListedOrder} (haveIds : ∀ row ∈ rows, row.orderId ≠ none)
    (distinct : (rows.map ListedOrder.orderId).Nodup) : lastRows rows = rows := by
  induction rows with
  | nil => rfl
  | cons first rest inductionHypothesis =>
      rw [List.map_cons, List.nodup_cons] at distinct
      obtain ⟨id, hasId⟩ := Option.ne_none_iff_exists'.mp (haveIds first List.mem_cons_self)
      have isLast : ¬∃ later ∈ rest, later.orderId = some id := by
        rintro ⟨later, member, laterId⟩
        exact distinct.1 (List.mem_map.mpr ⟨later, member, laterId.trans hasId.symm⟩)
      rw [lastRows_of_last hasId isLast, inductionHypothesis
        (fun row member => haveIds row (List.mem_cons_of_mem first member)) distinct.2]

theorem countWithoutId_of_ids {rows : List ListedOrder}
    (haveIds : ∀ row ∈ rows, row.orderId ≠ none) : countWithoutId rows = 0 := by
  unfold countWithoutId
  rw [List.length_eq_zero_iff, List.filter_eq_nil_iff]
  intro row member noId
  exact haveIds row member (Option.isNone_iff_eq_none.mp noId)

/-- One row counts for one id. -/
theorem eq_of_same_orderId {rows : List ListedOrder} {first second : ListedOrder}
    (firstMember : first ∈ lastRows rows) (secondMember : second ∈ lastRows rows)
    (same : first.orderId = second.orderId) : first = second :=
  List.inj_on_of_nodup_map (lastRows_ids_nodup rows) firstMember secondMember same

/-! ## Rows by id -/

/-- The insertion of rows one after the other leaves the last of each id. -/
theorem get?_foldl_listed (rows : List ListedOrder) (listed : Dictionary ListedOrder) (id : String) :
    (rows.foldl
        (fun listed row =>
          match row.orderId with
          | some id => listed.insert id row
          | none => listed)
        listed).get? id =
      ((lastRows rows).find? fun row => row.orderId = some id).or (listed.get? id) := by
  induction rows generalizing listed with
  | nil => rfl
  | cons first rest inductionHypothesis =>
      rw [List.foldl_cons, inductionHypothesis]
      cases hasId : first.orderId with
      | none => rw [lastRows_of_no_id hasId]
      | some firstId =>
          dsimp only
          rw [Dictionary.get?_insert]
          by_cases repeated : ∃ later ∈ rest, later.orderId = some firstId
          · rw [lastRows_of_repeated hasId repeated]
            by_cases here : id = firstId
            · obtain ⟨last, lastMember, lastId⟩ := exists_lastRow repeated
              have found : ((lastRows rest).find? fun row => row.orderId = some id) = some last :=
                (Keyed.find?_eq_some_iff (lastRows_ids_nodup rest) (some id) last).mpr
                  ⟨lastMember, here ▸ lastId⟩
              rw [found]
              rfl
            · rw [if_neg here]
          · rw [lastRows_of_last hasId repeated]
            by_cases here : id = firstId
            · have notLater : ((lastRows rest).find? fun row => row.orderId = some id) = none := by
                rw [List.find?_eq_none]
                intro later laterMember sameId
                exact repeated ⟨later, mem_of_mem_lastRows laterMember, by simpa [here] using sameId⟩
              rw [notLater, if_pos here, List.find?_cons_of_pos (by simp [hasId, here])]
              rfl
            · rw [if_neg here, List.find?_cons_of_neg (by simp [hasId, Ne.symm here])]

theorem listedById_get? (rows : List ListedOrder) (id : String) :
    (listedById rows).get? id = (lastRows rows).find? fun row => row.orderId = some id :=
  (get?_foldl_listed rows .empty id).trans Option.or_none

theorem mem_listedById (rows : List ListedOrder) (id : String) (row : ListedOrder) :
    (id, row) ∈ (listedById rows).entries ↔ row ∈ lastRows rows ∧ row.orderId = some id := by
  rw [← Dictionary.get?_eq_some_iff, listedById_get?]
  exact Keyed.find?_eq_some_iff (lastRows_ids_nodup rows) (some id) row

theorem listedById_contains (rows : List ListedOrder) (id : String) :
    (listedById rows).contains id = true ↔ ∃ row ∈ rows, row.orderId = some id := by
  rw [Dictionary.contains_iff]
  constructor
  · rintro ⟨row, entry⟩
    obtain ⟨member, rowId⟩ := (mem_listedById rows id row).mp entry
    exact ⟨row, mem_of_mem_lastRows member, rowId⟩
  · intro listed
    obtain ⟨row, member, rowId⟩ := exists_lastRow listed
    exact ⟨row, (mem_listedById rows id row).mpr ⟨member, rowId⟩⟩

/-- The rows kept by id are the rows that count, in another order. -/
theorem listedById_values_perm (rows : List ListedOrder) :
    (listedById rows).values.Perm (lastRows rows) := by
  have valuesNodup : (listedById rows).values.Nodup := by
    unfold Dictionary.values
    refine List.Nodup.map_on (fun entry member other otherMember sameRow => ?_)
      (List.Nodup.of_map Prod.fst (listedById rows).keys_nodup)
    have entryId := ((mem_listedById rows entry.1 entry.2).mp member).2
    have otherId := ((mem_listedById rows other.1 other.2).mp otherMember).2
    rw [sameRow, otherId] at entryId
    exact Prod.ext (Option.some.inj entryId).symm sameRow
  have lastNodup : (lastRows rows).Nodup := List.Nodup.of_map _ (lastRows_ids_nodup rows)
  rw [List.perm_ext_iff_of_nodup valuesNodup lastNodup]
  intro row
  constructor
  · intro member
    obtain ⟨entry, entryMember, rfl⟩ := List.mem_map.mp member
    exact ((mem_listedById rows entry.1 entry.2).mp entryMember).1
  · intro member
    obtain ⟨id, rowId⟩ := id_of_mem_lastRows member
    exact List.mem_map.mpr ⟨(id, row), (mem_listedById rows id row).mpr ⟨member, rowId⟩, rfl⟩

end OrderKeeper
