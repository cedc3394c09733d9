import OrderKeeper.Proofs.Order.Symbol
import OrderKeeper.Proofs.Reconcile.Alignment

/-!
Contract: the symbol of a row, as it is matched and as it is taken over.

Owns: the symbols that both readings agree on, what becomes of an order without a venue order id
when all symbols of a listing are of that kind, and that the readings never agree on another one.

Does not own: which of several rows an order holds back.

A match cuts off the last part of a symbol, whatever it is.  A row that is taken over keeps its
symbol whole, and the venue is put behind it unless it stands there already.  So a ticker with a
point of its own, such as one of a class of shares, is matched by less than its name.
-/

set_option autoImplicit false

namespace OrderKeeper

/-! ## Symbols -/

namespace Symbol

/-- A symbol has no last part to cut off, or the one that is put behind it. -/
def ReadsOneWay (symbol venue : String) : Prop :=
  '.' ∉ symbol.toList ∨ isOn symbol venue = true

instance (symbol venue : String) : Decidable (ReadsOneWay symbol venue) :=
  inferInstanceAs (Decidable (_ ∨ _))

variable {symbol other venue : String}

/-- Two symbols that end in one venue, up to case, differ as their bases do. -/
theorem sameLetters_iff_base {start suffix : String} (sameVenue : Text.sameLetters suffix venue = true)
    (here : isOn other venue = true) :
    Text.sameLetters (start ++ "." ++ suffix) other = true ↔
      Text.sameLetters start (base other) = true := by
  obtain ⟨otherSuffix, named, otherHere⟩ := isOn_iff.mp here
  have sameSuffix := Text.sameLetters_trans sameVenue (Text.sameLetters_symm otherHere)
  conv_lhs => rw [eq_of_venue? named]
  unfold Text.sameLetters at sameSuffix ⊢
  rw [beq_iff_eq] at sameSuffix ⊢
  rw [beq_iff_eq, toList_composed, toList_composed, List.map_append, List.map_append,
    List.map_cons, List.map_cons, sameSuffix, List.append_left_inj]

/-- A symbol that is read in one way has the base of another one on the venue exactly if the symbol
that it is taken over under is the other one. -/
theorem sameBase_iff (reads : ReadsOneWay symbol venue) (here : isOn other venue = true) :
    Text.sameLetters (base symbol) (base other) = true ↔
      Text.sameLetters (composite symbol venue) other = true := by
  rcases reads with noPoint | onVenue
  · rw [base_of_no_point noPoint, composite_of_not_on (isOn_of_no_point noPoint venue)]
    exact (sameLetters_iff_base (Text.sameLetters_refl venue) here).symm
  · obtain ⟨suffix, named, sameVenue⟩ := isOn_iff.mp onVenue
    rw [composite_of_on onVenue]
    conv_rhs => rw [eq_of_venue? named]
    exact (sameLetters_iff_base sameVenue here).symm

/-- A symbol that is not read in one way does not have the base of another one and is taken over
under it as well. -/
theorem not_sameBase_and_same (unclear : ¬ReadsOneWay symbol venue)
    (here : isOn other venue = true) :
    ¬(Text.sameLetters (base symbol) (base other) = true ∧
      Text.sameLetters (composite symbol venue) other = true) := by
  rintro ⟨sameBase, same⟩
  obtain ⟨pointed, elsewhere⟩ := not_or.mp unclear
  rw [composite_of_not_on (Bool.eq_false_iff.mpr elsewhere),
    sameLetters_iff_base (Text.sameLetters_refl venue) here] at same
  -- The whole symbol and its base would be the same letters.
  have whole := Text.sameLetters_trans same (Text.sameLetters_symm sameBase)
  rw [not_sameLetters_base (not_not.mp pointed)] at whole
  cases whole

end Symbol

/-! ## Rows -/

/-- The symbol that a row is taken over under is that of an order, and its side is known and that of
the order. -/
def ListedOrder.StandsFor (row : ListedOrder) (venue : String) (order : Order) : Prop :=
  (∃ symbol ∈ row.symbol,
    Text.sameLetters (Symbol.composite symbol venue) order.symbol = true) ∧
    row.side.bind Side.ofVendor? = some order.side

instance (row : ListedOrder) (venue : String) (order : Order) :
    Decidable (row.StandsFor venue order) :=
  inferInstanceAs (Decidable (_ ∧ _))

def ListedOrder.ReadsOneWay (row : ListedOrder) (venue : String) : Prop :=
  ∀ symbol ∈ row.symbol, Symbol.ReadsOneWay symbol venue

instance (row : ListedOrder) (venue : String) : Decidable (row.ReadsOneWay venue) :=
  inferInstanceAs (Decidable (∀ symbol ∈ row.symbol, _))

section Rows

variable {venue : String} {order : Order} {row : ListedOrder} {rows : List ListedOrder}

/-- A row of a known side stands for an order exactly if it is taken over as one of its symbol and
side. -/
theorem standsFor_iff_taken {now : Instant} {imported : Order}
    (taken : importedOrder now venue row = .ok imported)
    (sided : (row.side.bind Side.ofVendor?).isSome) :
    row.StandsFor venue order ↔
      Text.sameLetters imported.symbol order.symbol = true ∧ imported.side = order.side := by
  obtain ⟨⟨id, isFrom⟩, -⟩ := importedOrder_ok taken
  obtain ⟨symbol, isSymbol, isComposite⟩ := isFrom.symbol
  obtain ⟨side, isSide⟩ := Option.isSome_iff_exists.mp sided
  have importedSide := side_of_imported taken
  rw [isSide] at importedSide
  unfold ListedOrder.StandsFor
  rw [isSymbol, isSide, isComposite, importedSide]
  simp

/-- For a row that is read in one way the match and the import agree. -/
theorem resembles_iff_standsFor (reads : row.ReadsOneWay venue)
    (here : Symbol.isOn order.symbol venue = true) :
    order.Resembles row ↔ row.StandsFor venue order := by
  unfold Order.Resembles ListedOrder.StandsFor
  refine and_congr_left fun _ => exists_congr fun symbol => and_congr_right fun isSymbol => ?_
  exact Symbol.sameBase_iff (reads symbol isSymbol) here

/-- For any other row they never do. -/
theorem not_resembles_and_standsFor (unclear : ¬row.ReadsOneWay venue)
    (here : Symbol.isOn order.symbol venue = true) :
    ¬(order.Resembles row ∧ row.StandsFor venue order) := by
  rintro ⟨⟨⟨symbol, isSymbol, sameBase⟩, -⟩, ⟨other, isOther, same⟩, -⟩
  obtain rfl := Option.some.inj (isSymbol.symm.trans isOther)
  apply unclear
  intro alsoSymbol isAlso
  obtain rfl := Option.some.inj (isSymbol.symm.trans isAlso)
  by_contra notOneWay
  exact Symbol.not_sameBase_and_same notOneWay here ⟨sameBase, same⟩

/-- In a listing whose rows are read in one way an order without a venue order id is missing exactly
if no row stands for it. -/
theorem isMissing_iff_none_stands (isOpen : order.isOpen = true)
    (here : Symbol.isOn order.symbol venue = true) (noId : order.venueOrderId = none)
    (reads : ∀ row ∈ lastRows rows, row.ReadsOneWay venue) :
    order.IsMissing venue rows ↔ ∀ row ∈ lastRows rows, ¬row.StandsFor venue order := by
  have unlisted : order.IsUnlisted rows ↔ ∀ row ∈ lastRows rows, ¬order.Resembles row := by
    unfold Order.IsUnlisted
    rw [noId]
  unfold Order.IsMissing
  rw [unlisted]
  constructor
  · rintro ⟨-, -, unlike⟩ row member stands
    exact unlike row member ((resembles_iff_standsFor (reads row member) here).mpr stands)
  · intro noneStands
    refine ⟨isOpen, here, fun row member resembles => noneStands row member ?_⟩
    exact (resembles_iff_standsFor (reads row member) here).mp resembles

end Rows

/-! ## Main statement -/

/-- An open order on a venue, without a venue order id.

Whatever row is listed: if its symbol is read in one way, the order matches it exactly if the row
stands for the order, that is, if the row is taken over as one of the order's symbol and side; if its
symbol is not, the order never does both.

A listing of rows that are read in one way misses the order exactly if no row stands for it.  Then
the order gets the status of the policy, and else it stays as it is, unless a row is taken over under
its id. -/
theorem matching_reads_symbols_as_import {venue : String} {order : Order}
    (isOpen : order.isOpen = true) (here : Symbol.isOn order.symbol venue = true)
    (noId : order.venueOrderId = none) :
    (∀ row : ListedOrder,
      (row.ReadsOneWay venue → (matchesBySymbol order row = true ↔ row.StandsFor venue order)) ∧
        (¬row.ReadsOneWay venue →
          ¬(matchesBySymbol order row = true ∧ row.StandsFor venue order)) ∧
        ∀ now imported, importedOrder now venue row = .ok imported →
          (row.side.bind Side.ofVendor?).isSome →
          (row.StandsFor venue order ↔
            Text.sameLetters imported.symbol order.symbol = true ∧
              imported.side = order.side)) ∧
      ∀ rows, (∀ row ∈ lastRows rows, row.ReadsOneWay venue) →
        (order.IsMissing venue rows ↔ ∀ row ∈ lastRows rows, ¬row.StandsFor venue order) ∧
          ∀ policy now (ledger : Ledger), order ∈ ledger.orders →
            (∀ row ∈ rows, ∀ id ∈ row.orderId, order.id ≠ .imported venue id) →
            let after := (alignWithListing policy now venue rows ledger).1
            ((∃ row ∈ lastRows rows, row.StandsFor venue order) →
                after.get? order.id = some order) ∧
              ((∀ row ∈ lastRows rows, ¬row.StandsFor venue order) →
                after.get? order.id = some (match policy.closingStatus? with
                  | some status => { order with status, updatedAt := now }
                  | none => order)) := by
  refine ⟨fun row => ⟨fun reads => ?_, fun unclear => ?_, fun now imported taken sided => ?_⟩,
    fun rows reads => ?_⟩
  · rw [Order.matchesBySymbol_iff]
    exact resembles_iff_standsFor reads here
  · rw [Order.matchesBySymbol_iff]
    exact not_resembles_and_standsFor unclear here
  · exact standsFor_iff_taken taken sided
  · have missing_iff := isMissing_iff_none_stands isOpen here noId reads
    refine ⟨missing_iff, fun policy now ledger member apart => ?_⟩
    intro after
    have untaken : ∀ taken ∈ takenOver now venue (ledger.unknownRows venue rows),
        taken.id ≠ order.id := by
      intro taken isTaken
      obtain ⟨row, counts, id, -, isFrom, -⟩ := row_of_taken isTaken
      rw [isFrom.order_id]
      exact (apart row (mem_of_mem_lastRows counts) id isFrom.row_id).symm
    have settled : after.get? order.id = some (order.settled policy now venue rows) := by
      have kept := get?_of_untaken untaken policy
      rwa [Ledger.get?_of_mem member] at kept
    rw [settled]
    constructor
    · rintro ⟨row, rowMember, stands⟩
      rw [Order.settled_of_not_missing]
      exact fun missing => missing_iff.mp missing row rowMember stands
    · intro noneStands
      unfold Order.settled
      cases policy.closingStatus? with
      | none => rfl
      | some status =>
          dsimp only
          rw [if_pos (missing_iff.mpr noneStands)]

/-- An order of a ticker without points is kept by a row of that ticker, and closed by a listing that
has another ticker only. -/
theorem plain_ticker_keeps_order :
    let order := Order.create ⟨0, 0⟩ ⟨"o1"⟩ "key" "BTC.PAPER" .buy .limit .one
    let own : ListedOrder := { (default : ListedOrder) with
      orderId := some "x1", symbol := some "btc.paper", side := some "BUY" }
    let other : ListedOrder := { (default : ListedOrder) with
      orderId := some "x2", symbol := some "BT", side := some "BUY" }
    let before := (Ledger.empty.write ⟨0, 0⟩ order).1
    let kept := (alignWithListing .assumeFilled ⟨1, 0⟩ "PAPER" [own, other] before).1
    let closed := (alignWithListing .assumeFilled ⟨1, 0⟩ "PAPER" [other] before).1
    kept.get? order.id = some order ∧
      closed.get? order.id = some { order with status := .filled, updatedAt := ⟨1, 0⟩ } := by
  intro order own other before kept closed
  have read := (@matching_reads_symbols_as_import "PAPER" order (by decide) (by decide) rfl).2
  have member : order ∈ before.orders := by decide
  constructor
  · exact ((read [own, other] (by decide)).2 .assumeFilled ⟨1, 0⟩ before member (by decide)).1
      (by decide)
  · exact ((read [other] (by decide)).2 .assumeFilled ⟨1, 0⟩ before member (by decide)).2
      (by decide)

/-- A ticker with a point of its own.  Its row does not match the order of that ticker, which is closed
while the row is taken over as a second order of the same symbol and side; and the row matches an
order of another ticker, which it keeps open. -/
theorem pointed_ticker_is_not_matched :
    let order := Order.create ⟨0, 0⟩ ⟨"o1"⟩ "key" "BTC.B.PAPER" .buy .limit .one
    let plain := Order.create ⟨0, 0⟩ ⟨"o2"⟩ "key" "BTC.PAPER" .buy .limit .one
    let row : ListedOrder := { (default : ListedOrder) with
      orderId := some "x1", symbol := some "BTC.B", side := some "BUY" }
    let before := (Ledger.empty.write ⟨0, 0⟩ order).1
    let after := alignWithListing .assumeFilled ⟨1, 0⟩ "PAPER" [row] before
    let beforePlain := (Ledger.empty.write ⟨0, 0⟩ plain).1
    let afterPlain := alignWithListing .assumeFilled ⟨1, 0⟩ "PAPER" [row] beforePlain
    Symbol.IsVenueName "PAPER" ∧ order.isOpen = true ∧ plain.isOpen = true ∧
      Symbol.isOn order.symbol "PAPER" = true ∧ Symbol.isOn plain.symbol "PAPER" = true ∧
      order.venueOrderId = none ∧ plain.venueOrderId = none ∧
      (row.StandsFor "PAPER" order ∧ matchesBySymbol order row = false ∧
        after.2.closed = 1 ∧ after.2.imported = 1 ∧
        (after.1.get? (.imported "PAPER" "x1")).map Order.symbol = some order.symbol) ∧
      ¬row.StandsFor "PAPER" plain ∧ matchesBySymbol plain row = true ∧
        afterPlain.2.closed = 0 ∧ afterPlain.1.get? plain.id = some plain := by
  decide

end OrderKeeper
