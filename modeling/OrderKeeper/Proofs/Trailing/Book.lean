import OrderKeeper.Proofs.Dictionary
import OrderKeeper.Proofs.Text.Numeral
import OrderKeeper.Trailing.Tick

/-!
Contract: what the book of trails keeps of each trail.

Owns: the terms that a protective order is made from, their permanence under prices,
the one price that triggers a trail, and what arming, removing and feeding do to the
book.

Does not own: the order in which those are done.
-/

set_option autoImplicit false

namespace OrderKeeper

/-! ## One trail -/

/-- What the protective order of a trail is made from. -/
structure TrailTerms where
  id : String
  symbol : String
  side : Side
  quantity : Decimal
  linkedOrder : Option OrderId
deriving DecidableEq

/-- The order that closes the position at a stop. -/
def TrailTerms.protectiveOrder (terms : TrailTerms) (stop : Decimal) : OrderTicket where
  clientKey := "trail:" ++ terms.id
  symbol := terms.symbol
  side := terms.side.flip
  orderKind := .stopMarket
  quantity := terms.quantity
  price := none
  stopPrice := some stop
  timeInForce := .goodTillCanceled
  strategyId := terms.linkedOrder.map OrderId.text

namespace Trail

def terms (trail : Trail) : TrailTerms :=
  ⟨trail.id, trail.symbol, trail.side, trail.quantity, trail.linkedOrder⟩

theorem protectiveOrder_eq (trail : Trail) (stop : Decimal) :
    trail.protectiveOrder stop = trail.terms.protectiveOrder stop :=
  rfl

theorem applyStop_terms (trail : Trail) (reference price : Decimal) (ratcheted : Bool) :
    (trail.applyStop reference price ratcheted).1.terms = trail.terms := by
  unfold applyStop
  split
  · rfl
  · dsimp only
    split
    · rfl
    · split <;> rfl

theorem warmUp_terms (trail : Trail) (price : Decimal) :
    (trail.warmUp price).1.terms = trail.terms := by
  unfold warmUp
  dsimp only
  split <;> rfl

/-- A price leaves the terms as they are. -/
@[simp] theorem feed_terms (trail : Trail) (price : Decimal) :
    (trail.feed price).1.terms = trail.terms := by
  unfold feed
  split
  · rfl
  · split
    · exact warmUp_terms trail price
    · split
      · rfl
      · exact applyStop_terms _ _ _ _
      · exact applyStop_terms _ _ _ _

theorem feed_of_triggered {trail : Trail} (triggered : trail.triggered = true) (price : Decimal) :
    trail.feed price = (trail, .ok .spent) := by
  unfold feed
  rw [if_pos triggered]

theorem applyStop_triggered {trail next : Trail} {reference price stop : Decimal}
    {ratcheted : Bool}
    (applied : trail.applyStop reference price ratcheted = (next, .ok (.triggered stop))) :
    next.triggered = true := by
  unfold applyStop at applied
  split at applied
  · simp at applied
  · dsimp only at applied
    split at applied
    · rw [← (Prod.mk.inj applied).1]
    · split at applied <;> simp at applied

theorem warmUp_not_triggered {trail next : Trail} {price stop : Decimal} :
    trail.warmUp price ≠ (next, .ok (.triggered stop)) := by
  intro warmed
  unfold warmUp at warmed
  dsimp only at warmed
  split at warmed <;> simp at warmed

/-- A trail that a price triggers was waiting until then, and no later price triggers it. -/
theorem feed_triggered {trail next : Trail} {price stop : Decimal}
    (fed : trail.feed price = (next, .ok (.triggered stop))) :
    trail.triggered = false ∧ next.triggered = true := by
  have waiting : ¬trail.triggered = true := by
    intro triggered
    rw [feed_of_triggered triggered] at fed
    simp at fed
  refine ⟨Bool.eq_false_iff.mpr waiting, ?_⟩
  unfold feed at fed
  rw [if_neg waiting] at fed
  split at fed
  · exact absurd fed warmUp_not_triggered
  · split at fed
    · simp at fed
    · exact applyStop_triggered fed
    · exact applyStop_triggered fed

end Trail

/-! ## The book -/

namespace TrailBook

/-- The number of a trail follows the last colon of its id. -/
theorem trailId_letters (symbol : String) (side : Side) (now : Instant) (offset : TrailOffset)
    (number : Nat) :
    ∃ start, (trailId symbol side now offset number).toList =
      start ++ ':' :: Text.numeral number := by
  refine ⟨(symbol ++ ":" ++ side.name ++ ":" ++
    String.ofList (Text.signedNumeral now.milliseconds) ++ ":" ++ offset.describe).toList, ?_⟩
  have colon : ":".toList = [':'] := rfl
  rw [trailId, String.toList_append, String.toList_append, List.append_assoc, colon,
    String.toList_ofList]
  rfl

/-- Trails of different numbers have different ids, whatever their symbols contain. -/
theorem trailId_number_inj {symbol otherSymbol : String} {side otherSide : Side}
    {now later : Instant} {offset otherOffset : TrailOffset} {number otherNumber : Nat}
    (same : trailId symbol side now offset number =
      trailId otherSymbol otherSide later otherOffset otherNumber) :
    number = otherNumber := by
  obtain ⟨start, letters⟩ := trailId_letters symbol side now offset number
  obtain ⟨otherStart, otherLetters⟩ :=
    trailId_letters otherSymbol otherSide later otherOffset otherNumber
  rw [same, otherLetters] at letters
  exact Text.numeral_inj (Text.append_colon_last_inj (Text.colon_not_mem_numeral number)
    (Text.colon_not_mem_numeral otherNumber) letters.symm)

/-- Puts a trail under an id, in place of what was there. -/
def put (book : TrailBook) (id : String) (trail : Trail) : TrailBook :=
  { book with trails := book.trails.insert id trail }

theorem get?_put (book : TrailBook) (id other : String) (trail : Trail) :
    (book.put id trail).get? other = if other = id then some trail else book.get? other :=
  Dictionary.get?_insert book.trails id other trail

theorem get?_remove (book : TrailBook) (id other : String) :
    (book.remove id).1.get? other = if other = id then none else book.get? other :=
  Dictionary.get?_erase book.trails id other

/-- Arming gives the next number to a new trail of an offset that is accepted. -/
theorem add_eq_ok {book next : TrailBook} {now : Instant} {symbol : String} {side : Side}
    {percent absolute : Option Decimal} {quantity : Decimal} {linkedOrder : Option OrderId}
    {id : String}
    (added : book.add now symbol side percent absolute quantity linkedOrder = .ok (next, id)) :
    ∃ offset, TrailOffset.ofParameters percent absolute = .ok offset ∧
      id = trailId symbol side now offset book.nextNumber ∧
      next = { book.put id (.create now id symbol side offset quantity linkedOrder) with
        nextNumber := book.nextNumber + 1 } := by
  unfold add at added
  cases offset_eq : TrailOffset.ofParameters percent absolute with
  | error refusal =>
    rw [offset_eq] at added
    cases added
  | ok offset =>
    rw [offset_eq] at added
    cases positive : requirePositive "quantity" quantity with
    | error refusal =>
      simp only [positive] at added
      cases added
    | ok _ =>
      simp only [positive] at added
      cases added
      exact ⟨offset, rfl, rfl, rfl⟩

/-- A trail is in the book as it was made. -/
theorem eq_create_of_added {book next : TrailBook} {now : Instant} {symbol id : String}
    {side : Side} {percent absolute : Option Decimal} {quantity : Decimal}
    {linkedOrder : Option OrderId} {trail : Trail}
    (added : book.add now symbol side percent absolute quantity linkedOrder = .ok (next, id))
    (armed : next.get? id = some trail) :
    ∃ offset, TrailOffset.ofParameters percent absolute = .ok offset ∧
      trail = .create now id symbol side offset quantity linkedOrder := by
  obtain ⟨offset, accepted, -, rfl⟩ := add_eq_ok added
  have found := get?_put book id id (.create now id symbol side offset quantity linkedOrder)
  rw [if_pos rfl] at found
  exact ⟨offset, accepted, Option.some.inj (armed.symm.trans found)⟩

/-- Feeds a price to the trail of an id and keeps the trail, triggered or not. -/
def observe (book : TrailBook) (id : String) (price : Decimal) :
    Option (TrailBook × Except ArithmeticError TrailReaction) :=
  match book.trails.get? id with
  | none => none
  | some trail =>
      let (trail, reaction) := trail.feed price
      some (book.put id trail, reaction)

/-- Feeding is an observation, and the removal of the trail if it triggered. -/
theorem feed_eq_observe (book : TrailBook) (id : String) (price : Decimal) :
    book.feed id price =
      match book.observe id price with
      | none => none
      | some (book, .error cause) => some (book, .error cause)
      | some (book, .ok (.triggered stop)) =>
          let (book, taken) := book.remove id
          some (book, .ok (.triggered stop, taken))
      | some (book, .ok reaction) => some (book, .ok (reaction, none)) := by
  unfold feed observe
  cases book.trails.get? id with
  | none => rfl
  | some trail =>
    dsimp only
    obtain ⟨fed, reaction⟩ := trail.feed price
    cases reaction with
    | error cause => rfl
    | ok reaction =>
      cases reaction with
      | triggered stop =>
        simp only [put, remove, Dictionary.erase_insert, Dictionary.get?_insert, if_true]
      | warmUp => rfl
      | holding stop => rfl
      | ratcheted reference stop => rfl
      | spent => rfl

end TrailBook

end OrderKeeper
