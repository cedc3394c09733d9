import OrderKeeper.Proofs.Reconcile.Alignment
import OrderKeeper.Proofs.Reconcile.Answers

/-!
Contract: the part of the ledger that belongs to one venue.

Owns: where the orders imported from a venue lie, the frame of a listing, which is every order
on other venues, and the dependence of what a listing does to its venue on the orders of that
venue alone; the same for the answers of a pass.

Does not own: passes.

Nothing in the ledger keeps the venues apart.  A write goes to an id, and an id imported from
a venue is its venue's only as long as the order that it leads to lies there.
-/

set_option autoImplicit false

namespace OrderKeeper

namespace Ledger

/-! ## Orders of one venue -/

/-- A change of every order that moves none to the venue or away from it. -/
theorem onVenue_of_map {before after : Ledger} {change : Order → Order} {venue : String}
    (orders : after.orders = before.orders.map change)
    (keepsPlace : ∀ order ∈ before.orders,
      Symbol.isOn (change order).symbol venue = Symbol.isOn order.symbol venue) :
    after.onVenue venue = (before.onVenue venue).map change := by
  unfold onVenue
  rw [orders, List.filter_map]
  exact congrArg (List.map change) (List.filter_congr keepsPlace)

theorem onVenue_unnamed (ledger : Ledger) : ledger.onVenue "" = [] := by
  unfold onVenue
  rw [List.filter_eq_nil_iff]
  intro order _
  rw [Symbol.isOn_empty]
  exact Bool.false_ne_true

/-- An id whose order lies on the venue, if it has one, is found among the venue's orders. -/
theorem get?_eq_find?_onVenue {ledger : Ledger} {venue : String} {id : OrderId}
    (here : ∀ order, ledger.get? id = some order → Symbol.isOn order.symbol venue = true) :
    ledger.get? id = (ledger.onVenue venue).find? fun order => order.id = id := by
  have distinct : ((ledger.onVenue venue).map Order.id).Nodup :=
    ledger.distinct_ids.sublist (List.filter_sublist.map Order.id)
  refine Option.ext fun found => ?_
  rw [Keyed.find?_eq_some_iff distinct, get?_eq_some_iff]
  constructor
  · rintro ⟨member, sameId⟩
    have onVenue := here found ((ledger.get?_eq_some_iff id found).mpr ⟨member, sameId⟩)
    exact ⟨List.mem_filter.mpr ⟨member, onVenue⟩, sameId⟩
  · rintro ⟨member, sameId⟩
    exact ⟨(List.mem_filter.mp member).1, sameId⟩

/-- A write elsewhere, over nothing or over an order elsewhere, leaves the venue's orders. -/
theorem onVenue_write_elsewhere {ledger : Ledger} {order : Order} {venue : String} (now : Instant)
    (elsewhere : Symbol.isOn order.symbol venue = false)
    (overElsewhere : ∀ current, ledger.get? order.id = some current →
      Symbol.isOn current.symbol venue = false) :
    (ledger.write now order).1.onVenue venue = ledger.onVenue venue := by
  cases stored : ledger.get? order.id with
  | none =>
      unfold onVenue
      rw [(write_of_absent now stored).1, List.filter_append,
        List.filter_cons_of_neg (by simp [elsewhere]), List.filter_nil, List.append_nil]
  | some current =>
      rw [write_of_stored now stored]
      by_cases guarded : (current.status.isFinal && current.status != order.status) = true
      · rw [if_pos guarded]
      · have notOver : ∀ kept ∈ ledger.orders, kept.id = order.id →
            Symbol.isOn kept.symbol venue = false := by
          intro kept member sameId
          exact overElsewhere kept (sameId ▸ get?_of_mem member)
        rw [if_neg guarded]
        refine (onVenue_of_map rfl ?_).trans ?_
        · intro kept member
          by_cases here : kept.id = order.id
          · rw [if_pos here, notOver kept member here]
            exact elsewhere
          · rw [if_neg here]
        · refine (List.map_congr_left fun kept member => ?_).trans (List.map_id _)
          obtain ⟨keptStored, onVenue⟩ := List.mem_filter.mp member
          refine if_neg fun sameId => ?_
          rw [notOver kept keptStored sameId] at onVenue
          cases onVenue

/-- A write on the venue, over nothing or over an order of the venue, does the same to every
ledger that has the same orders there. -/
theorem onVenue_write_congr {first second : Ledger} {order : Order} {venue : String}
    (same : first.onVenue venue = second.onVenue venue) (now : Instant)
    (here : Symbol.isOn order.symbol venue = true)
    (overFirst : ∀ current, first.get? order.id = some current →
      Symbol.isOn current.symbol venue = true)
    (overSecond : ∀ current, second.get? order.id = some current →
      Symbol.isOn current.symbol venue = true) :
    (first.write now order).1.onVenue venue = (second.write now order).1.onVenue venue := by
  have sameStored : first.get? order.id = second.get? order.id := by
    rw [get?_eq_find?_onVenue overFirst, get?_eq_find?_onVenue overSecond, same]
  cases stored : first.get? order.id with
  | none =>
      unfold onVenue at same ⊢
      rw [(write_of_absent now stored).1, (write_of_absent now (sameStored.symm.trans stored)).1,
        List.filter_append, List.filter_append, same]
  | some current =>
      let stamped := { order with updatedAt := now }
      have replaces : ∀ ledger : Ledger,
          (∀ current, ledger.get? order.id = some current →
            Symbol.isOn current.symbol venue = true) →
          (ledger.modify order.id (fun _ => stamped) fun _ _ => rfl).onVenue venue =
            (ledger.onVenue venue).map fun kept =>
              if kept.id = order.id then stamped else kept := by
        intro ledger isOver
        refine onVenue_of_map rfl fun kept member => ?_
        by_cases sameId : kept.id = order.id
        · rw [if_pos sameId, isOver kept (sameId ▸ get?_of_mem member)]
          exact here
        · rw [if_neg sameId]
      rw [write_of_stored now stored, write_of_stored now (sameStored.symm.trans stored)]
      by_cases guarded : (current.status.isFinal && current.status != order.status) = true
      · rw [if_pos guarded, if_pos guarded]
        exact same
      · rw [if_neg guarded, if_neg guarded]
        dsimp only
        rw [replaces first overFirst, replaces second overSecond, same]

/-! ## Imported orders -/

/-- Every order under an id imported from the venue has a symbol of some kind. -/
def ImportsLie (ledger : Ledger) (venue : String) (place : String → Prop) : Prop :=
  ∀ order ∈ ledger.orders, ∀ id, order.id = .imported venue id → place order.symbol

/-- Every order under an id imported from the venue lies on the venue. -/
def ImportsStay (ledger : Ledger) (venue : String) : Prop :=
  ledger.ImportsLie venue fun symbol => Symbol.isOn symbol venue = true

section Imports

variable {ledger : Ledger} {venue : String} {place : String → Prop}

theorem ImportsLie.of_get? (lie : ledger.ImportsLie venue place) {id : String} {order : Order}
    (stored : ledger.get? (.imported venue id) = some order) : place order.symbol := by
  obtain ⟨member, sameId⟩ := (ledger.get?_eq_some_iff _ order).mp stored
  exact lie order member id sameId

theorem ImportsLie.write (lie : ledger.ImportsLie venue place) (now : Instant) {order : Order}
    (fits : ∀ id, order.id = .imported venue id → place order.symbol) :
    (ledger.write now order).1.ImportsLie venue place := by
  intro kept member id keptId
  have stored := get?_of_mem member
  rw [get?_write] at stored
  by_cases here : kept.id = order.id
  · rw [if_pos here] at stored
    have orderFits := fits id (here.symm.trans keptId)
    cases before : ledger.get? order.id with
    | none =>
        rw [before] at stored
        rw [← Option.some.inj stored]
        exact orderFits
    | some current =>
        rw [before] at stored
        have written := Option.some.inj stored
        unfold Order.writtenOver at written
        dsimp only at written
        by_cases guarded : (current.status.isFinal && current.status != order.status) = true
        · rw [if_pos guarded] at written
          obtain ⟨currentMember, currentId⟩ := (ledger.get?_eq_some_iff _ current).mp before
          rw [← written]
          exact lie current currentMember id (currentId.trans (here.symm.trans keptId))
        · rw [if_neg guarded] at written
          rw [← written]
          exact orderFits
  · rw [if_neg here] at stored
    exact lie kept ((ledger.get?_eq_some_iff _ kept).mp stored).1 id keptId

theorem ImportsLie.writeAll {orders : List Order} (lie : ledger.ImportsLie venue place)
    (now : Instant)
    (fit : ∀ order ∈ orders, ∀ id, order.id = .imported venue id → place order.symbol) :
    (ledger.writeAll now orders).1.ImportsLie venue place := by
  induction orders generalizing ledger with
  | nil => exact lie
  | cons first rest inductionHypothesis =>
      exact inductionHypothesis (lie.write now (fit first List.mem_cons_self))
        fun order member => fit order (List.mem_cons_of_mem first member)

theorem ImportsLie.afterCloses (lie : ledger.ImportsLie venue place) (policy : AbsencePolicy)
    (now : Instant) (closing : String) (rows : List ListedOrder) :
    (ledger.afterCloses policy now closing rows).ImportsLie venue place := by
  intro order member id sameId
  rw [afterCloses_orders] at member
  obtain ⟨before, stored, rfl⟩ := List.mem_map.mp member
  rw [Order.settled_id] at sameId
  rw [Order.settled_symbol]
  exact lie before stored id sameId

/-- Imports written elsewhere, over imports elsewhere, leave the orders of another venue. -/
theorem onVenue_writeAll_elsewhere {other : String} {orders : List Order}
    (off : ledger.ImportsLie venue fun symbol => Symbol.isOn symbol other = false) (now : Instant)
    (imports : ∀ order ∈ orders,
      (∃ id, order.id = .imported venue id) ∧ Symbol.isOn order.symbol other = false) :
    (ledger.writeAll now orders).1.onVenue other = ledger.onVenue other := by
  induction orders generalizing ledger with
  | nil => rfl
  | cons first rest inductionHypothesis =>
      obtain ⟨⟨id, firstId⟩, elsewhere⟩ := imports first List.mem_cons_self
      refine (inductionHypothesis (off.write now fun _ _ => elsewhere)
        fun order member => imports order (List.mem_cons_of_mem first member)).trans ?_
      refine onVenue_write_elsewhere now elsewhere fun current stored => ?_
      rw [firstId] at stored
      exact off.of_get? stored

/-- Imports written on their venue do the same to every ledger that has the same orders there. -/
theorem onVenue_writeAll_congr {first second : Ledger} {orders : List Order}
    (same : first.onVenue venue = second.onVenue venue) (firstStays : first.ImportsStay venue)
    (secondStays : second.ImportsStay venue) (now : Instant)
    (imports : ∀ order ∈ orders,
      (∃ id, order.id = .imported venue id) ∧ Symbol.isOn order.symbol venue = true) :
    (first.writeAll now orders).1.onVenue venue = (second.writeAll now orders).1.onVenue venue := by
  induction orders generalizing first second with
  | nil => exact same
  | cons order rest inductionHypothesis =>
      obtain ⟨⟨id, orderId⟩, here⟩ := imports order List.mem_cons_self
      refine inductionHypothesis ?_ (firstStays.write now fun _ _ => here)
        (secondStays.write now fun _ _ => here)
        fun later member => imports later (List.mem_cons_of_mem order member)
      refine onVenue_write_congr same now here ?_ ?_
      · intro current stored
        rw [orderId] at stored
        exact firstStays.of_get? stored
      · intro current stored
        rw [orderId] at stored
        exact secondStays.of_get? stored

end Imports

end Ledger

/-! ## One listing -/

section Listing

variable {policy : AbsencePolicy} {venue other : String} {rows : List ListedOrder}
  {ledger : Ledger}

/-- A symbol on one venue is on no other. -/
theorem isOn_elsewhere (apart : Text.sameLetters venue other = false) {symbol : String}
    (here : Symbol.isOn symbol venue = true) : Symbol.isOn symbol other = false := by
  by_contra there
  rw [Bool.not_eq_false] at there
  rw [Symbol.sameLetters_of_isOn here there] at apart
  cases apart

theorem id_of_taken {now : Instant} {order : Order} (member : order ∈ takenOver now venue rows) :
    ∃ id, order.id = .imported venue id := by
  obtain ⟨row, -, taken⟩ := (mem_takenOver now venue rows order).mp member
  obtain ⟨⟨id, isFrom⟩, -⟩ := importedOrder_ok taken
  exact ⟨id, isFrom.order_id⟩

theorem taken_elsewhere (plain : '.' ∉ venue.toList) (apart : Text.sameLetters venue other = false)
    {now : Instant} {order : Order} (member : order ∈ takenOver now venue rows) :
    Symbol.isOn order.symbol other = false := by
  obtain ⟨row, -, taken⟩ := (mem_takenOver now venue rows order).mp member
  obtain ⟨⟨id, isFrom⟩, -⟩ := importedOrder_ok taken
  obtain ⟨symbol, -, composite⟩ := isFrom.symbol
  by_contra there
  rw [Bool.not_eq_false, composite] at there
  rw [Symbol.sameLetters_of_isOn_composite plain there] at apart
  cases apart

/-- A listing of one venue leaves the orders of any other as they are. -/
theorem onVenue_of_other_listing (plain : '.' ∉ venue.toList) (stays : ledger.ImportsStay venue)
    (now : Instant) (apart : Text.sameLetters venue other = false) :
    (alignWithListing policy now venue rows ledger).1.onVenue other = ledger.onVenue other := by
  obtain ⟨taken, -, aligned⟩ := alignWithListing_eq policy now venue rows ledger
  rw [aligned]
  have off : ledger.ImportsLie venue fun symbol => Symbol.isOn symbol other = false :=
    fun order member id sameId => isOn_elsewhere apart (stays order member id sameId)
  refine (Ledger.onVenue_writeAll_elsewhere (off.afterCloses policy now venue rows) now
    fun order member => ⟨id_of_taken member, taken_elsewhere plain apart member⟩).trans ?_
  refine (Ledger.onVenue_of_map (ledger.afterCloses_orders policy now venue rows)
    fun order _ => by rw [Order.settled_symbol]).trans ?_
  refine (List.map_congr_left fun order member => ?_).trans (List.map_id _)
  apply Order.settled_of_not_missing
  intro missing
  have there := (List.mem_filter.mp member).2
  rw [isOn_elsewhere apart missing.2.1] at there
  cases there

/-- A listing of one venue moves no order imported from another. -/
theorem importsStay_of_other_listing (plain : ':' ∉ venue.toList) (otherPlain : ':' ∉ other.toList)
    (different : other ≠ venue) (stays : ledger.ImportsStay other) (now : Instant) :
    (alignWithListing policy now venue rows ledger).1.ImportsStay other := by
  obtain ⟨taken, -, aligned⟩ := alignWithListing_eq policy now venue rows ledger
  rw [aligned]
  refine (stays.afterCloses policy now venue rows).writeAll now ?_
  intro order member id otherId
  obtain ⟨own, ownId⟩ := id_of_taken member
  exact absurd (OrderId.venue_of_imported otherPlain plain (otherId.symm.trans ownId)) different

/-- What a listing does to its venue depends on the orders of that venue alone. -/
theorem onVenue_of_own_listing {first second : Ledger} (plain : '.' ∉ venue.toList)
    (same : first.onVenue venue = second.onVenue venue) (firstStays : first.ImportsStay venue)
    (secondStays : second.ImportsStay venue) (now : Instant) :
    (alignWithListing policy now venue rows first).1.onVenue venue =
      (alignWithListing policy now venue rows second).1.onVenue venue := by
  by_cases unnamed : venue = ""
  · rw [unnamed, Ledger.onVenue_unnamed, Ledger.onVenue_unnamed]
  have named : Symbol.IsVenueName venue := ⟨unnamed, plain⟩
  have closed : (first.afterCloses policy now venue rows).onVenue venue =
      (second.afterCloses policy now venue rows).onVenue venue := by
    have settles : ∀ ledger : Ledger, (ledger.afterCloses policy now venue rows).onVenue venue =
        (ledger.onVenue venue).map (Order.settled policy now venue rows) := fun ledger =>
      Ledger.onVenue_of_map (ledger.afterCloses_orders policy now venue rows)
        fun order _ => by rw [Order.settled_symbol]
    rw [settles first, settles second, same]
  unfold alignWithListing
  dsimp only
  rw [Ledger.filter_claimsNothing, Ledger.filter_claimsNothing, importAll_eq, importAll_eq, same]
  refine Ledger.onVenue_writeAll_congr closed (firstStays.afterCloses policy now venue rows)
    (secondStays.afterCloses policy now venue rows) now ?_
  intro order member
  obtain ⟨row, -, taken⟩ := (mem_takenOver now venue _ order).mp member
  obtain ⟨⟨id, isFrom⟩, -⟩ := importedOrder_ok taken
  exact ⟨⟨id, isFrom.order_id⟩, isFrom.isOn named⟩

/-- An order that is neither on the venue nor under an import id of it outlasts its listing. -/
theorem get?_of_foreign_listing {order : Order} (stored : ledger.get? order.id = some order)
    (elsewhere : Symbol.isOn order.symbol venue = false)
    (notImport : ∀ id, order.id ≠ .imported venue id) (now : Instant) :
    (alignWithListing policy now venue rows ledger).1.get? order.id = some order := by
  have untaken : ((takenOver now venue (ledger.unknownRows venue rows)).find? fun taken =>
      taken.id = order.id) = none := by
    rw [List.find?_eq_none]
    intro taken member sameId
    obtain ⟨id, takenId⟩ := id_of_taken member
    exact notImport id ((of_decide_eq_true sameId).symm.trans takenId)
  rw [get?_alignWithListing, untaken, stored]
  refine congrArg some (Order.settled_of_not_missing policy now ?_)
  intro missing
  have here := missing.2.1
  rw [elsewhere] at here
  cases here

/-- An order that is not on the venue outlasts its listing as it is. -/
theorem get?_of_listing_elsewhere (stays : ledger.ImportsStay venue) {order : Order}
    (stored : ledger.get? order.id = some order)
    (elsewhere : Symbol.isOn order.symbol venue = false) (now : Instant) :
    (alignWithListing policy now venue rows ledger).1.get? order.id = some order := by
  refine get?_of_foreign_listing stored elsewhere (fun id orderId => ?_) now
  have here := stays.of_get? (orderId ▸ stored)
  rw [elsewhere] at here
  cases here

end Listing

/-! ## Answers -/

/-- A name without the points and colons that set names apart in symbols and in imported ids. -/
def IsUnpunctuated (name : String) : Prop :=
  '.' ∉ name.toList ∧ ':' ∉ name.toList

instance (name : String) : Decidable (IsUnpunctuated name) :=
  inferInstanceAs (Decidable (_ ∧ _))

section Answer

variable {policy : AbsencePolicy} {venue other : String} {ledger : Ledger}

theorem onVenue_of_other_answer (plain : IsUnpunctuated venue) (stays : ledger.ImportsStay venue)
    (now : Instant) (answer : ListingAnswer) (apart : Text.sameLetters venue other = false) :
    (applyListing policy now venue answer ledger).1.onVenue other = ledger.onVenue other := by
  cases answer with
  | error fault => cases fault <;> rfl
  | ok rows => exact onVenue_of_other_listing plain.1 stays now apart

theorem importsStay_of_other_answer (plain : IsUnpunctuated venue)
    (otherPlain : IsUnpunctuated other) (different : other ≠ venue)
    (stays : ledger.ImportsStay other) (now : Instant) (answer : ListingAnswer) :
    (applyListing policy now venue answer ledger).1.ImportsStay other := by
  cases answer with
  | error fault => cases fault <;> exact stays
  | ok rows => exact importsStay_of_other_listing plain.2 otherPlain.2 different stays now

theorem onVenue_of_own_answer {first second : Ledger} (plain : IsUnpunctuated venue)
    (same : first.onVenue venue = second.onVenue venue) (firstStays : first.ImportsStay venue)
    (secondStays : second.ImportsStay venue) (now : Instant) (answer : ListingAnswer) :
    (applyListing policy now venue answer first).1.onVenue venue =
      (applyListing policy now venue answer second).1.onVenue venue := by
  cases answer with
  | error fault => cases fault <;> exact same
  | ok rows => exact onVenue_of_own_listing plain.1 same firstStays secondStays now

theorem get?_of_answer_elsewhere (stays : ledger.ImportsStay venue) {order : Order}
    (stored : ledger.get? order.id = some order)
    (elsewhere : Symbol.isOn order.symbol venue = false) (now : Instant) (answer : ListingAnswer) :
    (applyListing policy now venue answer ledger).1.get? order.id = some order := by
  cases answer with
  | error fault => cases fault <;> exact stored
  | ok rows => exact get?_of_listing_elsewhere stays stored elsewhere now

end Answer

/-- Answers of different venues, to whom the imported orders of the ledger keep. -/
structure AnswersApart (answers : List (String × ListingAnswer)) (ledger : Ledger) : Prop where
  plain : ∀ entry ∈ answers, IsUnpunctuated entry.1
  stay : ∀ entry ∈ answers, ledger.ImportsStay entry.1
  apart : answers.Pairwise fun first second => Text.sameLetters second.1 first.1 = false

section Answers

variable {policy : AbsencePolicy} {entry : String × ListingAnswer}
  {answers : List (String × ListingAnswer)} {ledger : Ledger}

theorem AnswersApart.tail (fit : AnswersApart (entry :: answers) ledger) (now : Instant) :
    AnswersApart answers (applyListing policy now entry.1 entry.2 ledger).1 := by
  have head : entry ∈ entry :: answers := List.mem_cons_self
  obtain ⟨headApart, restApart⟩ := List.pairwise_cons.mp fit.apart
  refine ⟨fun later member => fit.plain later (List.mem_cons_of_mem entry member), ?_, restApart⟩
  intro later member
  have inAll := List.mem_cons_of_mem entry member
  have different : later.1 ≠ entry.1 := by
    intro same
    have laterApart := headApart later member
    rw [same, Text.sameLetters_refl] at laterApart
    cases laterApart
  exact importsStay_of_other_answer (fit.plain entry head) (fit.plain later inAll) different
    (fit.stay later inAll) now entry.2

/-- Answers of some venues leave the orders of any other venue as they are. -/
theorem onVenue_of_other_answers (fit : AnswersApart answers ledger) (now : Instant)
    {other : String} (apart : ∀ entry ∈ answers, Text.sameLetters entry.1 other = false) :
    (applyAnswers policy now answers ledger).1.onVenue other = ledger.onVenue other := by
  induction answers generalizing ledger with
  | nil => rfl
  | cons entry rest inductionHypothesis =>
      have head : entry ∈ entry :: rest := List.mem_cons_self
      refine (inductionHypothesis (fit.tail now)
        fun later member => apart later (List.mem_cons_of_mem entry member)).trans ?_
      exact onVenue_of_other_answer (fit.plain entry head) (fit.stay entry head) now entry.2
        (apart entry head)

/-- The orders of a venue end up as its own answer alone would have left them. -/
theorem onVenue_of_answers (fit : AnswersApart answers ledger) (now : Instant) {venue : String}
    {answer : ListingAnswer} (met : (venue, answer) ∈ answers) :
    (applyAnswers policy now answers ledger).1.onVenue venue =
      (applyListing policy now venue answer ledger).1.onVenue venue := by
  induction answers generalizing ledger with
  | nil => cases met
  | cons entry rest inductionHypothesis =>
      have head : entry ∈ entry :: rest := List.mem_cons_self
      obtain ⟨headApart, -⟩ := List.pairwise_cons.mp fit.apart
      rcases List.mem_cons.mp met with rfl | later
      · exact onVenue_of_other_answers (fit.tail now) now headApart
      · have before : (applyListing policy now entry.1 entry.2 ledger).1.onVenue venue =
            ledger.onVenue venue := by
          refine onVenue_of_other_answer (fit.plain entry head) (fit.stay entry head) now entry.2 ?_
          rw [Bool.eq_false_iff]
          intro same
          have apart := headApart (venue, answer) later
          rw [Text.sameLetters_symm same] at apart
          cases apart
        refine (inductionHypothesis (fit.tail now) later).trans ?_
        exact onVenue_of_own_answer (fit.plain (venue, answer) met) before
          ((fit.tail now).stay (venue, answer) later) (fit.stay (venue, answer) met) now answer

/-- An order on none of the venues outlasts their answers as it is. -/
theorem get?_of_answers_elsewhere (fit : AnswersApart answers ledger) (now : Instant)
    {order : Order} (stored : ledger.get? order.id = some order)
    (elsewhere : ∀ entry ∈ answers, Symbol.isOn order.symbol entry.1 = false) :
    (applyAnswers policy now answers ledger).1.get? order.id = some order := by
  induction answers generalizing ledger with
  | nil => exact stored
  | cons entry rest inductionHypothesis =>
      have head : entry ∈ entry :: rest := List.mem_cons_self
      exact inductionHypothesis (fit.tail now)
        (get?_of_answer_elsewhere (fit.stay entry head) stored (elsewhere entry head) now entry.2)
        fun later member => elsewhere later (List.mem_cons_of_mem entry member)

end Answers

end OrderKeeper
