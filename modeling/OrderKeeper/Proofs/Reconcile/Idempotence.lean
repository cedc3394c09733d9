import OrderKeeper.Proofs.Reconcile.Stability
import OrderKeeper.Proofs.Reconcile.Territory
import OrderKeeper.Proofs.Venue.Directory

/-!
Contract: a pass that meets the same answers again changes nothing.

Owns: the absorption of an answer by the ledger that it led to, its survival of the answers
of other venues, and the main statement.

Each venue's orders are out of reach of the other venues of a directory.  So the ledger at
the end of a pass is, venue by venue, the one that the venue's own listing left.
-/

set_option autoImplicit false

namespace OrderKeeper

variable {World : Type}

/-! ## Answers -/

/-- Any ledger with these orders on the venue stays as it is when the answer comes again. -/
def Ledger.Absorbs (policy : AbsencePolicy) (venue : String) (answer : ListingAnswer)
    (visit : VenueVisit) (ledger : Ledger) : Prop :=
  ∀ other : Ledger, other.onVenue venue = ledger.onVenue venue →
    ∀ later, applyListing policy later venue answer other = (other, visit.quiet)

section Answer

variable (policy : AbsencePolicy) {venue : String} {ledger : Ledger}

/-- The ledger that an answer led to absorbs it. -/
theorem absorbs_applyListing (named : Symbol.IsVenueName venue)
    (importsKept : ledger.ImportsKept venue) (now : Instant) (answer : ListingAnswer) :
    (applyListing policy now venue answer ledger).1.Absorbs policy venue answer
      (applyListing policy now venue answer ledger).2 := by
  intro other same later
  cases answer with
  | error fault => cases fault <;> rfl
  | ok rows =>
      have sameHere : other.onVenue venue =
          (alignWithListing policy now venue rows ledger).1.onVenue venue := same
      have aligned := (aligned_after_listing named importsKept now).congr sameHere
      have stays := alignWithListing_of_aligned aligned later
      rw [unknownRows_congr sameHere, unknownRows_after_listing named importsKept now] at stays
      obtain ⟨-, -, -, malformed⟩ := alignWithListing_orders importsKept policy now rows
      show ((alignWithListing policy later venue rows other).1,
        VenueVisit.checked (alignWithListing policy later venue rows other).2) = _
      rw [stays, ← malformed]
      rfl

theorem importsKept_of_answer (named : Symbol.IsVenueName venue)
    (importsKept : ledger.ImportsKept venue) (now : Instant) (answer : ListingAnswer)
    {other : String} (plain : ':' ∉ venue.toList) (otherPlain : ':' ∉ other.toList)
    (otherKept : ledger.ImportsKept other) :
    (applyListing policy now venue answer ledger).1.ImportsKept other := by
  cases answer with
  | error fault => cases fault <;> exact otherKept
  | ok rows =>
      exact (Ledger.GrowsBy.of_listing named importsKept policy now rows).importsKept
        (fun _ _ same => OrderId.venue_of_imported plain otherPlain same) otherKept

end Answer

/-! ## Passes -/

/-- A name that can be the venue of a symbol and that no imported id can hide. -/
def IsPlainVenueName (venue : String) : Prop :=
  Symbol.IsVenueName venue ∧ ':' ∉ venue.toList

/-- Answers of plainly named venues, to whom the imported orders of the ledger keep. -/
structure AnswersFit (answers : List (String × ListingAnswer)) (ledger : Ledger) : Prop where
  plain : ∀ entry ∈ answers, IsPlainVenueName entry.1
  imports_kept : ∀ entry ∈ answers, ledger.ImportsKept entry.1

section Answers

variable (policy : AbsencePolicy) {entry : String × ListingAnswer}
  {answers : List (String × ListingAnswer)} {ledger : Ledger}

theorem AnswersFit.tail (fit : AnswersFit (entry :: answers) ledger) (now : Instant) :
    AnswersFit answers (applyListing policy now entry.1 entry.2 ledger).1 := by
  have head : entry ∈ entry :: answers := List.mem_cons_self
  refine ⟨fun later member => fit.plain later (List.mem_cons_of_mem entry member), ?_⟩
  intro later member
  have inAll := List.mem_cons_of_mem entry member
  exact importsKept_of_answer policy (fit.plain entry head).1 (fit.imports_kept entry head) now entry.2
    (fit.plain entry head).2 (fit.plain later inAll).2 (fit.imports_kept later inAll)

theorem AnswersFit.keepApart (fit : AnswersFit answers ledger)
    (apart : answers.Pairwise fun first second => Text.sameLetters second.1 first.1 = false) :
    AnswersApart answers ledger where
  plain entry member := ⟨(fit.plain entry member).1.2, (fit.plain entry member).2⟩
  stay entry member := fun order stored id sameId =>
    (fit.imports_kept entry member order stored id sameId).1
  apart := apart

/-- A second round of the same answers changes nothing in a ledger that has, on each of their
venues, the orders that the first round left there. -/
theorem applyAnswers_again (fit : AnswersFit answers ledger)
    (apart : answers.Pairwise fun first second => Text.sameLetters second.1 first.1 = false)
    (now later : Instant) (other : Ledger)
    (same : ∀ entry ∈ answers,
      other.onVenue entry.1 = (applyAnswers policy now answers ledger).1.onVenue entry.1) :
    applyAnswers policy later answers other =
      (other,
        (applyAnswers policy now answers ledger).2.map (Prod.map id VenueVisit.quiet)) := by
  induction answers generalizing ledger with
  | nil => rfl
  | cons entry rest inductionHypothesis =>
      have head : entry ∈ entry :: rest := List.mem_cons_self
      obtain ⟨headApart, restApart⟩ := List.pairwise_cons.mp apart
      -- The later answers of the first round do not reach the orders of this venue.
      have sameHere : other.onVenue entry.1 =
          (applyListing policy now entry.1 entry.2 ledger).1.onVenue entry.1 :=
        (same entry head).trans
          (onVenue_of_other_answers ((fit.tail policy now).keepApart restApart) now headApart)
      have absorbed := absorbs_applyListing policy (fit.plain entry head).1
        (fit.imports_kept entry head) now entry.2 other sameHere later
      have restAgain := inductionHypothesis (fit.tail policy now) restApart
        fun laterEntry member => same laterEntry (List.mem_cons_of_mem entry member)
      show ((applyAnswers policy later rest (applyListing policy later entry.1 entry.2 other).1).1,
        (entry.1, (applyListing policy later entry.1 entry.2 other).2) ::
          (applyAnswers policy later rest
            (applyListing policy later entry.1 entry.2 other).1).2) = _
      rw [absorbed, restAgain]
      rfl

end Answers

/-- A second pass right after a first one, which meets the same answers, finds nothing to import
or to close, counts the venues as the first one did, and leaves the ledger exactly as it is.  The
names of a directory are its keys, under which the venues are entered, so the condition is on
these. -/
theorem reconcileAll_idempotent (registrations : List (String × VenueGateway World))
    (plain : ∀ key ∈ (VenueDirectory.ofRegistrations registrations).keys, IsPlainVenueName key)
    (policy : AbsencePolicy) (state : State World)
    (importsKept : ∀ key ∈ (VenueDirectory.ofRegistrations registrations).keys,
      state.ledger.ImportsKept key)
    (now later : Instant) (world : World)
    (sameAnswers : (VenueDirectory.ofRegistrations registrations).answers world =
      (VenueDirectory.ofRegistrations registrations).answers state.world) :
    let directory := VenueDirectory.ofRegistrations registrations
    let first := reconcileAll directory policy now state
    let second := reconcileAll directory policy later { first.1 with world }
    second.1.ledger = first.1.ledger ∧
      second.2 = { first.2 with imported := 0, closed := 0 } := by
  intro directory first second
  obtain ⟨firstLedger, firstSummary⟩ := reconcileAll_eq directory policy now state
  obtain ⟨secondLedger, secondSummary⟩ :=
    reconcileAll_eq directory policy later { first.1 with world }
  have venues : (directory.answers state.world).map Prod.fst = directory.keys :=
    directory.answersOf_venues directory.keys state.world
  have keyOf : ∀ entry ∈ directory.answers state.world, entry.1 ∈ directory.keys :=
    fun entry member => venues ▸ List.mem_map_of_mem member
  have fit : AnswersFit (directory.answers state.world) state.ledger :=
    ⟨fun entry member => plain entry.1 (keyOf entry member),
      fun entry member => importsKept entry.1 (keyOf entry member)⟩
  have apart : (directory.answers state.world).Pairwise fun one other =>
      Text.sameLetters other.1 one.1 = false := by
    have keysApart := VenueDirectory.keys_apart
      (VenueDirectory.upper_key_of_registrations registrations)
    rw [← venues] at keysApart
    exact List.pairwise_map.mp keysApart
  have again := applyAnswers_again policy fit apart now later first.1.ledger
    fun entry _ => congrArg (fun ledger => ledger.onVenue entry.1) firstLedger
  rw [sameAnswers] at secondLedger secondSummary
  rw [again] at secondLedger secondSummary
  refine ⟨secondLedger, secondSummary.trans ?_⟩
  rw [firstSummary]
  exact ReconcileSummary.addAll_quiet .empty _

/-- One venue lists a row that is new and no longer lists an open order of the ledger.  The first
pass imports and closes one order, the second none. -/
theorem second_paper_pass_quiet :
    let row := { (default : ListedOrder) with orderId := some "x1", symbol := some "BTC" }
    let gateway : VenueGateway Unit :=
      { capabilities := .all, listOpenOrders := fun world => (.ok [row], world) }
    let order := { Order.create ⟨0, 0⟩ (.imported "PAPER" "x0") importTag "BTC.PAPER" .buy .limit
      .one with venueOrderId := some "x0" }
    let state : State Unit := { ledger := (Ledger.empty.write ⟨0, 0⟩ order).1, world := () }
    let directory := VenueDirectory.ofRegistrations [("paper", gateway)]
    let first := reconcileAll directory .assumeFilled ⟨1, 0⟩ state
    let second := reconcileAll directory .assumeFilled ⟨2, 0⟩ { first.1 with world := () }
    (∀ key ∈ directory.keys, IsPlainVenueName key) ∧
      (∀ key ∈ directory.keys, state.ledger.ImportsKept key) ∧
      directory.answers () = directory.answers state.world ∧
      first.2.imported = 1 ∧ first.2.closed = 1 ∧ second.1.ledger = first.1.ledger ∧
      second.2 = { first.2 with imported := 0, closed := 0 } := by
  intro row gateway order state directory first second
  have keys : directory.keys = ["PAPER"] := by
    have names : directory.venues.map VenueEntry.key = ["PAPER"] := by decide
    rw [VenueDirectory.keys, names, List.mergeSort_singleton]
  have plain : ∀ key ∈ directory.keys, IsPlainVenueName key := by
    rw [keys]
    intro key member
    rw [List.mem_singleton.mp member]
    exact ⟨by decide, by decide⟩
  have importsKept : ∀ key ∈ directory.keys, state.ledger.ImportsKept key := by
    rw [keys]
    intro key member stored storedMember id sameId
    have isOrder : stored = order := List.mem_singleton.mp storedMember
    rw [List.mem_singleton.mp member, isOrder] at sameId ⊢
    have isFirst : "x0" = id := OrderId.imported_inj.mp sameId
    exact ⟨by decide, congrArg some isFirst⟩
  have counts : first.2.imported = 1 ∧ first.2.closed = 1 := by
    show (reconcileAll directory .assumeFilled ⟨1, 0⟩ state).2.imported = 1 ∧
      (reconcileAll directory .assumeFilled ⟨1, 0⟩ state).2.closed = 1
    unfold reconcileAll
    rw [keys]
    decide
  obtain ⟨sameLedger, quiet⟩ := reconcileAll_idempotent [("paper", gateway)] plain .assumeFilled
    state importsKept ⟨1, 0⟩ ⟨2, 0⟩ () rfl
  exact ⟨plain, importsKept, rfl, counts.1, counts.2, sameLedger, quiet⟩

end OrderKeeper
