import OrderKeeper.Proofs.Reconcile.Territory
import OrderKeeper.Proofs.Venue.Directory

/-!
Contract: two passes that differ at some venues only.

Owns: the answers of a directory as answers of different venues, and the main statement.

A pass visits one venue after the other, and each visit works on the ledger that the earlier
ones left.  The orders of a venue come out as its own answer alone would have left them, so
whatever happens at the other venues cannot reach them.
-/

set_option autoImplicit false

namespace OrderKeeper

variable {World OtherWorld : Type}

/-- The answers that the venues of a directory give are answers of different venues. -/
theorem answersApart_of_registrations {registrations : List (String × VenueGateway World)}
    (plain : ∀ key ∈ (VenueDirectory.ofRegistrations registrations).keys, IsUnpunctuated key)
    {ledger : Ledger}
    (importsStay : ∀ key ∈ (VenueDirectory.ofRegistrations registrations).keys,
      ledger.ImportsStay key) (world : World) :
    AnswersApart ((VenueDirectory.ofRegistrations registrations).answers world) ledger := by
  let directory := VenueDirectory.ofRegistrations registrations
  have venues : (directory.answers world).map Prod.fst = directory.keys :=
    directory.answersOf_venues directory.keys world
  have keyOf : ∀ entry ∈ directory.answers world, entry.1 ∈ directory.keys :=
    fun entry member => venues ▸ List.mem_map_of_mem member
  refine ⟨fun entry member => plain entry.1 (keyOf entry member),
    fun entry member => importsStay entry.1 (keyOf entry member), ?_⟩
  have keysApart := VenueDirectory.keys_apart
    (VenueDirectory.upper_key_of_registrations registrations)
  rw [← venues] at keysApart
  exact List.pairwise_map.mp keysApart

/-- Every venue of a directory has one answer in a pass. -/
theorem exists_answer (directory : VenueDirectory World) {key : String}
    (member : key ∈ directory.keys) (world : World) :
    ∃ answer, (directory.answers world).lookup key = some answer := by
  rw [← Option.isSome_iff_exists, List.lookup_isSome_iff]
  rw [← directory.answersOf_venues directory.keys world] at member
  obtain ⟨entry, met, rfl⟩ := List.mem_map.mp member
  exact ⟨entry, met, beq_self_eq_true entry.1⟩

theorem mem_of_lookup {answers : List (String × ListingAnswer)} {venue : String}
    {answer : ListingAnswer} (met : answers.lookup venue = some answer) :
    (venue, answer) ∈ answers := by
  obtain ⟨before, after, parts, -⟩ := List.lookup_eq_some_iff.mp met
  rw [parts]
  exact List.mem_append_right before List.mem_cons_self

/-- Two passes over the same ledger leave the same orders on every venue that answers them
alike, whatever the other venues do.  A venue that fails or cannot list keeps its orders as they
were, and so does every order on no venue of the directory.  The names of a directory are its keys,
under which the venues are entered, so the condition is on these. -/
theorem reconcileAll_isolates_venues (registrations : List (String × VenueGateway World))
    (others : List (String × VenueGateway OtherWorld))
    (plain : ∀ key ∈ (VenueDirectory.ofRegistrations registrations).keys, IsUnpunctuated key)
    (otherPlain : ∀ key ∈ (VenueDirectory.ofRegistrations others).keys, IsUnpunctuated key)
    (ledger : Ledger)
    (importsStay : ∀ key ∈ (VenueDirectory.ofRegistrations registrations).keys,
      ledger.ImportsStay key)
    (otherImportsStay : ∀ key ∈ (VenueDirectory.ofRegistrations others).keys,
      ledger.ImportsStay key)
    (policy : AbsencePolicy) (now : Instant) (world : World) (otherWorld : OtherWorld) :
    let directory := VenueDirectory.ofRegistrations registrations
    let otherDirectory := VenueDirectory.ofRegistrations others
    let after := (reconcileAll directory policy now { ledger, world }).1.ledger
    let otherAfter :=
      (reconcileAll otherDirectory policy now { ledger, world := otherWorld }).1.ledger
    (∀ key ∈ directory.keys,
      (directory.answers world).lookup key = (otherDirectory.answers otherWorld).lookup key →
      after.onVenue key = otherAfter.onVenue key) ∧
    (∀ key fault, (directory.answers world).lookup key = some (.error fault) →
      after.onVenue key = ledger.onVenue key) ∧
    ∀ order ∈ ledger.orders, (∀ key ∈ directory.keys, Symbol.isOn order.symbol key = false) →
      after.get? order.id = some order := by
  intro directory otherDirectory after otherAfter
  have fit := answersApart_of_registrations plain importsStay world
  have otherFit := answersApart_of_registrations otherPlain otherImportsStay otherWorld
  have afterIs : after = (applyAnswers policy now (directory.answers world) ledger).1 :=
    (reconcileAll_eq directory policy now { ledger, world }).1
  have otherAfterIs : otherAfter =
      (applyAnswers policy now (otherDirectory.answers otherWorld) ledger).1 :=
    (reconcileAll_eq otherDirectory policy now { ledger, world := otherWorld }).1
  rw [afterIs, otherAfterIs]
  refine ⟨?_, ?_, ?_⟩
  · intro key member alike
    obtain ⟨answer, met⟩ := exists_answer directory member world
    rw [onVenue_of_answers fit now (mem_of_lookup met),
      onVenue_of_answers otherFit now (mem_of_lookup (alike.symm.trans met))]
  · intro key fault met
    rw [onVenue_of_answers fit now (mem_of_lookup met)]
    cases fault <;> rfl
  · intro order member elsewhere
    refine get?_of_answers_elsewhere fit now (Ledger.get?_of_mem member) fun entry met => ?_
    refine elsewhere entry.1 ?_
    rw [← directory.answersOf_venues directory.keys world]
    exact List.mem_map_of_mem met

/-- Two venues in the order of a pass. -/
theorem keys_of_pair (other paper : VenueGateway World) :
    (VenueDirectory.ofRegistrations [("other", other), ("paper", paper)]).keys =
      ["OTHER", "PAPER"] := by
  have otherKey : venueKey "other" = "OTHER" := by decide
  have paperKey : venueKey "paper" = "PAPER" := by decide
  have names : (VenueDirectory.ofRegistrations
      [("other", other), ("paper", paper)]).venues.map VenueEntry.key = ["OTHER", "PAPER"] := by
    simp [VenueDirectory.ofRegistrations, VenueDirectory.insert, VenueDirectory.empty, otherKey,
      paperKey]
  rw [VenueDirectory.keys, names]
  exact List.mergeSort_of_pairwise (by decide)

/-- One venue lists a new row and no longer lists an open order, in both passes.  The other one
has lost an order in the first pass and is out of reach in the second. -/
theorem paper_orders_isolated :
    let row := { (default : ListedOrder) with orderId := some "x1", symbol := some "BTC" }
    let paper : VenueGateway Unit :=
      { capabilities := .all, listOpenOrders := fun world => (.ok [row], world) }
    let bare : VenueGateway Unit :=
      { capabilities := .all, listOpenOrders := fun world => (.ok [], world) }
    let down : VenueGateway Unit :=
      { capabilities := .all, listOpenOrders := fun world => (.error (.network "down"), world) }
    let lost := { Order.create ⟨0, 0⟩ (.imported "PAPER" "x0") importTag "BTC.PAPER" .buy .limit
      .one with venueOrderId := some "x0" }
    let elsewhere := Order.create ⟨0, 0⟩ ⟨"e"⟩ "key" "BTC.OTHER" .buy .limit .one
    let ledger := ((Ledger.empty.write ⟨0, 0⟩ lost).1.write ⟨0, 0⟩ elsewhere).1
    let directory := VenueDirectory.ofRegistrations [("other", bare), ("paper", paper)]
    let otherDirectory := VenueDirectory.ofRegistrations [("other", down), ("paper", paper)]
    let after := (reconcileAll directory .assumeFilled ⟨1, 0⟩ { ledger, world := () }).1.ledger
    let otherAfter :=
      (reconcileAll otherDirectory .assumeFilled ⟨1, 0⟩ { ledger, world := () }).1.ledger
    (∀ key ∈ directory.keys, ledger.ImportsStay key) ∧
      (∀ key ∈ otherDirectory.keys, ledger.ImportsStay key) ∧
      after.onVenue "PAPER" = otherAfter.onVenue "PAPER" ∧
      after.onVenue "PAPER" ≠ ledger.onVenue "PAPER" ∧
      otherAfter.onVenue "OTHER" = ledger.onVenue "OTHER" ∧
      after.onVenue "OTHER" ≠ ledger.onVenue "OTHER" := by
  intro row paper bare down lost elsewhere ledger directory otherDirectory after otherAfter
  have bareKeys : directory.keys = ["OTHER", "PAPER"] := keys_of_pair bare paper
  have downKeys : otherDirectory.keys = ["OTHER", "PAPER"] := keys_of_pair down paper
  have stays : ∀ key ∈ ["OTHER", "PAPER"], ledger.ImportsStay key := by
    intro key member order stored id sameId
    have noColon : ∀ key ∈ ["OTHER", "PAPER"], ':' ∉ key.toList := by decide
    have orders : ledger.orders = [lost, elsewhere] := by decide
    rw [orders, List.mem_cons, List.mem_singleton] at stored
    rcases stored with rfl | rfl
    · rw [← OrderId.venue_of_imported (noColon "PAPER" (by decide)) (noColon key member) sameId]
      decide
    · have letters := congrArg (fun id => id.text.toList) sameId
      simp [elsewhere, Order.create, OrderId.imported] at letters
  have bareStays : ∀ key ∈ directory.keys, ledger.ImportsStay key := bareKeys ▸ stays
  have downStays : ∀ key ∈ otherDirectory.keys, ledger.ImportsStay key := downKeys ▸ stays
  have plain : ∀ key ∈ ["OTHER", "PAPER"], IsUnpunctuated key := by decide
  have barePlain : ∀ key ∈ directory.keys, IsUnpunctuated key := bareKeys ▸ plain
  have downPlain : ∀ key ∈ otherDirectory.keys, IsUnpunctuated key := downKeys ▸ plain
  have isolated := reconcileAll_isolates_venues _ _ barePlain downPlain ledger bareStays downStays
    .assumeFilled ⟨1, 0⟩ () ()
  have swapped := reconcileAll_isolates_venues _ _ downPlain barePlain ledger downStays bareStays
    .assumeFilled ⟨1, 0⟩ () ()
  refine ⟨bareStays, downStays, ?_, ?_, ?_, ?_⟩
  · refine isolated.1 "PAPER" (bareKeys ▸ by decide) ?_
    unfold VenueDirectory.answers
    rw [bareKeys, downKeys]
    decide +kernel
  · show (reconcileAll directory .assumeFilled ⟨1, 0⟩ { ledger, world := () }).1.ledger.onVenue
      "PAPER" ≠ ledger.onVenue "PAPER"
    unfold reconcileAll
    rw [bareKeys]
    decide +kernel
  · refine swapped.2.1 "OTHER" (.network "down") ?_
    unfold VenueDirectory.answers
    rw [downKeys]
    decide +kernel
  · show (reconcileAll directory .assumeFilled ⟨1, 0⟩ { ledger, world := () }).1.ledger.onVenue
      "OTHER" ≠ ledger.onVenue "OTHER"
    unfold reconcileAll
    rw [bareKeys]
    decide +kernel

end OrderKeeper
