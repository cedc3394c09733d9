import OrderKeeper.Proofs.Ledger.Evolution
import OrderKeeper.Proofs.Reconcile.Accounting

/-!
Contract: what a ledger gains at one venue.

Owns: the whereabouts of orders, which closes leave alone, and growth by a log of orders
imported from a venue, with its composition and what it keeps.

Does not own: the runs that make a ledger grow.
-/

set_option autoImplicit false

namespace OrderKeeper

open Ledger (Evolves)

/-! ## Whereabouts -/

/-- What identifies an order at its venue, which no close and no listing changes. -/
structure Whereabouts where
  id : OrderId
  symbol : String
  venueOrderId : Option String

def Order.whereabouts (order : Order) : Whereabouts :=
  ⟨order.id, order.symbol, order.venueOrderId⟩

namespace Ledger

def whereabouts (ledger : Ledger) : List Whereabouts :=
  ledger.orders.map Order.whereabouts

theorem mem_whereabouts (ledger : Ledger) (place : Whereabouts) :
    place ∈ ledger.whereabouts ↔ ∃ order ∈ ledger.orders, order.whereabouts = place :=
  List.mem_map

theorem whereabouts_mem {ledger : Ledger} {order : Order} (member : order ∈ ledger.orders) :
    order.whereabouts ∈ ledger.whereabouts :=
  List.mem_map_of_mem member

/-- An order on the venue that stands where an earlier one stood was on the venue before. -/
theorem onVenue_of_whereabouts {ledger : Ledger} {venue : String} {order : Order}
    (place : order.whereabouts ∈ ledger.whereabouts)
    (here : Symbol.isOn order.symbol venue = true) :
    ∃ old ∈ ledger.onVenue venue, old.id = order.id ∧ old.venueOrderId = order.venueOrderId := by
  obtain ⟨old, stored, samePlace⟩ := (ledger.mem_whereabouts order.whereabouts).mp place
  have sameSymbol : old.symbol = order.symbol := congrArg Whereabouts.symbol samePlace
  refine ⟨old, (ledger.mem_onVenue venue old).mpr ⟨stored, ?_⟩, congrArg Whereabouts.id samePlace,
    congrArg Whereabouts.venueOrderId samePlace⟩
  rw [sameSymbol]
  exact here

theorem carries_iff (ledger : Ledger) (venue id : String) :
    ledger.Carries venue id ↔
      ∃ place ∈ ledger.whereabouts,
        Symbol.isOn place.symbol venue = true ∧ place.venueOrderId = some id := by
  constructor
  · rintro ⟨order, member, ownId⟩
    obtain ⟨stored, here⟩ := (ledger.mem_onVenue venue order).mp member
    exact ⟨order.whereabouts, whereabouts_mem stored, here, ownId⟩
  · rintro ⟨place, member, here, ownId⟩
    obtain ⟨order, stored, rfl⟩ := (ledger.mem_whereabouts place).mp member
    exact ⟨order, (ledger.mem_onVenue venue order).mpr ⟨stored, here⟩, ownId⟩

theorem importsKept_iff (ledger : Ledger) (venue : String) :
    ledger.ImportsKept venue ↔
      ∀ place ∈ ledger.whereabouts, ∀ id, place.id = .imported venue id →
        Symbol.isOn place.symbol venue = true ∧ place.venueOrderId = some id := by
  constructor
  · intro kept place member id placeId
    obtain ⟨order, stored, rfl⟩ := (ledger.mem_whereabouts place).mp member
    exact kept order stored id placeId
  · intro kept order stored id orderId
    exact kept order.whereabouts (whereabouts_mem stored) id orderId

/-- A close leaves every order where it is. -/
theorem whereabouts_of_evolves {before after : Ledger}
    (evolves : Evolves LedgerCall.IsClose before after) : after.whereabouts = before.whereabouts := by
  refine evolves.keeps (fun ledger => ledger.whereabouts = before.whereabouts) ?_ rfl
  intro ledger call isClose same
  cases call with
  | write _ _ => cases isClose
  | joinGroup _ _ _ => cases isClose
  | close now id status =>
      refine Eq.trans ?_ same
      show (ledger.close now id status).1.orders.map Order.whereabouts = _
      rw [close_orders, List.map_map]
      refine List.map_congr_left fun order _ => ?_
      rw [Function.comp_apply]
      by_cases here : order.id = id
      · rw [if_pos here]
        simp [Order.whereabouts]
      · rw [if_neg here]

end Ledger

/-! ## Growth -/

/-- The later ledger has every order of the earlier one where it was.  Beside them it has the
orders of a log, which are different orders of the venue that the earlier ledger did not
carry. -/
structure Ledger.GrowsBy (venue : String) (before after : Ledger) (log : List Order) : Prop where
  whereabouts : after.whereabouts = before.whereabouts ++ log.map Order.whereabouts
  imported : ∀ order ∈ log, ∃ id, order.id = .imported venue id ∧
    Symbol.isOn order.symbol venue = true ∧ order.venueOrderId = some id ∧
    ¬before.Carries venue id
  venueOrderIds_nodup : (log.map Order.venueOrderId).Nodup

namespace Ledger.GrowsBy

variable {venue : String} {before middle after : Ledger} {log laterLog : List Order}

theorem of_same_whereabouts (same : after.whereabouts = before.whereabouts) :
    GrowsBy venue before after (before.arrivals after) := by
  have noArrivals : before.arrivals after = [] := by
    apply arrivals_of_append (List.append_nil after.orders).symm
    · intro order member absent
      have place : order.whereabouts ∈ before.whereabouts := same ▸ whereabouts_mem member
      obtain ⟨old, oldMember, oldPlace⟩ := (before.mem_whereabouts order.whereabouts).mp place
      have sameId : old.id = order.id := congrArg Whereabouts.id oldPlace
      exact (before.get?_eq_none_iff order.id).mp absent old oldMember sameId
    · intro order member
      cases member
  rw [noArrivals]
  refine ⟨?_, ?_, List.nodup_nil⟩
  · rw [same]
    exact (List.append_nil before.whereabouts).symm
  · intro order member
    cases member

theorem of_listing (named : Symbol.IsVenueName venue) (importsKept : before.ImportsKept venue)
    (policy : AbsencePolicy) (now : Instant) (rows : List ListedOrder) :
    let after := (alignWithListing policy now venue rows before).1
    GrowsBy venue before after (before.arrivals after) := by
  intro after
  obtain ⟨perm, orders, -, -⟩ := alignWithListing_orders importsKept policy now rows
  have imported : ∀ order ∈ before.arrivals after, ∃ id, order.id = .imported venue id ∧
      Symbol.isOn order.symbol venue = true ∧ order.venueOrderId = some id ∧
      ¬before.Carries venue id := by
    intro order member
    obtain ⟨row, -, id, -, isFrom, notCarried⟩ := row_of_taken (perm.mem_iff.mp member)
    exact ⟨id, isFrom.order_id, isFrom.isOn named, isFrom.venue_order_id, notCarried⟩
  refine ⟨?_, imported, ?_⟩
  · have settledPlaces : (before.orders.map (Order.settled policy now venue rows)).map
        Order.whereabouts = before.whereabouts := by
      rw [List.map_map]
      refine List.map_congr_left fun order _ => ?_
      simp [Order.whereabouts]
    show (alignWithListing policy now venue rows before).1.orders.map Order.whereabouts = _
    rw [orders, List.map_append, settledPlaces]
  · have idsDistinct : ((before.arrivals after).map Order.id).Nodup :=
      after.distinct_ids.sublist (List.filter_sublist.map Order.id)
    refine List.Nodup.map_on (fun first firstArrived second secondArrived same => ?_)
      (List.Nodup.of_map Order.id idsDistinct)
    obtain ⟨firstId, firstOrderId, -, firstVenueId, -⟩ := imported first firstArrived
    obtain ⟨secondId, secondOrderId, -, secondVenueId, -⟩ := imported second secondArrived
    rw [firstVenueId, secondVenueId, Option.some.injEq] at same
    refine List.inj_on_of_nodup_map idsDistinct firstArrived secondArrived ?_
    rw [firstOrderId, secondOrderId, same]

/-- Imported orders keep to their venue, here and wherever imported ids differ from those of
this venue. -/
theorem importsKept (grows : GrowsBy venue before after log) {other : String}
    (sameVenue : ∀ id otherId,
      OrderId.imported venue id = OrderId.imported other otherId → venue = other)
    (kept : before.ImportsKept other) : after.ImportsKept other := by
  rw [importsKept_iff] at kept ⊢
  intro place member id placeId
  rw [grows.whereabouts] at member
  rcases List.mem_append.mp member with old | new
  · exact kept place old id placeId
  · obtain ⟨order, logged, rfl⟩ := List.mem_map.mp new
    obtain ⟨ownId, orderId, here, orderVenueId, -⟩ := grows.imported order logged
    have sameImport := orderId.symm.trans placeId
    obtain rfl := sameVenue ownId id sameImport
    exact ⟨here, OrderId.imported_inj.mp sameImport ▸ orderVenueId⟩

/-- What was carried stays so, and what comes in is carried from then on. -/
theorem carries_iff (grows : GrowsBy venue before after log) (id : String) :
    after.Carries venue id ↔
      before.Carries venue id ∨ ∃ order ∈ log, order.venueOrderId = some id := by
  rw [Ledger.carries_iff, Ledger.carries_iff, grows.whereabouts]
  constructor
  · rintro ⟨place, member, here, ownId⟩
    rcases List.mem_append.mp member with old | new
    · exact Or.inl ⟨place, old, here, ownId⟩
    · obtain ⟨order, logged, rfl⟩ := List.mem_map.mp new
      exact Or.inr ⟨order, logged, ownId⟩
  · rintro (⟨place, member, here, ownId⟩ | ⟨order, logged, ownId⟩)
    · exact ⟨place, List.mem_append_left _ member, here, ownId⟩
    · obtain ⟨_, -, here, -, -⟩ := grows.imported order logged
      exact ⟨order.whereabouts, List.mem_append_right _ (List.mem_map_of_mem logged), here, ownId⟩

theorem trans (first : GrowsBy venue before middle log)
    (second : GrowsBy venue middle after laterLog) :
    GrowsBy venue before after (log ++ laterLog) := by
  refine ⟨?_, ?_, ?_⟩
  · rw [second.whereabouts, first.whereabouts, List.map_append, List.append_assoc]
  · intro order member
    rcases List.mem_append.mp member with early | late
    · exact first.imported order early
    · obtain ⟨id, orderId, here, ownId, notCarried⟩ := second.imported order late
      refine ⟨id, orderId, here, ownId, fun carried => ?_⟩
      exact notCarried ((first.carries_iff id).mpr (Or.inl carried))
  · rw [List.map_append, List.nodup_append]
    refine ⟨first.venueOrderIds_nodup, second.venueOrderIds_nodup, ?_⟩
    intro own early other late same
    obtain ⟨order, logged, rfl⟩ := List.mem_map.mp early
    obtain ⟨laterOrder, laterLogged, rfl⟩ := List.mem_map.mp late
    obtain ⟨id, -, -, ownId, notCarried⟩ := second.imported laterOrder laterLogged
    exact notCarried ((first.carries_iff id).mpr (Or.inr ⟨order, logged, same.trans ownId⟩))

/-- An order that came in has a venue order id that no order had at first. -/
theorem not_carried_of_logged (grows : GrowsBy venue before after log) {order : Order} {id : String}
    (logged : order ∈ log) (ownId : order.venueOrderId = some id) : ¬before.Carries venue id := by
  obtain ⟨other, -, -, otherId, notCarried⟩ := grows.imported order logged
  have sameId : other = id := Option.some.inj (otherId.symm.trans ownId)
  exact sameId ▸ notCarried

/-- Two orders of one venue order id were both there at first. -/
theorem duplicates_kept (grows : GrowsBy venue before after log) {first second : Order}
    (firstMember : first ∈ after.onVenue venue) (secondMember : second ∈ after.onVenue venue)
    (different : first.id ≠ second.id) {id : String} (firstId : first.venueOrderId = some id)
    (secondId : second.venueOrderId = some id) :
    first.whereabouts ∈ before.whereabouts ∧ second.whereabouts ∈ before.whereabouts := by
  have placed : ∀ order ∈ after.onVenue venue, order.venueOrderId = some id →
      (order.whereabouts ∈ before.whereabouts ∧ before.Carries venue id) ∨
        ∃ logged ∈ log, logged.whereabouts = order.whereabouts := by
    intro order member ownId
    obtain ⟨stored, here⟩ := (after.mem_onVenue venue order).mp member
    have place : order.whereabouts ∈ after.whereabouts := whereabouts_mem stored
    rw [grows.whereabouts] at place
    rcases List.mem_append.mp place with old | new
    · exact Or.inl ⟨old, (Ledger.carries_iff before venue id).mpr ⟨_, old, here, ownId⟩⟩
    · exact Or.inr (List.mem_map.mp new)
  rcases placed first firstMember firstId with ⟨firstOld, carried⟩ | ⟨logged, inLog, samePlace⟩
  · rcases placed second secondMember secondId with ⟨secondOld, -⟩ | ⟨logged, inLog, samePlace⟩
    · exact ⟨firstOld, secondOld⟩
    · have ownId := (congrArg Whereabouts.venueOrderId samePlace).trans secondId
      exact absurd carried (grows.not_carried_of_logged inLog ownId)
  · have ownId := (congrArg Whereabouts.venueOrderId samePlace).trans firstId
    rcases placed second secondMember secondId with ⟨-, carried⟩ | ⟨other, otherInLog, otherPlace⟩
    · exact absurd carried (grows.not_carried_of_logged inLog ownId)
    · have otherId := (congrArg Whereabouts.venueOrderId otherPlace).trans secondId
      have sameOrder : logged = other := List.inj_on_of_nodup_map grows.venueOrderIds_nodup
        inLog otherInLog (ownId.trans otherId.symm)
      have sameId : first.id = second.id :=
        (congrArg Whereabouts.id samePlace).symm.trans
          (sameOrder ▸ congrArg Whereabouts.id otherPlace)
      exact absurd sameId different

end Ledger.GrowsBy

end OrderKeeper
