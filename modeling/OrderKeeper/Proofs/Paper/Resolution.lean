import OrderKeeper.Proofs.Paper.Listings
import OrderKeeper.Proofs.Reconcile.Territory

/-!
Contract: the venue of an order, wherever the core looks for it.

Owns: the names that accepted settings configure, the one key of a directory on which a symbol
lies, what that means for the listings of all venues, when an order that is placed counts for its
venue, and the main statement: the broker, the directory and the passes agree on the venue of every
order.

Accepted settings may have names with blanks around them.  The broker and the venue keep such
blanks and the key of the directory does not, so a pass over the venue does not count the orders
that were placed on it.  A name with a point is the suffix of no symbol, so a pass over its venue
does not count what an earlier one imported.
-/

set_option autoImplicit false

namespace OrderKeeper

/-! ## Configured names -/

/-- Settings that are accepted name no blank venue. -/
theorem Settings.nonblank_of_parse {text : String} {settings : Settings}
    (accepted : Settings.parse text = .ok settings) :
    ∀ name ∈ settings.paperVenues, Text.trim name ≠ "" := by
  unfold parse at accepted
  split at accepted
  · rename_i read _
    have sameSettings : read = settings ∧
        (read.paperVenues.any fun name => (Text.trim name).isEmpty) = false := by
      unfold checked at accepted
      dsimp only at accepted
      split at accepted
      · cases accepted
      split at accepted
      · cases accepted
      split at accepted
      · cases accepted
      split at accepted
      · cases accepted
      · rename_i noneBlank
        exact ⟨Except.ok.inj accepted, Bool.eq_false_iff.mpr noneBlank⟩
    obtain ⟨rfl, noneBlank⟩ := sameSettings
    intro name member blank
    have isBlank := List.any_eq_false.mp noneBlank name member
    rw [blank] at isBlank
    exact isBlank rfl
  · cases accepted

/-! ## The key of a symbol -/

/-- A symbol lies on one key of a directory, and on no other. -/
def VenueDirectory.IsSoleVenueOf {World : Type} (directory : VenueDirectory World)
    (key symbol : String) : Prop :=
  key ∈ directory.keys ∧
    ∀ other ∈ directory.keys, Symbol.isOn symbol other = true ↔ other = key

namespace PaperMarket

variable {configured : List String} {label symbol suffix : String}

theorem upper_of_key (trimmed : AreTrimmed configured) {key : String}
    (isKey : key ∈ (directory configured).keys) : Text.upper key = key :=
  (label_of_trimmed trimmed ((mem_keys_directory trimmed key).mp isKey)).1

/-- A symbol whose suffix names a venue lies on that venue only. -/
theorem isSoleVenueOf_suffix (trimmed : AreTrimmed configured)
    (isName : label ∈ venueNames configured) (named : Symbol.venue? symbol = some suffix)
    (sameLabel : Text.upper suffix = label) :
    (directory configured).IsSoleVenueOf label symbol := by
  refine ⟨(mem_keys_directory trimmed label).mpr isName, fun other isKey => ?_⟩
  unfold Symbol.isOn
  rw [named]
  dsimp only
  rw [Text.sameLetters_iff, sameLabel, upper_of_key trimmed isKey]
  exact eq_comm

/-- An imported order lies on the venue that it was imported from, and on no other, if the name
of that venue has no point. -/
theorem isSoleVenueOf_import (trimmed : AreTrimmed configured) {key : String}
    (isKey : key ∈ (directory configured).keys) (nonempty : key ≠ "") (noPoint : '.' ∉ key.toList)
    {now : Instant} {row : ListedOrder} {order : Order}
    (taken : importedOrder now key row = .ok order) :
    (directory configured).IsSoleVenueOf key order.symbol := by
  obtain ⟨⟨id, isFrom⟩, -⟩ := importedOrder_ok taken
  obtain ⟨symbol, -, isComposite⟩ := isFrom.symbol
  refine ⟨isKey, fun other isOther => ?_⟩
  rw [isComposite]
  constructor
  · intro onOther
    exact (Text.eq_of_sameLetters (upper_of_key trimmed isKey) (upper_of_key trimmed isOther)
      (Symbol.sameLetters_of_isOn_composite noPoint onOther)).symm
  · rintro rfl
    exact Symbol.isOn_composite symbol ⟨nonempty, noPoint⟩

section Placed

variable {ids : Nat → OrderId} {now : Instant} {ticket : OrderTicket}
  {before after : State PaperMarket} {order : Order}

/-- A receipt is for an order that was accepted. -/
theorem exists_accepted {receipt : Receipt}
    (placed : (broker ids configured).place now ticket before = (.ok receipt, after)) :
    ∃ (label : String) (order : Order), receipt = ⟨order.id, order.venueOrderId⟩ ∧
      Accepts ids configured now ticket before after label order := by
  obtain ⟨cause, refused⟩ | ⟨label, order, _, answered, accepts⟩ :=
    refused_or_accepted ids configured now ticket before
  · cases refused.symm.trans placed
  · obtain ⟨sameReceipt, rfl⟩ := Prod.mk.inj (answered.symm.trans placed)
    exact ⟨label, order, (Except.ok.inj sameReceipt).symm, accepts⟩

/-- The venue of an accepted order lists its row. -/
theorem Accepts.listed (accepts : Accepts ids configured now ticket before after label order) :
    order.paperRow ∈ (after.world.venueAt label).listing := by
  rw [mem_listing_iff]
  exact ⟨_, (accepts.rowAt? _).trans (if_pos accepts.bookPlace)⟩

/-- An accepted order counts in a pass over its venue exactly if there are no blanks around the
name of the venue. -/
theorem Accepts.isOn_venueKey_iff
    (accepts : Accepts ids configured now ticket before after label order) :
    Symbol.isOn order.symbol (venueKey label) = true ↔ Text.trim label = label := by
  obtain ⟨suffix, named, sameLabel⟩ := accepts.named
  have upperLabel : Text.upper label = label := by
    rw [← sameLabel, Text.upper_upper]
  have isKey : venueKey label = Text.trim label := by
    unfold venueKey
    rw [← Text.trim_upper, upperLabel]
  have upperKey : Text.upper (Text.trim label) = Text.trim label := by
    rw [← Text.trim_upper, upperLabel]
  unfold Symbol.isOn
  rw [accepts.symbol, named, isKey]
  dsimp only
  rw [Text.sameLetters_iff, sameLabel, upperKey]
  exact eq_comm

end Placed

end PaperMarket

/-! ## Listings -/

/-- What one venue for an order means for the listings of all venues.  The order is among those
of one venue.  The listing of that venue brings nothing in for the row of the order: under the
id of such an import lies what lay there, closed if it is missing.  The listing of any other
venue leaves the order as it is. -/
structure Ledger.CountsOnce {World : Type} (directory : VenueDirectory World) (ledger : Ledger)
    (key : String) (order : Order) : Prop where
  counted : ∀ other ∈ directory.keys, order ∈ ledger.onVenue other ↔ other = key
  notImported : ∀ id, order.venueOrderId = some id → ∀ policy now rows,
    (alignWithListing policy now key rows ledger).1.get? (.imported key id) =
      (ledger.get? (.imported key id)).map (Order.settled policy now key rows)
  notClosed : ∀ other ∈ directory.keys, other ≠ key → (∀ id, order.id ≠ .imported other id) →
    ∀ policy now rows,
      (alignWithListing policy now other rows ledger).1.get? order.id = some order

theorem VenueDirectory.IsSoleVenueOf.countsOnce {World : Type} {directory : VenueDirectory World}
    {key : String} {order : Order} (sole : directory.IsSoleVenueOf key order.symbol)
    {ledger : Ledger} (stored : order ∈ ledger.orders) : ledger.CountsOnce directory key order := by
  obtain ⟨isKey, onlyThere⟩ := sole
  constructor
  · intro other isOther
    rw [Ledger.mem_onVenue, and_iff_right stored]
    exact onlyThere other isOther
  · intro id ownId policy now rows
    have here := (ledger.mem_onVenue key order).mpr ⟨stored, (onlyThere key isKey).mpr rfl⟩
    exact get?_of_carried_id ⟨order, here, ownId⟩ policy now rows
  · intro other isOther different notImport policy now rows
    have elsewhere : Symbol.isOn order.symbol other = false := by
      rw [Bool.eq_false_iff]
      exact fun onOther => different ((onlyThere other isOther).mp onOther)
    exact get?_of_foreign_listing (Ledger.get?_of_mem stored) elsewhere notImport now

/-! ## Agreement -/

/-- Whatever names a core on paper venues has configured: an order that it places has its row on the
venue of the suffix of its symbol, and counts in a pass over that venue exactly if there are no
blanks around the name of the venue. -/
theorem PaperCore.placed_counts_iff {settings : Settings} {ids : Nat → OrderId} {now : Instant}
    {ticket : OrderTicket} {state after : State PaperMarket} {receipt : Receipt}
    (placed : (PaperCore.create ids settings).broker.place now ticket state =
      (.ok receipt, after)) :
    ∃ (order : Order) (label : String), receipt = ⟨order.id, order.venueOrderId⟩ ∧
      order.symbol = ticket.symbol ∧
      (Symbol.venue? order.symbol).map Text.upper = some label ∧
      order.paperRow ∈ (after.world.venueAt label).listing ∧
      venueKey label ∈ (PaperCore.create ids settings).directory.keys ∧
      ∀ (ledger : Ledger) (kept : Order), kept ∈ ledger.orders → kept.symbol = order.symbol →
        (kept ∈ ledger.onVenue (venueKey label) ↔ Text.trim label = label) := by
  obtain ⟨label, order, sameReceipt, accepts⟩ := PaperMarket.exists_accepted placed
  obtain ⟨suffix, named, sameLabel⟩ := accepts.named
  refine ⟨order, label, sameReceipt, accepts.symbol, ?_, accepts.listed,
    PaperMarket.venueKey_mem_keys accepts.isConfigured, fun ledger kept stored keptSymbol => ?_⟩
  · rw [accepts.symbol, named, ← sameLabel]
    rfl
  · rw [Ledger.mem_onVenue, and_iff_right stored, keptSymbol]
    exact accepts.isOn_venueKey_iff

/-- A core on paper venues with accepted settings, whose names have no blanks around them.  The
row of an accepted order is entered on the venue that the directory has for the suffix of its
symbol, on no other, and the order counts as that venue's from then on.  An order that is
imported from a venue counts as that venue's, if the name of the venue has no point. -/
theorem PaperCore.venues_resolve_alike {text : String} {settings : Settings}
    (accepted : Settings.parse text = .ok settings)
    (trimmed : PaperMarket.AreTrimmed settings.paperVenues) (ids : Nat → OrderId) :
    let core := PaperCore.create ids settings
    (∀ now ticket state receipt after,
      core.broker.place now ticket state = (.ok receipt, after) →
      ∃ order suffix label,
        receipt = ⟨order.id, order.venueOrderId⟩ ∧ order.symbol = ticket.symbol ∧
        after.ledger = (state.ledger.write now order).1 ∧
        Symbol.venue? order.symbol = some suffix ∧ Text.upper suffix = label ∧
        label ∈ core.directory.keys ∧
        (∀ capability, core.directory.gatewayFor suffix capability =
          .ok (PaperMarket.slot label).gateway) ∧
        order.paperRow ∈ (after.world.venueAt label).listing ∧
        (∀ other, other ≠ label → after.world.venueAt other = state.world.venueAt other) ∧
        ∀ (ledger : Ledger) (kept : Order), kept ∈ ledger.orders →
          kept.symbol = order.symbol → ledger.CountsOnce core.directory label kept) ∧
    ∀ key ∈ core.directory.keys, '.' ∉ key.toList → ∀ now row order,
      importedOrder now key row = .ok order →
      ∀ (ledger : Ledger) (kept : Order), kept ∈ ledger.orders →
        kept.symbol = order.symbol → ledger.CountsOnce core.directory key kept := by
  intro core
  constructor
  · intro now ticket state receipt after placed
    obtain ⟨label, order, sameReceipt, accepts⟩ := PaperMarket.exists_accepted placed
    obtain ⟨suffix, named, sameLabel⟩ := accepts.named
    rw [← accepts.symbol] at named
    have sole := PaperMarket.isSoleVenueOf_suffix trimmed accepts.isConfigured named sameLabel
    refine ⟨order, suffix, label, sameReceipt, accepts.symbol, accepts.ledger, named, sameLabel,
      sole.1, PaperMarket.gatewayFor_directory trimmed accepts.isConfigured sameLabel,
      accepts.listed, fun other different => ?_, fun ledger kept stored keptSymbol => ?_⟩
    · rw [accepts.venues, if_neg different]
    · rw [← keptSymbol] at sole
      exact sole.countsOnce stored
  · intro key isKey noPoint now row order taken ledger kept stored keptSymbol
    have nonempty : key ≠ "" := by
      obtain ⟨name, isConfigured, rfl⟩ :=
        List.mem_map.mp ((PaperMarket.mem_keys_directory trimmed key).mp isKey)
      have nonblank := Settings.nonblank_of_parse accepted name isConfigured
      rw [trimmed name isConfigured] at nonblank
      exact fun empty => nonblank (Text.upper_eq_empty_iff.mp empty)
    have sole := PaperMarket.isSoleVenueOf_import trimmed isKey nonempty noPoint taken
    rw [← keptSymbol] at sole
    exact sole.countsOnce stored

/-- On one of two venues an order is placed, from the other one an order is imported. -/
theorem placed_and_imported_resolve_alike :
    let text := "\x7b\"paper_venues\":[\"paper\",\"Cash\"]\x7d"
    let settings := { Settings.default with paperVenues := ["paper", "Cash"] }
    let ids := PaperCore.numberedId "order"
    let core := PaperCore.create ids settings
    let placed := core.broker.place ⟨0, 0⟩ (.limit "entry" "BTC.Paper" .buy .one .one) core.state
    let row := { (default : ListedOrder) with orderId := some "x1", symbol := some "ETH" }
    Settings.parse text = .ok settings ∧ PaperMarket.AreTrimmed settings.paperVenues ∧
      (∃ order, placed.2.ledger.orders = [order] ∧
        order.paperRow ∈ (placed.2.world.venueAt "PAPER").listing ∧
        placed.2.ledger.CountsOnce core.directory "PAPER" order) ∧
      ∃ order, importedOrder ⟨0, 0⟩ "CASH" row = .ok order ∧
        (Ledger.empty.write ⟨0, 0⟩ order).1.CountsOnce core.directory "CASH" order := by
  intro text settings ids core placed row
  have accepted : Settings.parse text = .ok settings := by decide +kernel
  have trimmed : PaperMarket.AreTrimmed settings.paperVenues := by decide
  obtain ⟨placements, imports⟩ := PaperCore.venues_resolve_alike accepted trimmed ids
  refine ⟨accepted, trimmed, ?_, ?_⟩
  · have answered : placed = (.ok ⟨⟨"order:1"⟩, some "PAPER-1"⟩, placed.2) :=
      Prod.ext (by decide +kernel) rfl
    obtain ⟨order, suffix, label, -, symbol, written, named, isLabel, -, -, listed, -, counts⟩ :=
      placements _ _ _ _ _ answered
    have isPaper : label = "PAPER" := by
      rw [symbol] at named
      rw [← isLabel, ← Option.some.inj named]
      decide
    have orders : placed.2.ledger.orders = [{ order with updatedAt := ⟨0, 0⟩ }] := by
      rw [written]
      exact (Ledger.write_of_absent ⟨0, 0⟩ rfl).1
    rw [isPaper] at listed counts
    exact ⟨_, orders, listed, counts _ _ (orders ▸ List.mem_singleton_self _) rfl⟩
  · obtain ⟨order, taken⟩ : ∃ order, importedOrder ⟨0, 0⟩ "CASH" row = .ok order := ⟨_, rfl⟩
    have isKey : "CASH" ∈ core.directory.keys :=
      (PaperMarket.mem_keys_directory trimmed "CASH").mpr (by decide)
    have orders : (Ledger.empty.write ⟨0, 0⟩ order).1.orders = [order] := by
      refine (Ledger.write_of_absent ⟨0, 0⟩ rfl).1.trans ?_
      rw [stamped_of_imported taken]
      rfl
    exact ⟨order, taken, imports "CASH" isKey (by decide) _ row order taken _ order
      (orders ▸ List.mem_singleton_self order) rfl⟩

/-- A venue name with a blank before it: the order that is placed on the venue does not count in
a pass over it, and comes in a second time. -/
theorem order_on_blank_name_imported :
    let text := "\x7b\"paper_venues\":[\" PAPER\"]\x7d"
    let settings := { Settings.default with paperVenues := [" PAPER"] }
    let core := PaperCore.create (PaperCore.numberedId "order") settings
    let placed := (core.place ⟨0, 0⟩ (.limit "entry" "BTC. PAPER" .buy .one .one)).1
    let pass := placed.reconcile ⟨1, 0⟩
    Settings.parse text = .ok settings ∧ core.directory.keys = ["PAPER"] ∧
      placed.state.ledger.orders.map Order.symbol = ["BTC. PAPER"] ∧
      placed.state.ledger.onVenue "PAPER" = [] ∧ pass.2.imported = 1 ∧
      pass.1.state.ledger.orders.map Order.symbol = ["BTC. PAPER", "BTC.PAPER"] := by
  intro text settings core placed pass
  have keys : core.directory.keys = ["PAPER"] := by
    have key : venueKey " PAPER" = "PAPER" := by decide
    have oneKey : core.directory.keys =
        [venueKey " PAPER"].mergeSort fun a b => decide (a ≤ b) := by
      rfl
    rw [oneKey, List.mergeSort_singleton, key]
  have visited : reconcileAll core.directory .assumeFilled ⟨1, 0⟩ placed.state =
      visitRound core.directory .assumeFilled ⟨1, 0⟩ (placed.state, .empty) "PAPER" := by
    rw [reconcileAll_eq_foldl, keys]
    rfl
  have isPass : pass = ({ placed with state := _, counters := _ }, _) :=
    placed.reconcile_eq ⟨1, 0⟩
  have sameDirectory : placed.directory = core.directory := rfl
  rw [isPass, sameDirectory]
  refine ⟨by decide +kernel, keys, by decide, by decide, ?_, ?_⟩
  · refine (congrArg (fun pass => pass.2.imported) visited).trans ?_
    decide +kernel
  · refine (congrArg (fun pass => pass.1.ledger.orders.map Order.symbol) visited).trans ?_
    decide +kernel

end OrderKeeper
