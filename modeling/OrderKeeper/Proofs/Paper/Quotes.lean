import OrderKeeper.Paper.Core
import OrderKeeper.Proofs.Order.Symbol
import OrderKeeper.Proofs.Paper.Accepted
import OrderKeeper.Proofs.Paper.Directory
import OrderKeeper.Proofs.Trailing.Breakdown

/-!
Contract: the price that a trail gets from a paper venue.

Owns: the answers of a venue of which one price was set, the steps that leave such answers as they
are, the looks of a tick at the trails on a venue, and the symbols whose price a trail gets.

Does not own: what a trail makes of a price.

A venue keeps a price under the base of the symbol that it was set for.  A tick asks for the base of
a trail's symbol, and of that the venue takes the base once more.  So a ticker with a point of its
own is asked for by less than its name.
-/

set_option autoImplicit false

namespace OrderKeeper

/-! ## Symbols -/

namespace Symbol

/-- Two symbols have one ticker, up to case. -/
def SameTicker (symbol other : String) : Prop :=
  Text.sameLetters (base symbol) (base other) = true

/-- A price that was set for a symbol is found for a trail on another one. -/
def Supplies (symbol other : String) : Prop :=
  Text.sameLetters (base symbol) (base (base other)) = true

instance (symbol other : String) : Decidable (SameTicker symbol other) :=
  inferInstanceAs (Decidable (_ = true))

instance (symbol other : String) : Decidable (Supplies symbol other) :=
  inferInstanceAs (Decidable (_ = true))

/-- From a ticker without points the second cut takes nothing. -/
theorem supplies_iff_sameTicker {other : String} (plain : '.' ∉ (base other).toList)
    (symbol : String) : Supplies symbol other ↔ SameTicker symbol other := by
  unfold Supplies SameTicker
  rw [base_of_no_point plain]

/-- From a ticker with points it takes too much for the ticker to be found. -/
theorem not_supplies_and_sameTicker {other : String} (pointed : '.' ∈ (base other).toList)
    (symbol : String) : ¬(Supplies symbol other ∧ SameTicker symbol other) := by
  rintro ⟨supplies, same⟩
  have whole := Text.sameLetters_trans (Text.sameLetters_symm same) supplies
  rw [not_sameLetters_base pointed] at whole
  cases whole

end Symbol

/-! ## Answers -/

/-- A venue of which one price was set has it for the symbols of that ticker and no other. -/
theorem PaperExchange.answerPrice_of_one_quote {venue : PaperExchange} {name symbol : String}
    {price : Decimal} (reachable : venue.failing = false)
    (only : venue.prices = ((PaperExchange.create name).quote symbol price).prices)
    (other : String) :
    venue.answerPrice other =
      .ok (if Symbol.SameTicker symbol other then some price else none) := by
  unfold answerPrice
  rw [if_neg (reachable ▸ Bool.false_ne_true), lastQuote?, only]
  refine congrArg Except.ok ?_
  refine (Dictionary.get?_insert .empty (priceKey symbol) (priceKey other) price).trans ?_
  refine if_congr ?_ rfl rfl
  exact eq_comm.trans (Text.sameLetters_iff _ _).symm

theorem PaperExchange.answerPrice_listOrder (venue : PaperExchange) (row : ListedOrder) :
    (venue.listOrder row).answerPrice = venue.answerPrice := by
  unfold listOrder
  split <;> rfl

section Directory

variable {World : Type} {directory : VenueDirectory World} {slot : PaperSlot World}
  {venue symbol : String}

/-- A trail gets the price that its venue answers with. -/
theorem usablePrice?_of_answer
    (registered : directory.gatewayFor venue .lastPrice = .ok slot.gateway)
    (onVenue : Symbol.isOn symbol venue = true) {world : World} {found : Option Decimal}
    (answered : (slot.read world).answerPrice (Symbol.base symbol) = .ok found)
    (positive : ∀ price ∈ found, Decimal.zero < price) :
    (usablePrice? directory symbol world).1 = found := by
  obtain ⟨own, named, same⟩ := Symbol.isOn_iff.mp onVenue
  have asked : slot.gateway.lastPrice (Symbol.base symbol) world = (.ok found, world) :=
    Prod.ext answered rfl
  unfold usablePrice?
  rw [named, Option.getD_some, VenueDirectory.gatewayFor_of_sameLetters same registered]
  dsimp only
  rw [asked]
  cases found with
  | none => rfl
  | some price => exact if_pos (positive price rfl)

end Directory

/-! ## Looks -/

/-- The venue at a place answers questions for prices as before. -/
def PaperSlot.QuotesAlike {World : Type} (slot : PaperSlot World) (before after : World) : Prop :=
  (slot.read after).answerPrice = (slot.read before).answerPrice

/-- Neither a question for a price nor a placement, wherever it goes, changes what the venue at a
place answers to questions for prices. -/
structure LeavesQuotes {World : Type} (directory : VenueDirectory World) (broker : Broker World)
    (slot : PaperSlot World) : Prop where
  asked : ∀ {name : String} {gateway : VenueGateway World},
    directory.gatewayFor name .lastPrice = .ok gateway →
      ∀ symbol world, slot.QuotesAlike world (gateway.lastPrice symbol world).2
  placed : ∀ now ticket state, slot.QuotesAlike state.world (broker.place now ticket state).2.world

section Tick

variable {World : Type} {directory : VenueDirectory World} {broker : Broker World}
  {slot : PaperSlot World} {venue : String}

theorem LeavesQuotes.asking (leaves : LeavesQuotes directory broker slot) (symbol : String)
    (world : World) :
    slot.QuotesAlike world (usablePrice? directory symbol world).2 := by
  unfold usablePrice?
  split
  · rfl
  · rename_i gateway reached
    have asked := leaves.asked reached (Symbol.base symbol) world
    split
    · rename_i answered
      rwa [answered] at asked
    · rename_i answered
      rwa [answered] at asked

theorem LeavesQuotes.ticking (leaves : LeavesQuotes directory broker slot) (now : Instant)
    (id : String) (book : TrailBook) (state : State World) :
    slot.QuotesAlike state.world
      (tickTrail directory broker now id book state).2.1.world := by
  unfold tickTrail
  cases book.get? id with
  | none => rfl
  | some trail =>
      have asked := leaves.asking trail.symbol state.world
      dsimp only
      rcases answer : usablePrice? directory trail.symbol state.world with
        ⟨price, world⟩
      rw [answer] at asked
      cases price with
      | none => exact asked
      | some price =>
          dsimp only
          split
          · exact asked
          · exact asked
          · exact (leaves.placed now _ _).trans asked
          · exact asked

/-- At the turn of each trail its venue answers as it did when the tick began. -/
theorem price?_of_mem_looks (leaves : LeavesQuotes directory broker slot)
    (registered : directory.gatewayFor venue .lastPrice = .ok slot.gateway)
    {answers : String → Option Decimal}
    (positive : ∀ ticker, ∀ price ∈ answers ticker, Decimal.zero < price) (now : Instant)
    (entries : List (String × Trail)) {book : TrailBook} {state : State World}
    (answered : ∀ ticker, (slot.read state.world).answerPrice ticker = .ok (answers ticker)) :
    ∀ look ∈ looks directory broker now entries book state,
      Symbol.isOn look.trail.symbol venue = true →
        look.price? = answers (Symbol.base look.trail.symbol) := by
  induction entries generalizing book state with
  | nil => exact fun _ member => absurd member List.not_mem_nil
  | cons entry rest inductionHypothesis =>
      obtain ⟨id, trail⟩ := entry
      have alike := leaves.ticking now id book state
      intro look member onVenue
      unfold looks at member
      rcases List.mem_cons.mp member with rfl | later
      · exact usablePrice?_of_answer registered onVenue (answered _) (positive _)
      · -- The step before left the answers as they were, so the rest is asked in the same way.
        refine inductionHypothesis (fun ticker => ?_) look later onVenue
        exact (congrFun alike ticker).trans (answered ticker)

/-- A tick looks at a trail with a price or without one, and leaves of the trail what that makes of
it, if it gets to the end.  A trail without a price stays as it is even if the tick does not. -/
structure TickGives (directory : VenueDirectory World) (broker : Broker World) (now : Instant)
    (book : TrailBook) (state : State World) (id : String) (trail : Trail)
    (price? : Option Decimal) : Prop where
  looked : ⟨id, trail, price?⟩ ∈ book.looks directory broker now state
  completed : (tickOnce directory broker now book state).failure? = none →
    (tickOnce directory broker now book state).book.get? id = (Look.mk id trail price?).after
  unpriced : price? = none → (tickOnce directory broker now book state).book.get? id = some trail

theorem TickGives.of_look {now : Instant} {book : TrailBook} {state : State World} {id : String}
    {trail : Trail} {price? : Option Decimal}
    (looked : ⟨id, trail, price?⟩ ∈ book.looks directory broker now state) :
    TickGives directory broker now book state id trail price? := by
  have held : ∀ entry ∈ book.trails.entries, book.get? entry.1 = some entry.2 :=
    fun entry member => (Dictionary.get?_eq_some_iff _ _ _).mpr member
  obtain ⟨-, treated, left, split, covers⟩ :=
    tickTrails_covers directory broker now book.trails.keys_nodup held state
  have parts : ⟨id, trail, price?⟩ ∈ treated ++ left := split ▸ looked
  refine ⟨looked, fun completes => ?_, fun noPrice => ?_⟩
  · rw [covers.left_eq_nil completes, List.append_nil] at parts
    exact (covers.whole _ parts).2
  · have stays : (Look.mk id trail price?).after = some trail := by
      rw [noPrice]
      rfl
    -- Treated, broken at or not got to: the trail is the same in each case.
    rcases List.mem_append.mp parts with early | late
    · exact (covers.whole _ early).2.trans stays
    · cases left with
      | nil => cases late
      | cons first rest =>
          rcases List.mem_cons.mp late with rfl | behind
          · exact (covers.broken _ rfl).2.trans stays
          · exact covers.untouched _ behind

/-- Each active trail gets a look. -/
theorem exists_look {book : TrailBook} {id : String} {trail : Trail}
    (active : book.get? id = some trail) (directory : VenueDirectory World) (broker : Broker World)
    (now : Instant) (state : State World) :
    ∃ price?, (⟨id, trail, price?⟩ : Look) ∈ book.looks directory broker now state := by
  have entry : (id, trail) ∈ book.trails.entries := (Dictionary.get?_eq_some_iff _ _ _).mp active
  rw [← looks_entries directory broker now book.trails.entries book state] at entry
  obtain ⟨look, member, same⟩ := List.mem_map.mp entry
  obtain ⟨rfl, rfl⟩ := Prod.mk.inj same
  exact ⟨look.price?, member⟩

end Tick

/-- On paper venues a tick changes no price. -/
theorem PaperMarket.leavesQuotes (ids : Nat → OrderId) (configured : List String) (label : String) :
    LeavesQuotes (directory configured) (broker ids configured).toBroker (slot label) where
  asked reached symbol market := by
    obtain ⟨other, -, rfl⟩ := gateway_of_directory reached
    rfl
  placed now ticket state := by
    show ((((broker ids configured).place now ticket state).2.world).venueAt label).answerPrice =
      (state.world.venueAt label).answerPrice
    rcases refused_or_accepted ids configured now ticket state with
      ⟨cause, refused⟩ | ⟨other, order, after, accepted, accepts⟩
    · rw [refused]
    · rw [accepted, accepts.venues]
      by_cases here : label = other
      · rw [if_pos here, here, PaperExchange.answerPrice_listOrder]
        rfl
      · rw [if_neg here]

/-! ## Main statement -/

/-- One price has been set on a venue, that of a symbol.

A tick gives it to the trails on the venue that the symbol supplies, and to the others no price.  For
a trail whose ticker has no point these are those of the symbol's ticker.  For a trail whose ticker
has one they never are: it does not get the price of its own ticker, and a price that it gets is
that of another one. -/
theorem tick_gives_quote_of_supplier {World : Type} {directory : VenueDirectory World}
    {broker : Broker World} {slot : PaperSlot World} {venue : String}
    (registered : directory.gatewayFor venue .lastPrice = .ok slot.gateway)
    (leaves : LeavesQuotes directory broker slot) {state : State World}
    (reachable : (slot.read state.world).failing = false) {symbol : String} {price : Decimal}
    (positive : Decimal.zero < price)
    (only : (slot.read state.world).prices =
      ((PaperExchange.create venue).quote symbol price).prices)
    (now : Instant) {book : TrailBook} {id : String} {trail : Trail}
    (active : book.get? id = some trail) (onVenue : Symbol.isOn trail.symbol venue = true) :
    TickGives directory broker now book state id trail
        (if Symbol.Supplies symbol trail.symbol then some price else none) ∧
      ('.' ∉ (Symbol.base trail.symbol).toList →
        (Symbol.Supplies symbol trail.symbol ↔ Symbol.SameTicker symbol trail.symbol)) ∧
      ('.' ∈ (Symbol.base trail.symbol).toList →
        ¬(Symbol.Supplies symbol trail.symbol ∧ Symbol.SameTicker symbol trail.symbol)) := by
  refine ⟨?_, fun plain => Symbol.supplies_iff_sameTicker plain symbol,
    fun pointed => Symbol.not_supplies_and_sameTicker pointed symbol⟩
  obtain ⟨price?, looked⟩ := exists_look active directory broker now state
  have answered := PaperExchange.answerPrice_of_one_quote reachable only
  have isPositive : ∀ ticker, ∀ found ∈ if Symbol.SameTicker symbol ticker then some price else none,
      Decimal.zero < found := by
    intro ticker found isFound
    split at isFound
    · exact Option.some.inj isFound ▸ positive
    · cases isFound
  have priced : price? = if Symbol.Supplies symbol trail.symbol then some price else none :=
    price?_of_mem_looks leaves registered isPositive now book.trails.entries answered _ looked
      onVenue
  exact priced ▸ TickGives.of_look looked

/-- Trails on two tickers without points, and a price that was set for one of them. -/
theorem plain_ticker_gets_its_quote :
    let tenth : Decimal := ⟨false, 1, 1, by decide, by decide⟩
    let hundred : Decimal := ⟨false, 100, 0, by decide, by decide⟩
    let core := PaperCore.create (PaperCore.numberedId "order") .default
    let state : State PaperMarket :=
      ⟨.empty, PaperCore.seedPrices [("btc.paper", hundred)] core.state.world⟩
    let trailOn (id symbol : String) :=
      Trail.create ⟨0, 0⟩ id symbol .sell (.percent tenth) .one none
    ∃ first second,
      TrailBook.empty.add ⟨0, 0⟩ "BTC.PAPER" .sell (some tenth) none .one none = .ok first ∧
      first.1.add ⟨0, 0⟩ "ETH.PAPER" .sell (some tenth) none .one none = .ok second ∧
      TickGives core.directory core.broker ⟨1, 0⟩ second.1 state first.2
        (trailOn first.2 "BTC.PAPER") (some hundred) ∧
      TickGives core.directory core.broker ⟨1, 0⟩ second.1 state second.2
        (trailOn second.2 "ETH.PAPER") none := by
  intro tenth hundred core state trailOn
  have accepted : TrailOffset.ofParameters (some tenth) none = .ok (.percent tenth) := by
    decide +kernel
  have registered : core.directory.gatewayFor "PAPER" .lastPrice =
      .ok (PaperMarket.slot "PAPER").gateway := rfl
  have leaves : LeavesQuotes core.directory core.broker (PaperMarket.slot "PAPER") :=
    PaperMarket.leavesQuotes _ _ _
  have only : ((PaperMarket.slot "PAPER").read state.world).prices =
      ((PaperExchange.create "PAPER").quote "btc.paper" hundred).prices := rfl
  have gives {book : TrailBook} {id : String} {trail : Trail}
      (active : book.get? id = some trail) (onVenue : Symbol.isOn trail.symbol "PAPER" = true) :=
    (tick_gives_quote_of_supplier registered leaves rfl (by decide) only ⟨1, 0⟩ active onVenue).1
  have supplied : (if Symbol.Supplies "btc.paper" "BTC.PAPER" then some hundred else none) =
      some hundred := if_pos (by decide)
  have notSupplied : (if Symbol.Supplies "btc.paper" "ETH.PAPER" then some hundred else none) =
      none := if_neg (by decide)
  refine ⟨_, _, TrailBook.add_of_accepted accepted (by decide) .empty _ _ _ _,
    TrailBook.add_of_accepted accepted (by decide) _ _ _ _ _, ?_, ?_⟩
  · rw [← supplied]
    exact gives (by decide +kernel) (by decide)
  · rw [← notSupplied]
    exact gives (by decide +kernel) (by decide)

/-- A ticker with a point of its own. -/
theorem pointed_ticker_gets_other_quote :
    let tenth : Decimal := ⟨false, 1, 1, by decide, by decide⟩
    let hundred : Decimal := ⟨false, 100, 0, by decide, by decide⟩
    let core := PaperCore.create (PaperCore.numberedId "order") .default
    let quoting (symbol : String) : State PaperMarket :=
      ⟨.empty, PaperCore.seedPrices [(symbol, hundred)] core.state.world⟩
    ∃ added,
      TrailBook.empty.add ⟨0, 0⟩ "BTC.B.PAPER" .sell (some tenth) none .one none = .ok added ∧
      let given (symbol : String) := tickOnce core.directory core.broker ⟨1, 0⟩ added.1
        (quoting symbol)
      let reference (symbol : String) := ((given symbol).book.get? added.2).map Trail.reference
      Symbol.SameTicker "BTC.B.PAPER" "BTC.B.PAPER" ∧
        (given "BTC.B.PAPER").summary.skipped = 1 ∧ reference "BTC.B.PAPER" = some none ∧
      ¬Symbol.SameTicker "BTC.PAPER" "BTC.B.PAPER" ∧
        (given "BTC.PAPER").summary.observed = 1 ∧ reference "BTC.PAPER" = some (some hundred) := by
  intro tenth hundred core quoting
  have accepted : TrailOffset.ofParameters (some tenth) none = .ok (.percent tenth) := by
    decide +kernel
  refine ⟨_, TrailBook.add_of_accepted accepted (by decide) .empty _ _ _ _, ?_⟩
  exact ⟨by decide +kernel, by decide +kernel, by decide +kernel, by decide +kernel,
    by decide +kernel, by decide +kernel⟩

end OrderKeeper
