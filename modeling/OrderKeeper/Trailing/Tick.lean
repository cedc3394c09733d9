import OrderKeeper.Trailing.Book
import OrderKeeper.Venue.Broker
import OrderKeeper.Venue.Directory

/-!
Contract: one look at every trail.

Owns: the price that a trail is fed, the protective order that a triggered trail fires,
what a tick did with each trail, and the tick over all trails in the order of their ids.

A tick stops at a trail whose arithmetic has no result; what it did before stands.
-/

set_option autoImplicit false

namespace OrderKeeper

/-- The tag of protective orders. -/
def trailTag (id : String) : String := "trail:" ++ id

/-- The order that a triggered trail fires. -/
def Trail.protectiveOrder (trail : Trail) (stop : Decimal) : OrderTicket :=
  { OrderTicket.stopMarket (trailTag trail.id) trail.symbol trail.closingSide
      trail.quantity stop with
    strategyId := trail.linkedOrder.map OrderId.text }

/-- What a tick did with one trail. -/
inductive TrailOutcome where
  /-- The trail left the set while its price was fetched. -/
  | gone
  | unpriced
  | observed (reaction : TrailReaction)
  /-- The trail triggered and its order was submitted. -/
  | fired (symbol : String) (stop : Decimal) (answer : Except Refusal Receipt)
  /-- The reaction had no result. -/
  | broken (cause : ArithmeticError)

structure TickSummary where
  observed : Nat
  skipped : Nat
  ratcheted : Nat
  triggered : Nat
  placementFailures : Nat
deriving DecidableEq, Repr

namespace TickSummary

def empty : TickSummary := ⟨0, 0, 0, 0, 0⟩

def add (summary : TickSummary) : TrailOutcome → TickSummary
  | .gone => summary
  | .unpriced => { summary with skipped := summary.skipped + 1 }
  | .observed (.ratcheted _ _) =>
      { summary with observed := summary.observed + 1, ratcheted := summary.ratcheted + 1 }
  | .observed _ => { summary with observed := summary.observed + 1 }
  | .fired _ _ (.ok _) =>
      { summary with observed := summary.observed + 1, triggered := summary.triggered + 1 }
  | .fired _ _ (.error _) =>
      { summary with
        observed := summary.observed + 1
        triggered := summary.triggered + 1
        placementFailures := summary.placementFailures + 1 }
  | .broken _ => summary

def ofOutcomes (outcomes : List TrailOutcome) : TickSummary :=
  outcomes.foldl add empty

end TickSummary

variable {World : Type}

/-- A positive price of a symbol from the venue that it names. -/
def usablePrice? (directory : VenueDirectory World) (symbol : String) (world : World) :
    Option Decimal × World :=
  match directory.gatewayFor ((Symbol.venue? symbol).getD "") .lastPrice with
  | .error _ => (none, world)
  | .ok gateway =>
      match gateway.lastPrice (Symbol.base symbol) world with
      | (.ok (some price), world) =>
          (if Decimal.zero < price then some price else none, world)
      | (_, world) => (none, world)

/-- Looks at one trail of a tick. -/
def tickTrail (directory : VenueDirectory World) (broker : Broker World) (now : Instant)
    (id : String) (book : TrailBook) (state : State World) :
    TrailBook × State World × TrailOutcome :=
  match book.get? id with
  | none => (book, state, .gone)
  | some trail =>
      match usablePrice? directory trail.symbol state.world with
      | (none, world) => (book, { state with world }, .unpriced)
      | (some price, world) =>
          let state := { state with world }
          match book.feed id price with
          | none => (book, state, .gone)
          | some (book, .error cause) => (book, state, .broken cause)
          | some (book, .ok (.triggered stop, some trail)) =>
              let (answer, state) := broker.place now (trail.protectiveOrder stop) state
              (book, state, .fired trail.symbol stop answer)
          | some (book, .ok (reaction, _)) => (book, state, .observed reaction)

/-- What a tick left behind. -/
structure TickResult (World : Type) where
  book : TrailBook
  state : State World
  outcomes : List TrailOutcome

/-- Looks at trails in turn until one breaks. -/
def tickTrails (directory : VenueDirectory World) (broker : Broker World) (now : Instant) :
    List String → TrailBook → State World → TickResult World
  | [], book, state => { book, state, outcomes := [] }
  | id :: rest, book, state =>
      match tickTrail directory broker now id book state with
      | (book, state, .broken cause) => { book, state, outcomes := [.broken cause] }
      | (book, state, outcome) =>
          let result := tickTrails directory broker now rest book state
          { result with outcomes := outcome :: result.outcomes }

/-- One look at every trail, in the order of their ids. -/
def tickOnce (directory : VenueDirectory World) (broker : Broker World) (now : Instant)
    (book : TrailBook) (state : State World) : TickResult World :=
  tickTrails directory broker now book.trails.keys book state

namespace TickResult

/-- The cause for which the tick stopped early. -/
def failure? (result : TickResult World) : Option ArithmeticError :=
  result.outcomes.findSome? fun
    | .broken cause => some cause
    | _ => none

def summary (result : TickResult World) : TickSummary :=
  .ofOutcomes result.outcomes

end TickResult

end OrderKeeper
