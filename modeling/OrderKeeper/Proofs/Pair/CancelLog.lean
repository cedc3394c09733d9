import OrderKeeper.Pair.Watch
import OrderKeeper.Proofs.Keyed

/-!
Contract: venues that keep a log of the cancels they are asked for.

Owns: the log as a part of the world, the directory that writes it, and that a pass over
the pairs does with the log what it does without.

Does not own: what the log of a pass holds.
-/

set_option autoImplicit false

namespace OrderKeeper

variable {World : Type}

/-! ## Venues with a log -/

/-- What a venue answers when it is asked to cancel an order. -/
abbrev CancelAnswer := Except VenueFault Unit

/-- A request to cancel as the venue under a key receives it. -/
structure CancelRequest where
  venue : String
  venueOrderId : String
  symbol : String
deriving DecidableEq

/-- A world beside the requests that venues received, each with its answer. -/
abbrev LoggedWorld (World : Type) := World × List (CancelRequest × CancelAnswer)

/-- The gateway as it is, but for a log of its cancels. -/
def VenueGateway.logged (gateway : VenueGateway World) (key : String) :
    VenueGateway (LoggedWorld World) where
  capabilities := gateway.capabilities
  listOpenOrders := fun (world, log) =>
    let (answer, next) := gateway.listOpenOrders world
    (answer, next, log)
  cancel := fun id symbol (world, log) =>
    let (answer, next) := gateway.cancel id symbol world
    (answer, next, log ++ [(⟨key, id, symbol⟩, answer)])
  lastPrice := fun symbol (world, log) =>
    let (answer, next) := gateway.lastPrice symbol world
    (answer, next, log)

def VenueEntry.logged (venue : VenueEntry World) : VenueEntry (LoggedWorld World) where
  key := venue.key
  gateway := venue.gateway.logged venue.key
  capabilities := venue.capabilities

/-- The directory as it is, but for a log of all cancels. -/
def VenueDirectory.logged (directory : VenueDirectory World) :
    VenueDirectory (LoggedWorld World) where
  venues := directory.venues.map VenueEntry.logged
  distinct_keys := by
    rw [List.map_map]
    exact directory.distinct_keys

namespace VenueDirectory

theorem find?_logged (directory : VenueDirectory World) (name : String) :
    directory.logged.find? name = (directory.find? name).map VenueEntry.logged :=
  Keyed.find?_map_of_sameKey (fun _ => rfl) directory.venues (venueKey name)

theorem key_of_find? {directory : VenueDirectory World} {name : String} {venue : VenueEntry World}
    (found : directory.find? name = some venue) : venue.key = venueKey name := by
  simpa using List.find?_some found

theorem gatewayFor_logged (directory : VenueDirectory World) (name : String)
    (capability : Capability) :
    directory.logged.gatewayFor name capability =
      (directory.gatewayFor name capability).map fun gateway =>
        gateway.logged (venueKey name) := by
  unfold gatewayFor
  rw [find?_logged]
  cases found : directory.find? name with
  | none => rfl
  | some venue =>
      have sameKey := key_of_find? found
      cases declared : venue.capabilities.contains capability <;>
        simp [VenueEntry.logged, declared, sameKey, Except.map]

end VenueDirectory

/-- A state without the log. -/
def State.withoutLog (state : State (LoggedWorld World)) : State World where
  ledger := state.ledger
  world := state.world.1

/-! ## The pass without the log -/

theorem requestCancel_logged (gateway : VenueGateway World) (key : String) (sibling : Order)
    (world : LoggedWorld World) :
    requestCancel gateway sibling world.1 =
      ((requestCancel (gateway.logged key) sibling world).1,
        (requestCancel (gateway.logged key) sibling world).2.1) := by
  unfold requestCancel
  cases sibling.venueOrderId <;> rfl

theorem cancelSibling_logged (directory : VenueDirectory World) (now : Instant) (pair : BrokenPair)
    (state : State (LoggedWorld World)) :
    let logged := cancelSibling directory.logged now pair state
    cancelSibling directory now pair state.withoutLog = (logged.1.withoutLog, logged.2) := by
  intro logged
  show _ = ((cancelSibling directory.logged now pair state).1.withoutLog,
    (cancelSibling directory.logged now pair state).2)
  unfold cancelSibling
  rw [VenueDirectory.gatewayFor_logged]
  cases directory.gatewayFor (pair.sibling.venue?.getD "") .cancel with
  | error fault => rfl
  | ok gateway =>
      have same := requestCancel_logged gateway (venueKey (pair.sibling.venue?.getD ""))
        pair.sibling state.world
      simp only [Except.map, State.withoutLog, same]

/-- The log does not change a pass. -/
theorem watchGroups_logged (directory : VenueDirectory World) (now : Instant)
    (groups : List (List Order)) (state : State (LoggedWorld World)) (summary : PairSummary) :
    let logged := watchGroups directory.logged now groups (state, summary)
    watchGroups directory now groups (state.withoutLog, summary) =
      (logged.1.withoutLog, logged.2) := by
  induction groups generalizing state summary with
  | nil => rfl
  | cons members rest inductionHypothesis =>
      unfold watchGroups
      cases groupState members with
      | settled => exact inductionHypothesis state summary
      | notAPair => exact inductionHypothesis state _
      | broken pair =>
          dsimp only
          rw [cancelSibling_logged]
          exact inductionHypothesis _ _

end OrderKeeper
