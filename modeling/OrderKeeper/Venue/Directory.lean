import OrderKeeper.Text.Blank
import OrderKeeper.Text.Case
import OrderKeeper.Text.Quoted
import OrderKeeper.Venue.Gateway

/-!
Contract: venues by name.

Owns: the gateways by name, the capabilities that each declared when it was entered,
and their look-up.  Names are compared without blanks around them and without regard
to case.
-/

set_option autoImplicit false

namespace OrderKeeper

/-- The form in which a venue name is entered. -/
def venueKey (name : String) : String :=
  Text.upper (Text.trim name)

structure VenueEntry (World : Type) where
  key : String
  gateway : VenueGateway World
  capabilities : CapabilitySet

/-- Venues under distinct keys. -/
structure VenueDirectory (World : Type) where
  venues : List (VenueEntry World)
  distinct_keys : (venues.map VenueEntry.key).Nodup

namespace VenueDirectory

variable {World : Type}

def empty : VenueDirectory World := ⟨[], List.nodup_nil⟩

/-- Enters a gateway, in place of the one that had its key. -/
def insert (directory : VenueDirectory World) (name : String) (gateway : VenueGateway World) :
    VenueDirectory World where
  venues :=
    directory.venues.filter (fun venue => venue.key != venueKey name)
      ++ [{ key := venueKey name, gateway, capabilities := gateway.capabilities }]
  distinct_keys := by
    rw [List.map_append, List.nodup_append]
    refine ⟨directory.distinct_keys.sublist (List.filter_sublist.map _), by simp, ?_⟩
    intro old old_mem added added_mem same
    simp only [List.map_cons, List.map_nil, List.mem_singleton] at added_mem
    obtain ⟨kept, kept_mem, rfl⟩ := List.mem_map.mp old_mem
    have other := (List.mem_filter.mp kept_mem).2
    simp [same, added_mem] at other

def find? (directory : VenueDirectory World) (name : String) : Option (VenueEntry World) :=
  directory.venues.find? fun venue => venue.key = venueKey name

def offers (directory : VenueDirectory World) (name : String) (capability : Capability) : Bool :=
  match directory.find? name with
  | some venue => venue.capabilities.contains capability
  | none => false

/-- The gateway of a name if it declared a capability. -/
def gatewayFor (directory : VenueDirectory World) (name : String) (capability : Capability) :
    Except VenueFault (VenueGateway World) :=
  match directory.find? name with
  | none => .error (.unknownVenue name)
  | some venue =>
      if venue.capabilities.contains capability then .ok venue.gateway
      else .error (.unsupported capability)

/-- The keys in ascending order, which is the order of a pass. -/
def keys (directory : VenueDirectory World) : List String :=
  (directory.venues.map VenueEntry.key).mergeSort fun a b => decide (a ≤ b)

def size (directory : VenueDirectory World) : Nat :=
  directory.venues.length

/-- The keys for a reader's eye. -/
def describe (directory : VenueDirectory World) : String :=
  "VenueRegistry \x7b venues: ["
    ++ String.intercalate ", " (directory.keys.map Text.quoted) ++ "] \x7d"

end VenueDirectory

end OrderKeeper
