import OrderKeeper.Paper.Broker
import OrderKeeper.Venue.Directory

/-!
Contract: a world of paper venues.

Owns: paper venues under labels, the number of orders placed on them, and the directory
and the broker that reach them.

The directory drops blanks around the names of venues, the broker does not.
-/

set_option autoImplicit false

namespace OrderKeeper

structure PaperMarket where
  /-- Venues by label. -/
  venues : Dictionary PaperExchange
  ordersPlaced : Nat
deriving Inhabited

namespace PaperMarket

def venueAt (market : PaperMarket) (label : String) : PaperExchange :=
  (market.venues.get? label).getD (.create label)

def setVenue (market : PaperMarket) (label : String) (venue : PaperExchange) : PaperMarket :=
  { market with venues := market.venues.insert label venue }

def slot (label : String) : PaperSlot PaperMarket where
  read := fun market => market.venueAt label
  write := fun venue market => market.setVenue label venue

/-- The names of the venues that are made from configured names. -/
def venueNames (configured : List String) : List String :=
  configured.map fun name => (PaperExchange.create name).name

/-- A market with one empty venue of each name, labelled by it. -/
def ofNames (configured : List String) : PaperMarket where
  venues := .ofList ((venueNames configured).map fun name => (name, .create name))
  ordersPlaced := 0

/-- Enters the venue of each name; of two with one key the later one is kept. -/
def directory (configured : List String) : VenueDirectory PaperMarket :=
  (venueNames configured).foldl
    (fun directory name => directory.insert name (slot name).gateway) .empty

/-- Places orders under ids from a supply. -/
def broker (ids : Nat → OrderId) (configured : List String) : PaperBroker PaperMarket where
  venues := .ofList ((venueNames configured).map fun name => (name, slot name))
  drawId := fun market =>
    (ids market.ordersPlaced, { market with ordersPlaced := market.ordersPlaced + 1 })

end PaperMarket

end OrderKeeper
