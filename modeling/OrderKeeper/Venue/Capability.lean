/-!
Contract: what a venue can do.

Owns: the optional operations of a venue and the set of them that one venue declares.
-/

set_option autoImplicit false

namespace OrderKeeper

inductive Capability where
  | listOpenOrders
  | cancel
  | lastPrice
deriving DecidableEq, Repr

namespace Capability

def name : Capability → String
  | .listOpenOrders => "list_open_orders"
  | .cancel => "cancel"
  | .lastPrice => "last_price"

def ofName? : String → Option Capability
  | "list_open_orders" => some .listOpenOrders
  | "cancel" => some .cancel
  | "last_price" => some .lastPrice
  | _ => none

def all : List Capability := [.listOpenOrders, .cancel, .lastPrice]

end Capability

/-- The set of operations that a venue declares. -/
structure CapabilitySet where
  listOpenOrders : Bool
  cancel : Bool
  lastPrice : Bool
deriving DecidableEq, Repr

namespace CapabilitySet

def none : CapabilitySet := ⟨false, false, false⟩

def all : CapabilitySet := ⟨true, true, true⟩

def including (declared : CapabilitySet) : Capability → CapabilitySet
  | .listOpenOrders => { declared with listOpenOrders := true }
  | .cancel => { declared with cancel := true }
  | .lastPrice => { declared with lastPrice := true }

def ofList (capabilities : List Capability) : CapabilitySet :=
  capabilities.foldl including none

def contains (declared : CapabilitySet) : Capability → Bool
  | .listOpenOrders => declared.listOpenOrders
  | .cancel => declared.cancel
  | .lastPrice => declared.lastPrice

end CapabilitySet

end OrderKeeper
