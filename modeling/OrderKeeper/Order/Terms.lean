import OrderKeeper.Text.Blank
import OrderKeeper.Text.Case

/-!
Contract: the vocabulary of an order.

Owns: sides, statuses, order types and times in force, their names, and the lenient
reading of the words that vendors use for them.  Names are read exactly; vendor words
are read without regard to case, to blanks around them, and, for statuses and types,
to hyphens and spaces in place of underscores.
-/

set_option autoImplicit false

namespace OrderKeeper

/-- A vendor word in upper case, without blanks around it. -/
def vendorWord (text : String) : String :=
  Text.upper (Text.trim text)

/-- A vendor word with underscores for hyphens and spaces. -/
def vendorPhrase (text : String) : String :=
  String.ofList ((vendorWord text).toList.map fun c => if c = '-' ∨ c = ' ' then '_' else c)

/-! ## Side -/

inductive Side where
  | buy
  | sell
deriving DecidableEq, Repr, Inhabited

namespace Side

def name : Side → String
  | .buy => "BUY"
  | .sell => "SELL"

def ofName? : String → Option Side
  | "BUY" => some .buy
  | "SELL" => some .sell
  | _ => none

/-- The side that closes a position opened on this one. -/
def flip : Side → Side
  | .buy => .sell
  | .sell => .buy

def ofVendor? (text : String) : Option Side :=
  match vendorWord text with
  | "BUY" | "B" | "BID" | "LONG" => some .buy
  | "SELL" | "S" | "ASK" | "SHORT" => some .sell
  | _ => none

end Side

/-! ## Status -/

inductive Status where
  | new
  | pendingNew
  | accepted
  | partiallyFilled
  | filled
  | canceled
  | rejected
deriving DecidableEq, Repr, Inhabited

namespace Status

def name : Status → String
  | .new => "NEW"
  | .pendingNew => "PENDING_NEW"
  | .accepted => "ACCEPTED"
  | .partiallyFilled => "PARTIALLY_FILLED"
  | .filled => "FILLED"
  | .canceled => "CANCELED"
  | .rejected => "REJECTED"

def ofName? : String → Option Status
  | "NEW" => some .new
  | "PENDING_NEW" => some .pendingNew
  | "ACCEPTED" => some .accepted
  | "PARTIALLY_FILLED" => some .partiallyFilled
  | "FILLED" => some .filled
  | "CANCELED" => some .canceled
  | "REJECTED" => some .rejected
  | _ => none

/-- Whether the order is still live. -/
def isOpen : Status → Bool
  | .new | .pendingNew | .accepted | .partiallyFilled => true
  | .filled | .canceled | .rejected => false

def isFinal (status : Status) : Bool :=
  !status.isOpen

def ofVendor? (text : String) : Option Status :=
  match vendorPhrase text with
  | "NEW" | "OPEN" => some .new
  | "PENDING_NEW" | "PENDING" => some .pendingNew
  | "ACCEPTED" | "ACTIVE" => some .accepted
  | "PARTIALLY_FILLED" | "PARTIAL" => some .partiallyFilled
  | "FILLED" | "DONE" => some .filled
  | "CANCELED" | "CANCELLED" | "EXPIRED" => some .canceled
  | "REJECTED" => some .rejected
  | _ => none

end Status

/-! ## Type -/

inductive OrderKind where
  | market
  | limit
  | stopMarket
  | stopLimit
deriving DecidableEq, Repr, Inhabited

namespace OrderKind

def name : OrderKind → String
  | .market => "MARKET"
  | .limit => "LIMIT"
  | .stopMarket => "STOP_MARKET"
  | .stopLimit => "STOP_LIMIT"

def ofName? : String → Option OrderKind
  | "MARKET" => some .market
  | "LIMIT" => some .limit
  | "STOP_MARKET" => some .stopMarket
  | "STOP_LIMIT" => some .stopLimit
  | _ => none

/-- An absent or unknown type is a limit order. -/
def ofVendor (text : Option String) : OrderKind :=
  match text.map vendorPhrase with
  | some "MARKET" => .market
  | some "STOP" | some "STOP_MARKET" | some "STOP_LOSS" => .stopMarket
  | some "STOP_LIMIT" | some "STOP_LOSS_LIMIT" => .stopLimit
  | _ => .limit

end OrderKind

/-! ## Time in force -/

inductive TimeInForce where
  | goodTillCanceled
  | immediateOrCancel
  | fillOrKill
  | day
deriving DecidableEq, Repr, Inhabited

namespace TimeInForce

def name : TimeInForce → String
  | .goodTillCanceled => "GTC"
  | .immediateOrCancel => "IOC"
  | .fillOrKill => "FOK"
  | .day => "DAY"

def ofName? : String → Option TimeInForce
  | "GTC" => some .goodTillCanceled
  | "IOC" => some .immediateOrCancel
  | "FOK" => some .fillOrKill
  | "DAY" => some .day
  | _ => none

/-- An absent or unknown time in force is good till canceled. -/
def ofVendor (text : Option String) : TimeInForce :=
  match text.map vendorWord with
  | some "IOC" => .immediateOrCancel
  | some "FOK" => .fillOrKill
  | some "DAY" => .day
  | _ => .goodTillCanceled

end TimeInForce

end OrderKeeper
