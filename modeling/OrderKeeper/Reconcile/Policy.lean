import OrderKeeper.Order.Terms

/-!
Contract: what becomes of an open order that its venue no longer lists.

A venue does not say whether such an order was filled or canceled, so this is a choice.
-/

set_option autoImplicit false

namespace OrderKeeper

inductive AbsencePolicy where
  | assumeFilled
  | assumeCanceled
  | leaveOpen
deriving DecidableEq, Repr, Inhabited

namespace AbsencePolicy

def name : AbsencePolicy → String
  | .assumeFilled => "assume_filled"
  | .assumeCanceled => "assume_canceled"
  | .leaveOpen => "leave_open"

def ofName? : String → Option AbsencePolicy
  | "assume_filled" => some .assumeFilled
  | "assume_canceled" => some .assumeCanceled
  | "leave_open" => some .leaveOpen
  | _ => none

/-- The status that a missing order is closed with, if it is closed. -/
def closingStatus? : AbsencePolicy → Option Status
  | .assumeFilled => some .filled
  | .assumeCanceled => some .canceled
  | .leaveOpen => none

end AbsencePolicy

end OrderKeeper
