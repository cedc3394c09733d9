import OrderKeeper.Dictionary
import OrderKeeper.Order.Ledger
import OrderKeeper.Reconcile.Adoption
import OrderKeeper.Reconcile.Policy

/-!
Contract: the ledger against one venue's listing.

Owns: the listed rows by id, the match of local orders with them, the closing of local
orders that match none, and the import of rows that no local order accounts for.

A local order matches a row by venue order id.  One that has no such id yet matches any
row of its base symbol and side, so several local orders may match one row.
-/

set_option autoImplicit false

namespace OrderKeeper

/-- Rows that have an id, by id; of several with one id the last counts. -/
def listedById (rows : List ListedOrder) : Dictionary ListedOrder :=
  rows.foldl
    (fun listed row =>
      match row.orderId with
      | some id => listed.insert id row
      | none => listed)
    .empty

def countWithoutId (rows : List ListedOrder) : Nat :=
  (rows.filter fun row => row.orderId.isNone).length

/-- Whether a row may be a local order whose venue order id is not known yet. -/
def matchesBySymbol (order : Order) (row : ListedOrder) : Bool :=
  (match row.symbol with
    | some symbol => Text.sameLetters (Symbol.base symbol) (Symbol.base order.symbol)
    | none => false)
  && row.side.bind Side.ofVendor? = some order.side

/-- The id of the listed row that a local order matches. -/
def claimedId? (listed : Dictionary ListedOrder) (order : Order) : Option String :=
  match order.venueOrderId with
  | some id => if listed.contains id then some id else none
  | none =>
      (listed.entries.find? fun entry => matchesBySymbol order entry.2).map Prod.fst

/-- What one listing changed. -/
structure ListingDelta where
  imported : Nat
  closed : Nat
  malformed : Nat
deriving DecidableEq, Repr, Inhabited

def Ledger.onVenue (ledger : Ledger) (venue : String) : List Order :=
  ledger.orders.filter fun order => Symbol.isOn order.symbol venue

/-- Closes each of some orders with a status, and counts those that were open. -/
def closeAll (now : Instant) (status : Status) (orders : List Order)
    (ledger : Ledger) : Ledger × Nat :=
  orders.foldl
    (fun (ledger, closed) order =>
      let (ledger, changed) := ledger.close now order.id status
      (ledger, if changed then closed + 1 else closed))
    (ledger, 0)

def closeMissing (policy : AbsencePolicy) (now : Instant) (missing : List Order)
    (ledger : Ledger) : Ledger × Nat :=
  match policy.closingStatus? with
  | some status => closeAll now status missing ledger
  | none => (ledger, 0)

/-- Takes rows over into the ledger: how many were new, and how many were refused. -/
def importAll (now : Instant) (venue : String) (rows : List ListedOrder)
    (ledger : Ledger) : Ledger × Nat × Nat :=
  rows.foldl
    (fun (ledger, imported, refused) row =>
      match importedOrder now venue row with
      | .error _ => (ledger, imported, refused + 1)
      | .ok order =>
          let (ledger, outcome) := ledger.write now order
          (ledger, if outcome = .inserted then imported + 1 else imported, refused))
    (ledger, 0, 0)

/-- Brings the ledger in line with one venue's listing, without a pause in between. -/
def alignWithListing (policy : AbsencePolicy) (now : Instant) (venue : String)
    (rows : List ListedOrder) (ledger : Ledger) : Ledger × ListingDelta :=
  let listed := listedById rows
  let localOrders := ledger.onVenue venue
  let openOrders := localOrders.filter Order.isOpen
  let known := localOrders.filterMap Order.venueOrderId
  let claimed := openOrders.filterMap (claimedId? listed)
  let missing := openOrders.filter fun order => (claimedId? listed order).isNone
  let unclaimed := listed.entries.filter fun entry =>
    !claimed.contains entry.1 && !known.contains entry.1
  let (ledger, closed) := closeMissing policy now missing ledger
  let (ledger, imported, refused) := importAll now venue (unclaimed.map Prod.snd) ledger
  (ledger, { imported, closed, malformed := countWithoutId rows + refused })

end OrderKeeper
