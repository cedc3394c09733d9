import OrderKeeper.Decimal.Text
import OrderKeeper.Json.Access
import OrderKeeper.Json.Decoder
import OrderKeeper.Text.Blank

/-!
Contract: one open order as a venue lists it.

Owns: the row type, the lenient readers of a row and of a listing, and the writer of a row.  A field
that is missing or has no usable value is absent; one that a row names twice makes the row, and the
listing around it, unreadable.
-/

set_option autoImplicit false

namespace OrderKeeper

open Json (Document Fields Value)

structure ListedOrder where
  orderId : Option String
  symbol : Option String
  side : Option String
  orderKind : Option String
  orderedQuantity : Option Decimal
  executedQuantity : Option Decimal
  price : Option Decimal
  stopPrice : Option Decimal
  timeInForce : Option String
  status : Option String
deriving DecidableEq, Inhabited

namespace ListedOrder

/-! ## Lenient values -/

/-- A string that is not blank, or a number in its shortest form. -/
def textOf : Value → Option String
  | .string text => if (Text.trim text).isEmpty then none else some text
  | .number number => some number.render
  | _ => none

/-- A decimal in a string, blanks around it skipped, or a number. -/
def decimalOf : Value → Option Decimal
  | .string text => (Decimal.parse (Text.trim text)).toOption
  | .number number => (Decimal.parse number.render).toOption
  | _ => none

/-! ## Rows -/

/-- The names of each field. -/
def fieldNames : List (List String) :=
  [["order_id", "orderId"], ["symbol"], ["side"], ["type", "order_type"],
    ["origQty", "quantity"], ["executedQty"], ["price"], ["stop_price", "stopPrice"],
    ["timeInForce"], ["status"]]

/-- Reads a field leniently; only a value that no JSON reader accepts within a budget is refused. -/
def lenient? {α : Type} (budget : Nat) (fields : Fields) (index : Nat)
    (read : Value → Option α) : Option (Option α) :=
  fields.withDefault? index none fun document => (document.toValue? budget).map read

/-- The row of a document, with a budget of brackets for the values of its fields. -/
def ofDocumentWithin? (budget : Nat) (document : Document) : Option ListedOrder := do
  let fields ← document.fields? fieldNames
  let orderId ← lenient? budget fields 0 textOf
  let symbol ← lenient? budget fields 1 textOf
  let side ← lenient? budget fields 2 textOf
  let orderKind ← lenient? budget fields 3 textOf
  let orderedQuantity ← lenient? budget fields 4 decimalOf
  let executedQuantity ← lenient? budget fields 5 decimalOf
  let price ← lenient? budget fields 6 decimalOf
  let stopPrice ← lenient? budget fields 7 decimalOf
  let timeInForce ← lenient? budget fields 8 textOf
  let status ← lenient? budget fields 9 textOf
  some
    { orderId, symbol, side, orderKind, orderedQuantity, executedQuantity, price,
      stopPrice, timeInForce, status }

def ofDocument? (document : Document) : Option ListedOrder :=
  ofDocumentWithin? (Json.depthBudget - 1) document

/-- The rows of a listing, which is an array of them. -/
def ofListing? (document : Document) : Option (List ListedOrder) :=
  document.list? (ofDocumentWithin? (Json.depthBudget - 2))

def parse? (text : String) : Option ListedOrder :=
  (Document.parse? text).bind ofDocument?

def parseListing? (text : String) : Option (List ListedOrder) :=
  (Document.parse? text).bind ofListing?

def toValue (row : ListedOrder) : Value :=
  let decimal := fun x : Decimal => Value.string x.render
  .ofMembers
    [("order_id", .optional .string row.orderId),
      ("symbol", .optional .string row.symbol),
      ("side", .optional .string row.side),
      ("type", .optional .string row.orderKind),
      ("origQty", .optional decimal row.orderedQuantity),
      ("executedQty", .optional decimal row.executedQuantity),
      ("price", .optional decimal row.price),
      ("stop_price", .optional decimal row.stopPrice),
      ("timeInForce", .optional .string row.timeInForce),
      ("status", .optional .string row.status)]

end ListedOrder

end OrderKeeper
