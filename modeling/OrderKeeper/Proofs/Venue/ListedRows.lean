import Mathlib
import OrderKeeper.Proofs.Json.Legible
import OrderKeeper.Proofs.Json.Record
import OrderKeeper.Venue.ListedOrder

/-!
Contract: the rows that are read from a listing of objects.

Owns: what a literal means for a field, the objects that can be read as rows, the row of each, and
that a listing has one row for each of its objects exactly if all of them can be read.

Does not own: rows that are written as arrays.

A value that is of no use for its field leaves the field absent and does nothing else.  But an object
that gives two values to one field, under two of its names or one name twice, cannot be read, and
then no row of the listing is.
-/

set_option autoImplicit false
set_option maxRecDepth 2000

namespace OrderKeeper.ListedOrder

open Json (Document Fields Members Number Piece Value decodeString? valuesOf)

/-! ## Literals -/

/-- A string that is not blank, or a numeral in its shortest form. -/
def textIn : Document → Option String
  | .string pieces => (decodeString? pieces).filter fun text => !(Text.trim text).isEmpty
  | .numeral text => (Number.ofText? text).map Number.render
  | _ => none

/-- A decimal in a string, blanks around it skipped, or a numeral. -/
def decimalIn : Document → Option Decimal
  | .string pieces =>
      (decodeString? pieces).bind fun text => (Decimal.parse (Text.trim text)).toOption
  | .numeral text =>
      (Number.ofText? text).bind fun number => (Decimal.parse number.render).toOption
  | _ => none

/-- A reading of values takes from the value of a document what one of documents takes from it. -/
def ReadsAs {α : Type} (read : Value → Option α) (readIn : Document → Option α) : Prop :=
  ∀ (budget : Nat) (document : Document) (value : Value),
    document.toValue? budget = some value → read value = readIn document

/-- A reading that passes over all but strings and numbers has to be compared on those. -/
theorem ReadsAs.of_literals {α : Type} {read : Value → Option α} {readIn : Document → Option α}
    (string : ∀ pieces text, decodeString? pieces = some text →
      read (.string text) = readIn (.string pieces))
    (numeral : ∀ text number, Number.ofText? text = some number →
      read (.number number) = readIn (.numeral text))
    (null : read .null = readIn .null) (bool : ∀ value, read (.bool value) = readIn (.bool value))
    (array : ∀ values items, read (.array values) = readIn (.array items))
    (object : ∀ members written, read (.object members) = readIn (.object written)) :
    ReadsAs read readIn := by
  intro budget document value isValue
  cases document with
  | null => exact Option.some.inj isValue ▸ null
  | bool truth => exact Option.some.inj isValue ▸ bool truth
  | numeral text =>
      obtain ⟨number, isNumber, rfl⟩ := Option.map_eq_some_iff.mp isValue
      exact numeral text number isNumber
  | string pieces =>
      obtain ⟨text, isText, rfl⟩ := Option.map_eq_some_iff.mp isValue
      exact string pieces text isText
  | array items =>
      rw [Document.toValue?] at isValue
      split at isValue
      · cases isValue
      · obtain ⟨values, -, rfl⟩ := Option.map_eq_some_iff.mp isValue
        exact array values items
  | object written =>
      rw [Document.toValue?] at isValue
      split at isValue
      · cases isValue
      · obtain ⟨members, -, rfl⟩ := Option.map_eq_some_iff.mp isValue
        exact object _ written

theorem textOf_readsAs : ReadsAs textOf textIn := by
  refine .of_literals (fun pieces text isText => ?_) (fun text number isNumber => ?_) rfl
    (fun _ => rfl) (fun _ _ => rfl) (fun _ _ => rfl)
  · rw [textIn, isText, textOf]
    cases blank : (Text.trim text).isEmpty <;> simp [blank, Option.filter]
  · rw [textIn, isNumber, Option.map_some, textOf]

theorem decimalOf_readsAs : ReadsAs decimalOf decimalIn := by
  refine .of_literals (fun pieces text isText => ?_) (fun text number isNumber => ?_) rfl
    (fun _ => rfl) (fun _ _ => rfl) (fun _ _ => rfl)
  · rw [decimalIn, isText, Option.bind_some, decimalOf]
  · rw [decimalIn, isNumber, Option.bind_some, decimalOf]

/-- A field is read leniently if its value, where it has one, is a value at all. -/
theorem lenient?_eq_some_iff {α : Type} {read : Value → Option α}
    {readIn : Document → Option α} (readsAs : ReadsAs read readIn) {budget index : Nat}
    {fields : Fields} {result : Option α} :
    lenient? budget fields index read = some result ↔
      (∀ document ∈ fields.at? index, document.HasValue budget) ∧
        (fields.at? index).bind readIn = result := by
  unfold lenient? Fields.withDefault?
  cases fields.at? index with
  | none => simp
  | some document =>
      dsimp only
      rw [Option.map_eq_some_iff]
      constructor
      · rintro ⟨value, isValue, rfl⟩
        refine ⟨?_, (readsAs budget document value isValue).symm⟩
        intro other same
        obtain rfl := Option.some.inj same
        exact Document.exists_value_iff.mp ⟨value, isValue⟩
      · rintro ⟨hasValue, rfl⟩
        obtain ⟨value, isValue⟩ := Document.exists_value_iff.mpr (hasValue document rfl)
        exact ⟨value, isValue, readsAs budget document value isValue⟩

/-! ## Rows -/

/-- The keys of an object have texts, and the values that it gives to fields are values at all. -/
structure IsInRange (budget : Nat) (object : Members) : Prop where
  keys : ∀ member ∈ object, (decodeString? member.1).isSome = true
  values : ∀ field ∈ fieldNames, ∀ value ∈ valuesOf field object, value.HasValue budget

instance (budget : Nat) (object : Members) :
    Decidable (IsInRange budget object) :=
  decidable_of_iff
    ((∀ member ∈ object, (decodeString? member.1).isSome = true) ∧
      ∀ field ∈ fieldNames, ∀ value ∈ valuesOf field object, value.HasValue budget)
    ⟨fun ⟨keys, values⟩ => ⟨keys, values⟩, fun ⟨keys, values⟩ => ⟨keys, values⟩⟩

/-- The objects of an array with a value are in range. -/
theorem isInRange_of_hasValue {objects : List Members} {budget : Nat}
    (hasValue : (Document.array (objects.map .object)).HasValue budget) :
    ∀ object ∈ objects, IsInRange (budget - 2) object := by
  intro object member
  have members := (hasValue.item _ (List.mem_map_of_mem member)).member
  refine ⟨fun entry isMember => (members entry isMember).1, fun field _ value given => ?_⟩
  obtain ⟨key, isMember⟩ := Json.exists_member_of_mem_valuesOf given
  exact (members _ isMember).2

/-- An object gives no field two values. -/
def NamesFieldsOnce (object : Members) : Prop :=
  ∀ field ∈ fieldNames, (valuesOf field object).length ≤ 1

instance (object : Members) : Decidable (NamesFieldsOnce object) :=
  inferInstanceAs (Decidable (∀ field ∈ fieldNames, _))

/-- The row of an object: each field as the value under one of its names says, or absent. -/
def rowOf (object : Members) : ListedOrder where
  orderId := (valuesOf ["order_id", "orderId"] object).head?.bind textIn
  symbol := (valuesOf ["symbol"] object).head?.bind textIn
  side := (valuesOf ["side"] object).head?.bind textIn
  orderKind := (valuesOf ["type", "order_type"] object).head?.bind textIn
  orderedQuantity := (valuesOf ["origQty", "quantity"] object).head?.bind decimalIn
  executedQuantity := (valuesOf ["executedQty"] object).head?.bind decimalIn
  price := (valuesOf ["price"] object).head?.bind decimalIn
  stopPrice := (valuesOf ["stop_price", "stopPrice"] object).head?.bind decimalIn
  timeInForce := (valuesOf ["timeInForce"] object).head?.bind textIn
  status := (valuesOf ["status"] object).head?.bind textIn

/-- Of one value at most, the first is all there is. -/
theorem forall_mem_head?_iff {α : Type} {P : α → Prop} {values : List α}
    (once : values.length ≤ 1) : (∀ value ∈ values.head?, P value) ↔ ∀ value ∈ values, P value := by
  rcases values with _ | ⟨value, _ | ⟨second, rest⟩⟩
  · simp
  · simp
  · simp at once

/-- An object is read as a row exactly if it is in range and names each field once. -/
theorem ofDocumentWithin?_object_eq_some_iff {budget : Nat}
    (object : Members) (row : ListedOrder) :
    ofDocumentWithin? budget (.object object) = some row ↔
      (IsInRange budget object ∧ NamesFieldsOnce object) ∧ row = rowOf object := by
  have heads_iff (once : NamesFieldsOnce object) :
      (∀ field ∈ fieldNames, ∀ value ∈ (valuesOf field object).head?, value.HasValue budget) ↔
        ∀ field ∈ fieldNames, ∀ value ∈ valuesOf field object, value.HasValue budget :=
    forall₂_congr fun field member => forall_mem_head?_iff (once field member)
  -- The ten fields are read in turn, and each reading is a condition on its own value.
  unfold ofDocumentWithin?
  simp only [Option.bind_eq_bind, Option.bind_eq_some_iff, Json.fields?_object_eq_some_iff,
    lenient?_eq_some_iff textOf_readsAs, lenient?_eq_some_iff decimalOf_readsAs, and_assoc,
    exists_and_left, exists_eq_left, exists_eq_left']
  constructor
  · rintro ⟨keys, once, orderId, symbol, side, orderKind, orderedQuantity, executedQuantity,
      price, stopPrice, timeInForce, status, same⟩
    refine ⟨⟨keys, (heads_iff once).mp ?_⟩, once, (Option.some.inj same).symm⟩
    simp only [fieldNames, List.forall_mem_cons]
    exact ⟨orderId, symbol, side, orderKind, orderedQuantity, executedQuantity, price, stopPrice,
      timeInForce, status, List.forall_mem_nil _⟩
  · rintro ⟨⟨keys, values⟩, once, rfl⟩
    have heads := (heads_iff once).mpr values
    simp only [fieldNames, List.forall_mem_cons] at heads
    obtain ⟨orderId, symbol, side, orderKind, orderedQuantity, executedQuantity, price, stopPrice,
      timeInForce, status, -⟩ := heads
    exact ⟨keys, once, orderId, symbol, side, orderKind, orderedQuantity, executedQuantity, price,
      stopPrice, timeInForce, status, rfl⟩

/-! ## Main statement -/

/-- A listing of objects has one row for each, with every field as its object says or absent, exactly
if all objects are in range and none gives two values to one field.  Otherwise it has no rows.  All
are in range if the listing is a value at all. -/
theorem listing_read_iff {text : String} {objects : List Members}
    (written : Document.parse? text = some (.array (objects.map .object))) :
    (∀ rows : List ListedOrder,
      parseListing? text = some rows ↔
        (∀ object ∈ objects, IsInRange (Json.depthBudget - 2) object ∧ NamesFieldsOnce object) ∧
          rows = objects.map rowOf) ∧
      ((∃ value, Value.parse? text = some value) →
        ∀ object ∈ objects, IsInRange (Json.depthBudget - 2) object) := by
  unfold parseListing? Value.parse?
  rw [written]
  refine ⟨fun rows => ?_, fun isValue => ?_⟩
  · show (objects.map Document.object).mapM _ = some rows ↔ _
    rw [List.mapM_map]
    exact Json.mapM_eq_some_iff ofDocumentWithin?_object_eq_some_iff objects rows
  · exact isInRange_of_hasValue (Document.exists_value_iff.mp isValue)

/-- A row with values of no use beside a row with a member that is no field. -/
theorem useless_values_leave_fields_absent :
    let word (text : String) : List Piece := text.toList.map .char
    let poor : Members :=
      [(word "orderId", .numeral ⟨false, ['7'], none, none⟩), (word "symbol", .string []),
        (word "price", .array [.null])]
    let rich : Members :=
      [(word "symbol", .string (word "A")), (word "quantity", .string (word "2")),
        (word "x", .numeral ⟨false, ['1'], none, some (false, ['9', '9', '9'])⟩)]
    let text := "[\x7b\"orderId\":7,\"symbol\":\"\",\"price\":[null]\x7d," ++
      "\x7b\"symbol\":\"A\",\"quantity\":\"2\",\"x\":1e999\x7d]"
    Document.parse? text = some (.array ([poor, rich].map .object)) ∧
      parseListing? text = some
        [{ (default : ListedOrder) with orderId := some "7" },
          { (default : ListedOrder) with
            symbol := some "A", orderedQuantity := some ⟨false, 2, 0, by decide, by decide⟩ }] := by
  intro word poor rich text
  have written : Document.parse? text = some (.array ([poor, rich].map .object)) := by cbv
  exact ⟨written, ((listing_read_iff written).1 _).mpr ⟨by decide +kernel, by decide +kernel⟩⟩

/-- A listing of a row that can be read alone and of one that gives its order id twice, under both
names. -/
theorem repeated_field_empties_listing :
    let word (text : String) : List Piece := text.toList.map .char
    let plain : Members := [(word "order_id", .string (word "a1"))]
    let twice : Members :=
      [(word "order_id", .string (word "a2")), (word "orderId", .string (word "a2"))]
    let alone := "[\x7b\"order_id\":\"a1\"\x7d]"
    let both := "[\x7b\"order_id\":\"a1\"\x7d,\x7b\"order_id\":\"a2\",\"orderId\":\"a2\"\x7d]"
    Document.parse? both = some (.array ([plain, twice].map .object)) ∧
      (Value.parse? both).isSome = true ∧
      parseListing? alone = some [{ (default : ListedOrder) with orderId := some "a1" }] ∧
      parseListing? both = none := by
  intro word plain twice alone both
  have written : Document.parse? both = some (.array ([plain, twice].map .object)) := by cbv
  exact ⟨written, by decide +kernel, by decide +kernel, by decide +kernel⟩

end OrderKeeper.ListedOrder
