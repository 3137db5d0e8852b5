import ExamHall.Calendar.Accepted
import ExamHall.Response.Attempt
import ExamHall.Store.Basic
import ExamHall.Store.Column

/-!
# Tables by column names

The values of columns are JSON, as a maintainer sees and writes them. A written
value has to fit its column; `null` is the absence of a value.

A maintainer sees the rows of a table as records of named columns, adds rows
under the rules of the table, and changes or removes rows by id without them.
-/

namespace ExamHall

/-- A reader of a column's value. -/
abbrev Cell (α : Type) := Json → Except StorageFault α

namespace Cell

/-- A text. -/
def text : Cell String
  | .text value => if Column.hasNul value then .error .nulInText else .ok value
  | .null => .error .missingValue
  | _ => .error .unknownWord

/-- A text of bounded length. -/
def bounded (width : Nat) : Cell String :=
  fun json => text json >>= Column.bounded width

/-- An id. -/
def id : Cell String := bounded Column.idWidth

/-- A value that may be absent. -/
def optional {α : Type} (cell : Cell α) : Cell (Option α)
  | .null => .ok none
  | json => some <$> cell json

/-- One of a few words. -/
def word {α : Type} (read? : String → Option α) : Cell α := fun json => do
  match read? (← text json) with
  | some value => .ok value
  | none => .error .unknownWord

/-- An integer of a number of bits. -/
def integer (bits : Nat) : Cell Int := fun json =>
  match json with
  | .null => .error .missingValue
  | json =>
    match Json.asSigned bits json with
    | .ok value => .ok value
    | .error _ => .error .numberOutOfRange

/-- A truth value. -/
def flag : Cell Bool
  | .bool value => .ok value
  | .null => .error .missingValue
  | _ => .error .unknownWord

/-- An amount, which a column narrows in its own way. -/
def amount (narrow : Decimal → Except StorageFault Decimal) :
    Cell Decimal := fun json =>
  match json with
  | .null => .error .missingValue
  | json =>
    match Json.asDecimal json with
    | .ok value => narrow value
    | .error _ => .error .unknownWord

/-- A time in UTC. -/
def time : Cell Instant := fun json => do
  match Calendar.plainUtc? (← text json) with
  | some instant => .ok (Column.time instant)
  | none => .error .unknownWord

/-- A document, readable or not. -/
def document {α : Type} (decode : Decoder α) : Cell (Stored α) := fun json =>
  match json with
  | .null => .error .missingValue
  | json =>
    if Column.documentHasNul json then .error .nulInDocument
    else .ok (Stored.ofJson decode json.settle)

end Cell

/-- A column of a row that is written: the given value, or else the one that is
there already. -/
def Json.Fields.cell {α : Type} (fields : Json.Fields) (name : String)
    (present : Option α) (cell : Cell α) : Except StorageFault α :=
  match fields.find? name with
  | some json => cell json
  | none =>
    match present with
    | some value => .ok value
    | none => .error .missingValue

/-- An amount as a JSON text with two digits. -/
def amountJson (amount : Decimal) : Json :=
  pointsJson amount

/-- An optional text as JSON. -/
def textOrNull (value : Option String) : Json :=
  .ofOption .text value

/-- How a maintainer deals with a table whose rows are of type `ρ`. -/
structure TableView (ρ : Type) where
  rows : Store → List ρ
  withRows : Store → List ρ → Store
  id : ρ → Option String
  columns : ρ → List (String × Json)
  revise : ρ → Json.Fields → Except StorageFault ρ
  insert : Json.Fields → Statement Unit

namespace TableView

variable {ρ : Type}

/-- The text of a column that rows are ordered by. -/
def orderText : Option (String × Json) → String
  | some (_, .text value) => value
  | _ => ""

/-- The order of shown rows: by their first and then by their second column. -/
def shownBefore (left right : List (String × Json)) : Bool :=
  let first := orderText left[0]?
  let other := orderText right[0]?
  decide (first < other) ||
    (first == other && decide (orderText left[1]? ≤ orderText right[1]?))

/-- The rows of a table as records. -/
def records (view : TableView ρ) (store : Store) : List Json :=
  (((view.rows store).map view.columns).mergeSort shownBefore).map .record

/-- Whether a row has an id. -/
def hasId (view : TableView ρ) (id : String) (row : ρ) : Bool :=
  view.id row == some id

/-- The rows after a change of those that have an id. -/
def reviseRows (view : TableView ρ) (id : String) (fields : Json.Fields) :
    List ρ → Except StorageFault (List ρ)
  | [] => .ok []
  | row :: rest => do
    let row ← if view.hasId id row then view.revise row fields else .ok row
    let rest ← view.reviseRows id fields rest
    .ok (row :: rest)

/-- Changes the rows that have an id, and counts them. -/
def change (view : TableView ρ) (id : String) (fields : Json.Fields) :
    Statement Nat := fun store =>
  match view.reviseRows id fields (view.rows store) with
  | .ok rows =>
      .ok ((view.rows store).countP (view.hasId id), view.withRows store rows)
  | .error fault => .error fault

/-- Removes the rows that have an id, and counts them. -/
def remove (view : TableView ρ) (id : String) : Statement Nat := fun store =>
  .ok ((view.rows store).countP (view.hasId id), view.withRows store
    ((view.rows store).filter fun row => !view.hasId id row))

end TableView

end ExamHall
