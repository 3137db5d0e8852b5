import ExamHall.Json.Decode
import ExamHall.Json.Reader
import ExamHall.Json.Skip

/-!
# Shapes of documents

A shape says what has to be written in a document. Reading by a shape goes from
left to right and ends at the first place that does not fit: a value of another
kind there is a mismatch, and bytes that fit no rule of the format are
malformed. So it matters which of two faults comes first. Objects may hold
members that a shape does not name; they are passed over. A record may also be
written as the list of its fields.

A form is a shape together with the decoder of what is written in it. From a
JSON value that is already there a typed value is decoded; from a document it is
read by the shape first, so that of two faults the first one counts.
-/

namespace ExamHall.Json

/-- When a field of a record has to be written. -/
inductive Presence where
  | always
  | inLists
  | never
deriving DecidableEq, Repr

/-- What has to be written. -/
inductive Shape where
  /-- Any value that meets a condition. -/
  | any (accepts : Json → Bool)
  /-- A value other than a list or an object that meets a condition. -/
  | single (accepts : Json → Bool)
  | truth
  | text (accepts : String → Bool)
  | integer (low high : Int)
  /-- A word, as a text or as an object with that name and no content. -/
  | word (accepts : String → Bool)
  /-- What a shape says, or `null`. -/
  | option (content : Shape)
  | list (item : Shape)
  | record (fields : List (String × Presence × Shape))
  /-- What a shape says; a fault in it counts as `null`, and reading goes on
  behind the fault. -/
  | lenient (content : Shape)

namespace Shape

/-- A text of any kind. -/
def anyText : Shape := .text fun _ => true

/-- A signed integer of a number of bits. -/
def signed (bits : Nat) : Shape :=
  .integer (-(twoTo (bits - 1) : Nat)) ((twoTo (bits - 1) : Nat) - 1)

/-- A natural number of a number of bits. -/
def unsigned (bits : Nat) : Shape :=
  .integer 0 ((twoTo bits : Nat) - 1)

end Shape

namespace Reader

/-- The value if it meets a condition. -/
def accepted (accepts : Json → Bool) (value : Json) : Reader Json :=
  if accepts value then pure value else fail .mismatch

/-- The fault of a value of the wrong kind. A value other than a list or an
object is taken. -/
def wrongKind {α : Type} : Reader α := do
  match ← ahead? with
  | some '[' | some '\x7b' => fail .mismatch
  | _ => do
    let _ ← value 1
    fail .mismatch

/-- Reads a value other than a list or an object. -/
def single (accepts : Json → Bool) : Reader Json := do
  match ← ahead? with
  | some '[' => enclosed (fail .mismatch) closeList
  | some '\x7b' => enclosed (fail .mismatch) closeRecord
  | _ => do accepted accepts (← value 1)

/-- Reads a text. -/
def textThat (accepts : String → Bool) : Reader String := do
  match ← ahead? with
  | some '"' => do
    let read ← text
    if accepts read then pure read else fail .mismatch
  | _ => wrongKind

/-- Reads a truth value. -/
def truth : Reader Json := do
  match ← ahead? with
  | some 't' | some 'f' => value 1
  | _ => wrongKind

/-- Reads an integer between two bounds, both included. -/
def integer (low high : Int) : Reader Json := do
  match ← ahead? with
  | some c =>
    if c = '-' ∨ (Text.digitValue? c).isSome then
      match ← number with
      | .integer read =>
          accepted (fun _ => decide (low ≤ read) && decide (read ≤ high))
            (.ofInt read)
      | .binary _ => fail .mismatch
    else wrongKind
  | none => fail .malformed

/-- Reads `null` where nothing else is allowed. -/
def nothing : Reader Unit := do
  match ← ahead? with
  | some 'n' => do
    let _ ← value 1
    pure ()
  | _ => wrongKind

/-- Reads the name and the empty content of a word that is written as an
object. -/
def wordMember (accepts : String → Bool) : Reader Json := do
  let name ← textThat accepts
  colon
  nothing
  pure (.record [(name, .null)])

/-- Reads a word. -/
def wordThat (accepts : String → Bool) : Reader Json := do
  match ← ahead? with
  | some '"' => Json.text <$> textThat accepts
  | some '\x7b' => do
    match ← deeper (wordMember accepts) with
    | .error fault => fail fault
    | .ok read => do
      closeRecord
      pure read
  | _ => fail .malformed

/-- Whether every field that has to be written in an object is among the names
read. -/
def isComplete (fields : List (String × Presence × Shape))
    (names : List String) : Bool :=
  fields.all fun (name, presence, _) =>
    decide (presence ≠ .always) || names.contains name

mutual

/-- Reads what a shape says, for `fuel` larger than the number of bytes left. -/
def shaped : Nat → Shape → Reader Json
  | 0, _ => fail .malformed
  | fuel + 1, shape => do
    match shape with
    | .any accepts => do accepted accepts (← value fuel)
    | .single accepts => single accepts
    | .truth => truth
    | .text accepts => Json.text <$> textThat accepts
    | .integer low high => integer low high
    | .word accepts => wordThat accepts
    | .option content =>
      match ← ahead? with
      | some 'n' => value 1
      | _ => shaped fuel content
    | .list item =>
      match ← ahead? with
      | some '[' =>
          Json.list <$> enclosed (shapedItems fuel item true []) closeList
      | _ => wrongKind
    | .record fields =>
      match ← ahead? with
      | some '[' =>
          Json.list <$> enclosed (shapedFields fuel fields true []) closeList
      | some '\x7b' =>
          Json.record <$>
            enclosed (shapedMembers fuel fields true []) closeRecord
      | _ => wrongKind
    | .lenient content =>
      match ← attempt (shaped fuel content) with
      | .ok read => pure read
      | .error _ => pure .null

/-- Reads the items of a list; `read` holds them, last one first. -/
def shapedItems : Nat → Shape → Bool → List Json → Reader (List Json)
  | 0, _, _, _ => fail .malformed
  | fuel + 1, item, isFirst, read => do
    if ← hasItem isFirst then
      let content ← shaped fuel item
      shapedItems fuel item false (content :: read)
    else pure read.reverse

/-- Reads the fields of a record that is written as a list; `read` holds them,
last one first. -/
def shapedFields : Nat → List (String × Presence × Shape) → Bool → List Json →
    Reader (List Json)
  | 0, _, _, _ => fail .malformed
  | _ + 1, [], _, read => pure read.reverse
  | fuel + 1, (name, presence, shape) :: fields, isFirst, read => do
    if ← hasItem isFirst then
      let content ← shaped fuel shape
      shapedFields fuel fields false (content :: read)
    else if ((name, presence, shape) :: fields).all fun field =>
      field.2.1 = .never then
      pure read.reverse
    else fail .mismatch

/-- Reads the members of a record; `read` holds those with names of fields, last
one first. -/
def shapedMembers :
    Nat → List (String × Presence × Shape) → Bool → List (String × Json) →
    Reader (List (String × Json))
  | 0, _, _, _ => fail .malformed
  | fuel + 1, fields, isFirst, read => do
    if ← hasMember isFirst then
      let name ← text
      match fields.find? fun field => field.1 == name with
      | some (_, _, shape) =>
        if read.any fun member => member.1 == name then fail .mismatch
        else do
          colon
          let content ← shaped fuel shape
          shapedMembers fuel fields false ((name, content) :: read)
      | none => do
        colon
        skipAny
        shapedMembers fuel fields false read
    else if isComplete fields (read.map (·.1)) then pure read.reverse
    else fail .mismatch

end

end Reader

namespace Shape

/-- Reads what a shape says at the start of a document. -/
def readLeading (shape : Shape) (bytes : List UInt8) : Except ReadFault Json :=
  Reader.onStart (Reader.shaped (fuelFor bytes) shape) bytes

/-- Reads a document that a shape describes. -/
def readAll (shape : Shape) (bytes : List UInt8) : Except ReadFault Json :=
  Reader.onAll (Reader.shaped (fuelFor bytes) shape) bytes

end Shape


/-- What a typed value looks like in a document, and how it is decoded. -/
structure Form (α : Type) where
  shape : Shape
  decode : Decoder α

namespace Form

/-- The value at the start of a document. -/
def readLeading {α : Type} (form : Form α) (bytes : List UInt8) :
    Except ReadFault α := do
  match form.decode (← form.shape.readLeading bytes) with
  | .ok value => pure value
  | .error _ => throw .mismatch

/-- The value that a whole document writes. -/
def readAll {α : Type} (form : Form α) (bytes : List UInt8) :
    Except ReadFault α := do
  match form.decode (← form.shape.readAll bytes) with
  | .ok value => pure value
  | .error _ => throw .mismatch

end Form

end ExamHall.Json
