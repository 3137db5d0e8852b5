import ExamHall.Json.Lexeme

/-!
# Reading values

The reader of values of any kind. A document holds one value and nothing but
spaces behind it.
-/

namespace ExamHall.Json

namespace Reader

/-- Reads the rest of a word of the format, whose first letter is at the
cursor. -/
def literal (rest : List Char) (value : Json) : Reader Json := do
  skip
  word rest
  pure value

mutual

/-- Reads a value, for `fuel` larger than the number of bytes left. -/
def value : Nat → Reader Json
  | 0 => fail .malformed
  | fuel + 1 => do
    match ← ahead? with
    | some 'n' => literal ['u', 'l', 'l'] .null
    | some 't' => literal ['r', 'u', 'e'] (.bool true)
    | some 'f' => literal ['a', 'l', 's', 'e'] (.bool false)
    | some '"' => Json.text <$> text
    | some '[' => Json.list <$> enclosed (items fuel true []) closeList
    | some '\x7b' => Json.record <$> enclosed (members fuel true []) closeRecord
    | some c =>
      if c = '-' ∨ (Text.digitValue? c).isSome then Json.number <$> number
      else fail .malformed
    | none => fail .malformed

/-- Reads the items of a list; `read` holds them, last one first. -/
def items : Nat → Bool → List Json → Reader (List Json)
  | 0, _, _ => fail .malformed
  | fuel + 1, isFirst, read => do
    if ← hasItem isFirst then
      let item ← value fuel
      items fuel false (item :: read)
    else pure read.reverse

/-- Reads the members of an object; `read` holds them, last one first. -/
def members : Nat → Bool → List (String × Json) → Reader (List (String × Json))
  | 0, _, _ => fail .malformed
  | fuel + 1, isFirst, read => do
    if ← hasMember isFirst then
      let name ← text
      colon
      let content ← value fuel
      members fuel false ((name, content) :: read)
    else pure read.reverse

end

/-- How many levels of lists and objects may be opened, less one. -/
def maxLevels : Nat := 128

/-- Runs a reader at the start of a document. What follows what it reads is not
looked at. -/
def onStart {α : Type} (reader : Reader α) (bytes : List UInt8) :
    Except ReadFault α :=
  (reader.run ⟨bytes, maxLevels⟩).1

/-- The end of a document. -/
def finish : Reader Unit := do
  match ← ahead? with
  | none => pure ()
  | some _ => fail .malformed

/-- Runs a reader on a whole document. -/
def onAll {α : Type} (reader : Reader α) (bytes : List UInt8) :
    Except ReadFault α :=
  onStart (do let value ← reader; finish; pure value) bytes

end Reader

/-- Enough fuel for what stands in a list of bytes: two steps for each byte that
opens a list, and some more for what a reader decides without taking a byte. -/
def fuelFor (bytes : List UInt8) : Nat := 2 * bytes.length + 16

/-- The value that a whole text writes. -/
def ofText? (text : String) : Option Json :=
  let bytes := Text.utf8 text
  match Reader.onAll (Reader.value (fuelFor bytes)) bytes with
  | .ok value => some value
  | .error _ => none

end ExamHall.Json
