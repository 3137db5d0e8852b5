import ExamHall.Text.Bytes

/-!
# Reading documents from left to right

A document is a list of bytes. A reader takes bytes off its front and ends with
a value or with a fault. What it took is gone in both cases: whoever tolerates a
fault goes on where it arose. Lists and objects are opened only up to a fixed
depth.
-/

namespace ExamHall.Json

/-- Why reading ends early. -/
inductive ReadFault where
  /-- The bytes fit no rule of the format. -/
  | malformed
  /-- The value that is written is not the one that is wanted. -/
  | mismatch
deriving DecidableEq, Repr

/-- The bytes that are still to be read, and the number of levels that may still
be opened. -/
structure Cursor where
  rest : List UInt8
  levels : Nat

/-- A reader, which moves the cursor also when it ends with a fault. -/
abbrev Reader (α : Type) := ExceptT ReadFault (StateM Cursor) α

/-- What a piece of a document gives, and the bytes behind the piece or behind
the fault. -/
abbrev Scanned (α : Type) := Except ReadFault α × List UInt8

/-- The character of a byte. -/
def letter (byte : UInt8) : Char :=
  Char.ofNat byte.toNat

/-- The bytes that may stand between tokens. -/
def isSpace (byte : UInt8) : Bool :=
  letter byte == ' ' || letter byte == '\n' || letter byte ==
    '\t' || letter byte == '\r'

/-- Takes the bytes of a word; the first byte that differs is taken too. -/
def scanWord : List Char → List UInt8 → Scanned Unit
  | [], bytes => (.ok (), bytes)
  | _ :: _, [] => (.error .malformed, [])
  | expected :: word, byte :: rest =>
    if letter byte = expected then scanWord word rest
    else (.error .malformed, rest)

namespace Reader

/-- A reader that takes one piece. -/
def piece {α : Type} (scan : List UInt8 → Scanned α) : Reader α :=
  ExceptT.mk do
    let cursor ← get
    let (result, rest) := scan cursor.rest
    set { cursor with rest }
    pure result

/-- Ends with a fault. -/
def fail {α : Type} (fault : ReadFault) : Reader α := throw fault

/-- The next character after spaces, which is left in its place. -/
def ahead? : Reader (Option Char) := do
  modify fun cursor => { cursor with rest := cursor.rest.dropWhile isSpace }
  pure ((← get).rest.head?.map letter)

/-- Passes over one byte. -/
def skip : Reader Unit :=
  modify fun cursor => { cursor with rest := cursor.rest.tail }

/-- Takes the bytes of a word. -/
def word (expected : List Char) : Reader Unit := piece (scanWord expected)

/-- Runs a reader and tolerates its fault. -/
def attempt {α : Type} (reader : Reader α) : Reader (Except ReadFault α) :=
  ExceptT.mk do
    let result ← reader.run
    pure (.ok result)

/-- Reads what an opened bracket encloses, one level deeper. -/
def deeper {α : Type} (inside : Reader α) : Reader (Except ReadFault α) := do
  modify fun cursor => { cursor with levels := cursor.levels - 1 }
  if (← get).levels = 0 then fail .malformed
  skip
  let result ← attempt inside
  modify fun cursor => { cursor with levels := cursor.levels + 1 }
  pure result

/-- Reads what brackets enclose. The closing one is looked for also after a
fault. -/
def enclosed {α : Type} (inside : Reader α) (close : Reader Unit) :
    Reader α := do
  let result ← deeper inside
  let closed ← attempt close
  match result, closed with
  | .ok value, .ok () => pure value
  | .error fault, _ => fail fault
  | .ok _, .error fault => fail fault

/-- The end of a list. -/
def closeList : Reader Unit := do
  match ← ahead? with
  | some ']' => skip
  | some ',' => do
    skip
    let _ ← ahead?
    fail .malformed
  | _ => fail .malformed

/-- The end of an object. -/
def closeRecord : Reader Unit := do
  match ← ahead? with
  | some '\x7d' => skip
  | _ => fail .malformed

/-- Whether another item of a list follows. -/
def hasItem (isFirst : Bool) : Reader Bool := do
  match ← ahead? with
  | none => fail .malformed
  | some ']' => pure false
  | some ',' =>
    if isFirst then pure true
    else do
      skip
      match ← ahead? with
      | none | some ']' => fail .malformed
      | some _ => pure true
  | some _ => if isFirst then pure true else fail .malformed

/-- Whether another member of an object follows; its name then starts at the
cursor. -/
def hasMember (isFirst : Bool) : Reader Bool := do
  match ← ahead? with
  | some '\x7d' => pure false
  | some '"' => if isFirst then pure true else fail .malformed
  | some ',' =>
    if isFirst then fail .malformed
    else do
      skip
      match ← ahead? with
      | some '"' => pure true
      | _ => fail .malformed
  | _ => fail .malformed

/-- The colon after a name. -/
def colon : Reader Unit := do
  match ← ahead? with
  | some ':' => skip
  | _ => fail .malformed

end Reader

end ExamHall.Json
