import ExamHall.Json.Decode
import ExamHall.Json.Reader
import ExamHall.Text.Bytes
import ExamHall.Text.Pieces

/-!
# Query fields

In an address, a percent sign with two hexadecimal digits stands for a byte of a
text in UTF-8. A percent sign without them stands for itself. In forms a plus
sign also stands for a space.

The query of an address holds fields in form notation: names and values joined
by equals signs, fields separated by ampersands. A field whose name is no text
cannot be asked for.
-/

namespace ExamHall.Percent

/-- The byte of two hexadecimal digits. -/
def byteOf? (high low : Char) : Option UInt8 := do
  let high ← Json.hexValue? high
  let low ← Json.hexValue? low
  some (UInt8.ofNat (16 * high + low))

/-- The bytes that characters in percent notation stand for. -/
def bytes : List Char → List UInt8
  | '%' :: high :: low :: rest =>
    match byteOf? high low with
    | some byte => byte :: bytes rest
    | none => Text.utf8 "%" ++ bytes (high :: low :: rest)
  | c :: rest => Text.utf8 (String.singleton c) ++ bytes rest
  | [] => []

/-- The text that characters in percent notation stand for, if their bytes are
one. -/
def decode? (cs : List Char) : Option String :=
  Text.ofUtf8? (bytes cs)

/-- A piece of a form with its plus signs as the spaces they stand for. -/
def plusAsSpace (cs : List Char) : List Char :=
  cs.map fun c => if c = '+' then ' ' else c

end ExamHall.Percent

namespace ExamHall

/-- A field of a query, with its value if that is a text. -/
structure QueryField where
  name : String
  value : Option String
deriving DecidableEq, Repr

namespace QueryField

/-- The text that a name or a value in form notation stands for. -/
def component? (cs : List Char) : Option String :=
  Percent.decode? (Percent.plusAsSpace cs)

/-- The field that a piece of a query writes. -/
def ofPiece? (piece : List Char) : Option QueryField :=
  (component? (Text.before '=' piece)).map fun name =>
    ⟨name, component? (Text.after '=' piece)⟩

/-- The fields of a query. -/
def ofText (query : String) : List QueryField :=
  ((Text.pieces '&' query.toList).filter fun piece => !piece.isEmpty).filterMap
    ofPiece?

/-- Reads a field that may be given once. -/
def read {α : Type} (fields : List QueryField) (name : String) (default : α)
    (read? : String → Option α) : Except DecodeFault α :=
  match fields.filter fun field => field.name == name with
  | [] => .ok default
  | [field] =>
    match field.value.bind read? with
    | some value => .ok value
    | none => .error .mismatch
  | _ => .error .mismatch

end QueryField

end ExamHall
