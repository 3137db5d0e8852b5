import ExamHall.Binary64

/-!
# JSON values

A JSON value keeps the members of an object in the order in which they are
written, repetitions included; a reader of the value decides what a repetition
means. Numbers without fraction and exponent that fit into 64 bits are integers,
all others are binary64 values.

Values are written in the compact form: no blanks, members in the order of the
value, and only the characters escaped that the format forbids inside a text.
-/

namespace ExamHall

/-- A JSON number. -/
inductive JsonNumber where
  | integer (value : Int)
  | binary (bits : UInt64)
deriving DecidableEq, Repr

/-- A JSON value. -/
inductive Json where
  | null
  | bool (value : Bool)
  | number (value : JsonNumber)
  | text (value : String)
  | list (items : List Json)
  | record (members : List (String × Json))
deriving Repr, Inhabited

namespace Json

/-- A natural number as a JSON value. -/
def ofNat (value : Nat) : Json := .number (.integer value)

/-- An integer as a JSON value. -/
def ofInt (value : Int) : Json := .number (.integer value)

/-- A list of texts as a JSON value. -/
def ofTexts (values : List String) : Json := .list (values.map .text)

/-- An optional value, `null` when absent. -/
def ofOption {α : Type} (encode : α → Json) : Option α → Json
  | none => .null
  | some value => encode value

/-- A member that is written only when it has a value. -/
def optionalMember {α : Type} (name : String) (encode : α → Json) :
    Option α → List (String × Json)
  | none => []
  | some value => [(name, encode value)]

/-- The character of a hexadecimal digit. -/
def hexDigit (digit : Nat) : Char :=
  if digit < 10 then Char.ofNat (48 + digit) else Char.ofNat (87 + digit)

/-- A character inside a JSON text. -/
def escapeChar (c : Char) : List Char :=
  if c = '"' then ['\\', '"']
  else if c = '\\' then ['\\', '\\']
  else if c = '\n' then ['\\', 'n']
  else if c = '\r' then ['\\', 'r']
  else if c = '\t' then ['\\', 't']
  else if c.toNat < 0x20 then
    ['\\', 'u', '0', '0', hexDigit (c.toNat / 16), hexDigit (c.toNat % 16)]
  else [c]

/-- A text between quotation marks. -/
def quoted (text : String) : String :=
  String.ofList ('"' :: text.toList.flatMap escapeChar ++ ['"'])

/-- A JSON number. -/
def numberText : JsonNumber → String
  | .integer value => Text.ofInt value
  | .binary bits => Binary64.toText bits

mutual

/-- The compact form of a value. -/
def render : Json → String
  | .null => "null"
  | .bool true => "true"
  | .bool false => "false"
  | .number value => numberText value
  | .text value => quoted value
  | .list items => "[" ++ String.intercalate "," (renderItems items) ++ "]"
  | .record members =>
    String.ofList ['\x7b'] ++ String.intercalate "," (renderMembers members) ++
      String.ofList ['\x7d']

/-- The compact forms of the items of a list. -/
def renderItems : List Json → List String
  | [] => []
  | item :: rest => render item :: renderItems rest

/-- The compact forms of the members of an object. -/
def renderMembers : List (String × Json) → List String
  | [] => []
  | (name, value) :: rest =>
      (quoted name ++ ":" ++ render value) :: renderMembers rest

end

end Json

end ExamHall
