import ExamHall.Decimal.Text
import ExamHall.Json.Basic

/-!
# Decoding JSON

A decoder turns a JSON value into a typed one or says why it cannot: a value
that is there is wrong, or one that is needed is not there. Records are read
from objects, where a known name may occur once and unknown names are passed
over, or from lists, which give the fields in their order.
-/

namespace ExamHall

/-- Why a JSON value does not decode. -/
inductive DecodeFault where
  | mismatch
  | absent
deriving DecidableEq, Repr

/-- A reader of typed values. -/
abbrev Decoder (α : Type) := Json → Except DecodeFault α

namespace Json

/-- Reads a truth value. -/
def asBool : Decoder Bool
  | .bool value => .ok value
  | _ => .error .mismatch

/-- Reads a text. -/
def asText : Decoder String
  | .text value => .ok value
  | _ => .error .mismatch

/-- Reads an integer between two bounds, both included. -/
def asInt (low high : Int) : Decoder Int
  | .number (.integer value) =>
    if low ≤ value ∧ value ≤ high then .ok value else .error .mismatch
  | _ => .error .mismatch

/-- Reads a natural number below a bound. -/
def asNat (bound : Nat) (json : Json) : Except DecodeFault Nat :=
  Int.toNat <$> asInt 0 (bound - 1) json

/-- Reads a signed integer of a number of bits. -/
def asSigned (bits : Nat) : Decoder Int :=
  asInt (-(twoTo (bits - 1) : Nat)) ((twoTo (bits - 1) : Nat) - 1)

/-- Reads `null` as no value. -/
def asOption {α : Type} (decode : Decoder α) : Decoder (Option α)
  | .null => .ok none
  | json => some <$> decode json

/-- Decodes the items of a list in their order. -/
def decodeItems {α : Type} (decode : Decoder α) :
    List Json → Except DecodeFault (List α)
  | [] => .ok []
  | item :: rest =>
    match decode item with
    | .ok value =>
      match decodeItems decode rest with
      | .ok values => .ok (value :: values)
      | .error fault => .error fault
    | .error fault => .error fault

/-- Reads a list. -/
def asList {α : Type} (decode : Decoder α) : Decoder (List α)
  | .list items => decodeItems decode items
  | _ => .error .mismatch

/-- Reads one of a few words, written as a text or as an object with that name
and no content. -/
def asWord {α : Type} (read? : String → Option α) : Decoder α
  | .text word => match read? word with
    | some value => .ok value
    | none => .error .mismatch
  | .record [(word, .null)] => match read? word with
    | some value => .ok value
    | none => .error .mismatch
  | _ => .error .mismatch

/-- Reads a decimal from a text, an integer or the shortest text of a binary
number. -/
def asDecimal : Decoder Decimal
  | .text value => match Decimal.ofAnyText? value with
    | some value => .ok value
    | none => .error .mismatch
  | .number (.integer value) => match Decimal.ofInt? value with
    | some value => .ok value
    | none => .error .mismatch
  | .number (.binary bits) =>
      match Decimal.ofText? (Binary64.toPlainText bits) with
    | some value => .ok value
    | none => .error .mismatch
  | _ => .error .mismatch

/-- The fields of a record by name. -/
structure Fields where
  find? : String → Option Json

/-- The first member of a name. -/
def firstMember? (members : List (String × Json)) (name : String) :
    Option Json :=
  (members.find? fun member => member.1 == name).map (·.2)

/-- The last member of a name: a later member replaces an earlier one. -/
def lastMember? (members : List (String × Json)) (name : String) :
    Option Json :=
  firstMember? members.reverse name

/-- Whether no listed name occurs twice among the members. -/
def namesOnce (names : List String) (members : List (String × Json)) : Bool :=
  names.all fun name =>
    decide ((members.countP fun member => member.1 == name) ≤ 1)

/-- Reads a record with the given field names. -/
def asRecord (names : List String) : Decoder Fields
  | .record members =>
    if namesOnce names members then .ok ⟨firstMember? members⟩
    else .error .mismatch
  | .list items =>
    if items.length ≤ names.length then .ok ⟨firstMember? (names.zip items)⟩
    else .error .mismatch
  | _ => .error .mismatch

namespace Fields

/-- A field that has to be there. -/
def required {α : Type} (fields : Fields) (name : String) (decode : Decoder α) :
    Except DecodeFault α :=
  match fields.find? name with
  | some json => decode json
  | none => .error .absent

/-- A field with a default for the case that it is not there. -/
def withDefault {α : Type} (fields : Fields) (name : String) (default : α)
    (decode : Decoder α) : Except DecodeFault α :=
  match fields.find? name with
  | some json => decode json
  | none => .ok default

/-- A field that may be missing or `null`. -/
def optional {α : Type} (fields : Fields) (name : String) (decode : Decoder α) :
    Except DecodeFault (Option α) :=
  fields.withDefault name none (asOption decode)

end Fields

mutual

/-- The value with every name of an object once, with its last value. -/
def settle : Json → Json
  | .list items => .list (settleItems items)
  | .record members => .record (settleMembers members)
  | json => json

/-- The items of a list, each settled. -/
def settleItems : List Json → List Json
  | [] => []
  | item :: rest => settle item :: settleItems rest

/-- The members of an object without those that a later one replaces. -/
def settleMembers : List (String × Json) → List (String × Json)
  | [] => []
  | (name, value) :: rest =>
    if rest.any fun later => later.1 == name then settleMembers rest
    else (name, settle value) :: settleMembers rest

end

/-- Keeps a value of any kind. -/
def asAnything : Decoder Json := fun json => .ok json.settle

/-- Reads a record whose field `tag` says how to read the other fields, which
follow as a record. -/
def asTagged {α : Type} (tag : String)
    (decode : String → Json → Except DecodeFault α) : Decoder α
  | .record members =>
    if namesOnce [tag] members then
      match firstMember? members tag with
      | some (.text word) =>
          decode word (.record (members.filter fun member => member.1 != tag))
      | some _ => .error .mismatch
      | none => .error .absent
    else .error .mismatch
  | .list (.text word :: items) => decode word (.list items)
  | .list [] => .error .absent
  | _ => .error .mismatch

end Json

end ExamHall
