import ExamHall.Calendar.Instant
import ExamHall.Grading.Outcome
import ExamHall.Records
import ExamHall.Store.Fault

/-!
# Column values

How values are brought into the form in which a column keeps them. Texts of
bounded length may lose blanks at their end, amounts are rounded to two
fractional digits, times lose what is below a microsecond. A value that does not
fit is a fault. Times of the clock always fit.
-/

namespace ExamHall.Column

/-- Whether a text has a character with the code zero. -/
def hasNul (text : String) : Bool :=
  text.toList.any fun c => c.toNat == 0

mutual

/-- Whether some text of a document has a character with the code zero. -/
def documentHasNul : Json → Bool
  | .text text => hasNul text
  | .list items => itemsHaveNul items
  | .record members => membersHaveNul members
  | _ => false

/-- Whether some item has a character with the code zero. -/
def itemsHaveNul : List Json → Bool
  | [] => false
  | item :: rest => documentHasNul item || itemsHaveNul rest

/-- Whether some name or value has a character with the code zero. -/
def membersHaveNul : List (String × Json) → Bool
  | [] => false
  | (name, value) :: rest =>
      hasNul name || documentHasNul value || membersHaveNul rest

end

/-- A text of at most `width` characters; what stands beyond them may only be
spaces and is cut. -/
def bounded (width : Nat) (text : String) : Except StorageFault String :=
  if text.length ≤ width then .ok text
  else if (text.toList.drop width).all (· == ' ')
    then .ok (String.ofList (text.toList.take width))
  else .error .textTooLong

/-- The width of columns that hold ids. -/
def idWidth : Nat := 64

/-- The width of columns that hold titles. -/
def titleWidth : Nat := 255

/-- An id. -/
def id (text : String) : Except StorageFault String := bounded idWidth text

/-- An optional id. -/
def id? : Option String → Except StorageFault (Option String)
  | none => .ok none
  | some text => some <$> id text

/-- An amount with two fractional digits whose integer part stays below a bound.
Zero has no digits. -/
def amount (bound : Nat) (value : Decimal) : Except StorageFault Decimal :=
  let rounded := roundPoints value
  if rounded.coefficient = 0 then .ok .zero
  else if rounded.coefficient.natAbs < bound * tenTo rounded.scale
    then .ok rounded
  else .error .numberOutOfRange

/-- An amount of points. -/
def points (value : Decimal) : Except StorageFault Decimal :=
  amount (tenTo 8) value

/-- A percentage. -/
def percent (value : Decimal) : Except StorageFault Decimal :=
  amount (tenTo 3) value

/-- An integer of 32 bits. -/
def int32 (value : Int) : Except StorageFault Int :=
  if -(twoTo 31 : Int) ≤ value ∧ value < twoTo 31 then .ok value
  else .error .numberOutOfRange

/-- The start of the year 2000, from which times are counted. -/
def origin : Instant := ⟨946684800 * Instant.second⟩

/-- A time to the microsecond; what is below it is dropped on the side away from
the origin. -/
def time (instant : Instant) : Instant :=
  ⟨origin.nanos + Int.tdiv (instant.nanos - origin.nanos) 1000 * 1000⟩

/-- The first time that a column keeps: day zero of the days that are counted
through all calendars. -/
def earliest : Instant := ⟨origin.nanos - 2451545 * Instant.day⟩

/-- The first time that is too late for a column: the start of the year
294277. -/
def limit : Instant := ⟨origin.nanos + 106751983 * Instant.day⟩

/-- Whether a column can keep a time. -/
def keeps (instant : Instant) : Bool :=
  decide (earliest ≤ time instant) && decide (time instant < limit)

/-- A time that a client has chosen, which a column may not be able to keep. -/
def timestamp (instant : Instant) : Except StorageFault Instant :=
  if keeps instant then .ok (time instant) else .error .timeOutOfRange

/-- A document. -/
def document {α : Type} (encode : α → Json) (value : α) :
    Except StorageFault (Stored α) :=
  if documentHasNul (encode value) then .error .nulInDocument
  else .ok (.written value)

end ExamHall.Column
