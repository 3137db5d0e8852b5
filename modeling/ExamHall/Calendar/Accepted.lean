import ExamHall.Calendar.Instant
import ExamHall.Text.Numeral

/-!
# The accepted forms of a time

Three forms are tried in turn: RFC 3339 with an offset, then a date and time
without an offset, up to the minute or up to the second, which counts as UTC. In
the first form the separator may be any single character, digits of the fraction
after the ninth are dropped, and a sixtieth second is accepted where a leap
second can be; it stands for the last nanosecond before it. The other forms
allow a sign before the year.
-/

namespace ExamHall.Calendar

open ExamHall.Text

/-- A local time with its distance from UTC. -/
structure OffsetTime where
  localTime : Instant
  offsetMinutes : Int
deriving DecidableEq, Repr

/-- The instant that a local time and its offset denote, in the calendar or
not. -/
def OffsetTime.utc (time : OffsetTime) : Instant :=
  ⟨time.localTime.nanos - time.offsetMinutes * Instant.minute⟩

/-- The instant that a local time and its offset denote, if the calendar holds
it. -/
def OffsetTime.utc? (time : OffsetTime) : Option Instant :=
  if holds time.utc then some time.utc else none

/-- A number of exactly `width` digits. -/
def readFixed? (width : Nat) (cs : List Char) : Option (Nat × List Char) :=
  if width ≤ cs.length then
    (readDigits? (cs.take width)).map (·, cs.drop width)
  else none

/-- A given character. -/
def readChar? (expected : Char) : List Char → Option (List Char)
  | c :: rest => if c = expected then some rest else none
  | [] => none

/-- Month and day after the year, each after a hyphen. -/
def readMonthDay? (cs : List Char) : Option ((Nat × Nat) × List Char) := do
  let cs ← readChar? '-' cs
  let (month, cs) ← readFixed? 2 cs
  let cs ← readChar? '-' cs
  let (day, cs) ← readFixed? 2 cs
  some ((month, day), cs)

/-- Two numbers of two digits with a colon between them. -/
def readColonPair? (cs : List Char) : Option ((Nat × Nat) × List Char) := do
  let (first, cs) ← readFixed? 2 cs
  let cs ← readChar? ':' cs
  let (second, cs) ← readFixed? 2 cs
  some ((first, second), cs)

/-- The nanoseconds that the digits of a fraction stand for, nine of them at
most. -/
def fractionNanos (digits : List Char) : Option Nat :=
  readDigits? ((digits.take 9) ++ List.replicate (9 - digits.length) '0')

/-- An optional fraction after a point. -/
def readFraction? (cs : List Char) : Option (Nat × List Char) :=
  match cs with
  | '.' :: rest =>
    let isDigit := fun c => (digitValue? c).isSome
    let digits := rest.takeWhile isDigit
    if digits.isEmpty then none
    else (fractionNanos digits).map (·, rest.dropWhile isDigit)
  | _ => some (0, cs)

/-- An offset from UTC in minutes. -/
def readOffset? (cs : List Char) : Option (Int × List Char) :=
  match cs with
  | 'Z' :: rest => some (0, rest)
  | 'z' :: rest => some (0, rest)
  | sign :: rest =>
    if sign = '+' ∨ sign = '-' then do
      let ((hours, minutes), rest) ← readColonPair? rest
      if hours ≤ 23 ∧ minutes ≤ 59 then
        let size : Int := (hours * 60 + minutes : Nat)
        some (if sign = '-' then -size else size, rest)
      else none
    else none
  | [] => none

/-- Whether an instant is the last nanosecond of a month in UTC. -/
def endsMonth (instant : Instant) : Bool :=
  let parts := civil instant
  parts.day == monthLength parts.year parts.month && parts.hour ==
    23 && parts.minute == 59 && parts.second == 59 && parts.nanosecond ==
    999999999

/-- The form of RFC 3339. -/
def readZoned? (cs : List Char) : Option OffsetTime := do
  let (year, cs) ← readFixed? 4 cs
  let ((month, day), cs) ← readMonthDay? cs
  let cs ← match cs with
    | separator :: rest => if separator.toNat < 128 then some rest else none
    | [] => none
  let ((hour, minute), cs) ← readColonPair? cs
  let cs ← readChar? ':' cs
  let (second, cs) ← readFixed? 2 cs
  let (nanosecond, cs) ← readFraction? cs
  let (offsetMinutes, cs) ← readOffset? cs
  if cs.isEmpty then
    let leap := second == 60
    let parts : Civil :=
      { year, month, day, hour, minute
        second := if leap then 59 else second
        nanosecond := if leap then 999999999 else nanosecond }
    let localTime ← parts.instant?
    let time : OffsetTime := ⟨localTime, offsetMinutes⟩
    if leap && !(holds time.utc && endsMonth time.utc) then none else some time
  else none

/-- A year of four digits with an optional sign. -/
def readSignedYear? (cs : List Char) : Option (Int × List Char) :=
  match cs with
  | '-' :: rest => (readFixed? 4 rest).map fun part => (-(part.1 : Int), part.2)
  | '+' :: rest => (readFixed? 4 rest).map fun part => ((part.1 : Int), part.2)
  | _ => (readFixed? 4 cs).map fun part => ((part.1 : Int), part.2)

/-- A date and time without an offset; what follows the minute is left to
`finish`. -/
def readPlainWith? (finish : List Char → Option (Nat × Nat)) (cs : List Char) :
    Option Instant := do
  let (year, cs) ← readSignedYear? cs
  let ((month, day), cs) ← readMonthDay? cs
  let cs ← readChar? 'T' cs
  let ((hour, minute), cs) ← readColonPair? cs
  let (second, nanosecond) ← finish cs
  Civil.instant? { year, month, day, hour, minute, second, nanosecond }

/-- Nothing after the minute. -/
def finishAtMinute? (cs : List Char) : Option (Nat × Nat) :=
  if cs.isEmpty then some (0, 0) else none

/-- Seconds after the minute. -/
def finishAtSecond? (cs : List Char) : Option (Nat × Nat) := do
  let cs ← readChar? ':' cs
  let (second, cs) ← readFixed? 2 cs
  if cs.isEmpty then some (second, 0) else none

/-- Seconds with an optional fraction after the minute. -/
def finishAtFraction? (cs : List Char) : Option (Nat × Nat) := do
  let cs ← readChar? ':' cs
  let (second, cs) ← readFixed? 2 cs
  let (nanosecond, cs) ← readFraction? cs
  if cs.isEmpty then some (second, nanosecond) else none

/-- The time that a text gives in one of the accepted forms. -/
def accepted? (text : String) : Option OffsetTime :=
  let cs := text.toList
  (readZoned? cs).or (((readPlainWith? finishAtMinute? cs).or
      (readPlainWith? finishAtSecond? cs)).map fun localTime => ⟨localTime, 0⟩)

/-- The instant that a text gives in UTC without a zone, to the second or
finer. -/
def plainUtc? (text : String) : Option Instant :=
  readPlainWith? finishAtFraction? text.toList

end ExamHall.Calendar
