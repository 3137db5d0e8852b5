import ExamHall.Power
import ExamHall.Text.Numeral

/-!
# Instants and the civil calendar

An instant is a number of nanoseconds since the start of 1970 in UTC. The
calendar is the proleptic Gregorian one with a year 0 and negative years before
it. Arithmetic on instants has no result outside the years -9999 to 9999.

An instant of the years 0 to 9999 is written in the form of RFC 3339 with the
zone `Z`; the fraction is left out when it is zero and has no trailing zeros.
Other years have a form of their own, with a space before the time and a
spelled-out offset.
-/

namespace ExamHall

/-- A point in time, in nanoseconds since the start of 1970 in UTC. -/
structure Instant where
  nanos : Int
deriving DecidableEq, Repr, Inhabited

namespace Instant

instance : LE Instant where
  le left right := left.nanos ≤ right.nanos

instance : LT Instant where
  lt left right := left.nanos < right.nanos

instance (left right : Instant) : Decidable (left ≤ right) :=
  inferInstanceAs (Decidable (left.nanos ≤ right.nanos))

instance (left right : Instant) : Decidable (left < right) :=
  inferInstanceAs (Decidable (left.nanos < right.nanos))

theorem le_def (left right : Instant) :
    left ≤ right ↔ left.nanos ≤ right.nanos := Iff.rfl

theorem lt_def (left right : Instant) :
    left < right ↔ left.nanos < right.nanos := Iff.rfl

/-- The nanoseconds of a second. -/
def second : Int := 1000000000

/-- The nanoseconds of a minute. -/
def minute : Int := 60 * second

/-- The nanoseconds of a day. -/
def day : Int := 86400 * second

end Instant

namespace Calendar

/-- Whether a year has 366 days. -/
def isLeap (year : Int) : Bool :=
  year % 4 == 0 && (year % 100 != 0 || year % 400 == 0)

/-- The lengths of the months of a year, in order. -/
def monthLengths (year : Int) : List Nat :=
  [31, if isLeap year then 29 else 28, 31, 30, 31, 30, 31, 31, 30, 31, 30, 31]

/-- The length of a month; zero for a number that names no month. -/
def monthLength (year : Int) (month : Nat) : Nat :=
  if month = 0 then 0 else ((monthLengths year)[month - 1]?).getD 0

/-- The days from the start of year 1 to the start of a year. -/
def daysBeforeYear (year : Int) : Int :=
  let past := year - 1
  365 * past + past / 4 - past / 100 + past / 400

/-- The days from the start of a year to the start of a month. -/
def daysBeforeMonth (year : Int) (month : Nat) : Nat :=
  ((monthLengths year).take (month - 1)).foldl
    (fun total days => total + days) 0

/-- The days from the start of year 1 to the start of 1970. -/
def epochDay : Int := 719162

/-- A date and a time of day. -/
structure Civil where
  year : Int
  month : Nat
  day : Nat
  hour : Nat
  minute : Nat
  second : Nat
  nanosecond : Nat
deriving DecidableEq, Repr

/-- The year of a day counted from the start of year 1, and the day's number in
it, from zero. -/
def yearOfDay (day : Int) : Int × Nat :=
  let rest := day % 146097
  let centuries := min (rest / 36524) 3
  let rest := rest - centuries * 36524
  let quads := rest / 1461
  let rest := rest - quads * 1461
  let years := min (rest / 365) 3
  (400 * (day / 146097) + 100 * centuries + 4 * quads + years + 1,
    (rest - years * 365).toNat)

/-- The month and the day of the month, from the lengths of the months still
ahead. -/
def monthOfDay : List Nat → Nat → Nat → Nat × Nat
  | [], month, day => (month, day + 1)
  | length :: rest, month, day =>
    if day < length then (month, day + 1)
    else monthOfDay rest (month + 1) (day - length)

/-- The date and time of day of an instant. -/
def civil (instant : Instant) : Civil :=
  let (year, yearDay) := yearOfDay (instant.nanos / Instant.day + epochDay)
  let (month, day) := monthOfDay (monthLengths year) 1 yearDay
  let time := instant.nanos % Instant.day
  { year, month, day
    hour := (time / (3600 * Instant.second)).toNat
    minute := (time / Instant.minute % 60).toNat
    second := (time / Instant.second % 60).toNat
    nanosecond := (time % Instant.second).toNat }

/-- The first year of the calendar. -/
def firstYear : Int := -9999

/-- The last year of the calendar. -/
def lastYear : Int := 9999

/-- Whether the parts name a date of the calendar and a time of day. -/
def Civil.isValid (parts : Civil) : Bool :=
  decide (firstYear ≤ parts.year) && decide (parts.year ≤ lastYear) &&
    decide (1 ≤ parts.day) &&
      decide (parts.day ≤ monthLength parts.year parts.month) &&
        decide (parts.hour < 24) && decide (parts.minute < 60) &&
          decide (parts.second < 60) && decide (parts.nanosecond < 1000000000)

/-- The instant that the parts name. -/
def Civil.instant (parts : Civil) : Instant :=
  let day := daysBeforeYear parts.year +
    daysBeforeMonth parts.year parts.month + (parts.day - 1 : Int) - epochDay
  ⟨day * Instant.day + (parts.hour * 3600 + parts.minute * 60 +
      parts.second : Nat) * Instant.second + parts.nanosecond⟩

/-- The instant of valid parts. -/
def Civil.instant? (parts : Civil) : Option Instant :=
  if parts.isValid then some parts.instant else none

/-- The start of the calendar. -/
def start : Instant := Civil.instant ⟨firstYear, 1, 1, 0, 0, 0, 0⟩

/-- The first instant after the calendar. -/
def stop : Instant := Civil.instant ⟨lastYear + 1, 1, 1, 0, 0, 0, 0⟩

/-- Whether an instant lies in the calendar. -/
def holds (instant : Instant) : Bool :=
  decide (start ≤ instant) && decide (instant < stop)

/-- An instant moved by a number of nanoseconds, if it stays in the calendar. -/
def shift? (instant : Instant) (nanos : Int) : Option Instant :=
  let moved : Instant := ⟨instant.nanos + nanos⟩
  if holds moved then some moved else none

end Calendar

namespace Instant

/-- The instant without the part below a microsecond. -/
def toMicros (instant : Instant) : Instant :=
  ⟨instant.nanos / 1000 * 1000⟩

/-- The whole seconds from one instant to another; zero if the other is
earlier. -/
def secondsUntil (start stop : Instant) : Int :=
  max (Int.tdiv (stop.nanos - start.nanos) second) 0

/-- The nanoseconds since the epoch, modulo `2 ^ 64`. -/
def epochWord (instant : Instant) : Nat :=
  (instant.nanos % (twoTo 64 : Nat)).toNat

/-- The whole seconds since the epoch. -/
def epochSeconds (instant : Instant) : Int :=
  instant.nanos / second

/-- The seconds since the epoch, with what is left of a second cut off, modulo
`2 ^ 64`. -/
def epochSecondWord (instant : Instant) : Nat :=
  (Int.tdiv instant.nanos second % (twoTo 64 : Nat)).toNat

end Instant

end ExamHall

namespace ExamHall.Calendar

open ExamHall.Text

/-- The digits of a fraction of `width` places without trailing zeros. -/
def fractionDigits : Nat → Nat → List Char
  | 0, _ => []
  | width + 1, value =>
    if value % 10 = 0 then fractionDigits width (value / 10)
    else paddedNumeral (width + 1) value

/-- Hours, minutes and seconds, after a given form of the hour. -/
def clockChars (hour : List Char) (parts : Civil) : List Char :=
  hour ++ ':' :: paddedNumeral 2 parts.minute ++
    ':' :: paddedNumeral 2 parts.second

/-- Month and day. -/
def monthDayChars (parts : Civil) : List Char :=
  '-' :: paddedNumeral 2 parts.month ++ '-' :: paddedNumeral 2 parts.day

/-- The characters of an instant. -/
def writtenChars (instant : Instant) : List Char :=
  let parts := civil instant
  let fraction := fractionDigits 9 parts.nanosecond
  if 0 ≤ parts.year ∧ parts.year ≤ lastYear then
    paddedNumeral 4 parts.year.toNat ++ monthDayChars parts ++ 'T' ::
      clockChars (paddedNumeral 2 parts.hour) parts ++
      (if fraction.isEmpty then [] else '.' :: fraction) ++ ['Z']
  else
    (if parts.year < 0 then ['-'] else ['+']) ++
      paddedNumeral 4 parts.year.natAbs ++ monthDayChars parts ++
        ' ' :: clockChars (numeral parts.hour) parts ++ '.' ::
          (if fraction.isEmpty then ['0'] else fraction) ++ " +00:00:00".toList

/-- The text of an instant. -/
def written (instant : Instant) : String :=
  String.ofList (writtenChars instant)

end ExamHall.Calendar
