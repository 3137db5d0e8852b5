import ExamHall.Calendar.Accepted
import ExamHall.Proofs.Calendar.Civil
import ExamHall.Proofs.Text.Numeral
import Mathlib.Data.List.Basic

/-!
# The times that are accepted

A time that is read in one of the accepted forms names a date of the calendar
and an offset of less than a day.  Only years without a sign have offsets, so
that no time leaves the calendar at its start.  At its end one can: on the last
day of the calendar, west of UTC.

An instant of the years 0 to 9999 is written in a form that is accepted: date,
time of day, the digits of the fraction without the zeros at its end, and the
zone.  Each of these parts is read back whatever follows it, so the whole is
read as the instant that was written.
-/

namespace ExamHall.Calendar

/-! ## Dates -/

/-- A date that is named is one of the calendar. -/
theorem Civil.instant?_eq_some {parts : Civil} {instant : Instant}
    (named : parts.instant? = some instant) :
    holds instant = true ∧ startOf parts.year ≤ instant := by
  unfold Civil.instant? at named
  split at named
  · next valid =>
      cases named
      obtain ⟨years, date⟩ := Civil.isValid_iff.mp valid
      exact ⟨date.holds_iff.mpr years, date.instant_bounds.1⟩
  · cases named

/-! ## What is read -/

/-- What holds of a time that is read in one of the accepted forms. -/
structure OffsetTime.IsRead (time : OffsetTime) : Prop where
  date : holds time.localTime = true
  offset : -1440 < time.offsetMinutes ∧ time.offsetMinutes < 1440
  year : time.offsetMinutes ≠ 0 → startOf 0 ≤ time.localTime

theorem readOffset?_bounds {cs rest : List Char} {offset : Int}
    (read : readOffset? cs = some (offset, rest)) :
    -1440 < offset ∧ offset < 1440 := by
  unfold readOffset? at read
  split at read
  · cases read
    decide
  · cases read
    decide
  · next sign cs _ _ =>
      split at read
      · simp only [Option.bind_eq_bind, Option.bind_eq_some_iff] at read
        obtain ⟨⟨⟨hours, minutes⟩, rest⟩, -, read⟩ := read
        split at read
        · next small =>
            obtain ⟨fewHours, fewMinutes⟩ : hours ≤ 23 ∧ minutes ≤ 59 := small
            cases read
            split <;> omega
        · cases read
      · cases read
  · cases read

theorem readZoned?_isRead {cs : List Char} {time : OffsetTime}
    (read : readZoned? cs = some time) :
    time.IsRead := by
  simp only [readZoned?, Option.bind_eq_bind, Option.bind_eq_some_iff] at read
  obtain ⟨⟨year, _⟩, -, _, -, read⟩ := read
  split at read
  · next separator rest _ =>
      by_cases ascii : separator.toNat < 128
      · rw [if_pos ascii, Option.bind_some] at read
        obtain ⟨_, -, read⟩ := Option.bind_eq_some_iff.mp read
        obtain ⟨_, -, read⟩ := Option.bind_eq_some_iff.mp read
        obtain ⟨_, -, read⟩ := Option.bind_eq_some_iff.mp read
        obtain ⟨_, -, read⟩ := Option.bind_eq_some_iff.mp read
        obtain ⟨⟨offset, _⟩, zone, read⟩ := Option.bind_eq_some_iff.mp read
        split at read
        · obtain ⟨localTime, named, read⟩ := Option.bind_eq_some_iff.mp read
          obtain ⟨inside, early⟩ := Civil.instant?_eq_some named
          split at read
          · cases read
          · cases read
            exact ⟨inside, readOffset?_bounds zone, fun _ =>
              Int.le_trans (startOf_mono (Int.natCast_nonneg year)) early⟩
        · cases read
      · rw [if_neg ascii] at read
        cases read
  · cases read

theorem readPlainWith?_holds {finish : List Char → Option (Nat × Nat)}
    {cs : List Char} {localTime : Instant}
    (read : readPlainWith? finish cs = some localTime) :
    holds localTime = true := by
  simp only [readPlainWith?, Option.bind_eq_bind, Option.bind_eq_some_iff]
    at read
  obtain ⟨_, -, _, -, _, -, _, -, _, -, named⟩ := read
  exact (Civil.instant?_eq_some named).1

theorem accepted?_isRead {text : String} {time : OffsetTime}
    (read : accepted? text = some time) :
    time.IsRead := by
  simp only [accepted?, Option.or_eq_some_iff, Option.map_eq_some_iff] at read
  obtain zoned | ⟨-, localTime, plain, rfl⟩ := read
  · exact readZoned?_isRead zoned
  · have inside : holds localTime = true := by
      obtain minutes | ⟨-, seconds⟩ := plain
      · exact readPlainWith?_holds minutes
      · exact readPlainWith?_holds seconds
    have utc : (-1440 : Int) < 0 ∧ (0 : Int) < 1440 := by decide
    exact ⟨inside, utc, fun zoned => absurd rfl zoned⟩

/-! ## The same times in UTC -/

variable {time : OffsetTime}

/-- No time leaves the calendar at its start. -/
theorem OffsetTime.IsRead.start_le_utc (read : time.IsRead) :
    start ≤ time.utc := by
  obtain ⟨date, offset, year⟩ := read
  simp only [holds, Bool.and_eq_true, decide_eq_true_eq] at date
  by_cases zone : time.offsetMinutes = 0
  · simpa [OffsetTime.utc, zone, Instant.le_def] using date.1
  · -- the calendar starts long before the years that have offsets
    have early := year zone
    have far : start.nanos + Instant.day ≤ (startOf 0).nanos := by decide
    rw [Instant.le_def] at early ⊢
    simp only [OffsetTime.utc, Instant.minute, Instant.day, Instant.second]
      at far ⊢
    omega

/-- The calendar holds a time in UTC exactly if the time does not leave it at
its end. -/
theorem OffsetTime.IsRead.holds_utc_iff (read : time.IsRead) :
    holds time.utc = true ↔ time.utc < stop := by
  rw [holds, decide_eq_true read.start_le_utc, Bool.true_and, decide_eq_true_eq]

theorem OffsetTime.IsRead.holds_utc_eq_false_iff (read : time.IsRead) :
    holds time.utc = false ↔ stop ≤ time.utc := by
  rw [← Bool.not_eq_true, read.holds_utc_iff]
  exact Int.not_lt

/-- A time that leaves the calendar is on its last day, west of UTC. -/
theorem OffsetTime.IsRead.of_stop_le_utc (read : time.IsRead)
    (late : stop ≤ time.utc) :
    time.offsetMinutes < 0 ∧
    stop.nanos - Instant.day < time.localTime.nanos := by
  obtain ⟨date, offset, -⟩ := read
  simp only [holds, Bool.and_eq_true, decide_eq_true_eq, Instant.lt_def] at date
  rw [Instant.le_def] at late
  simp only [OffsetTime.utc, Instant.minute, Instant.day, Instant.second]
    at late ⊢
  omega

/-! ## Written numbers -/

open ExamHall.Text

variable {rest : List Char}

theorem readFixed?_paddedNumeral {width number : Nat} (positive : 0 < width)
    (small : number < tenTo width) :
    readFixed? width (paddedNumeral width number ++ rest) =
      some (number, rest) := by
  have length := length_paddedNumeral width number
  have long : width ≤ (paddedNumeral width number ++ rest).length := by
    rw [List.length_append, length]
    exact Nat.le_add_right _ _
  rw [readFixed?, if_pos long, List.take_left' length, List.drop_left' length,
    readDigits?_paddedNumeral positive small]
  rfl

theorem readMonthDay?_monthDayChars {parts : Civil} (date : parts.IsDate) :
    readMonthDay? (monthDayChars parts ++ rest) =
      some ((parts.month, parts.day), rest) := by
  obtain ⟨-, fewMonths, -⟩ := month_of_day date.positive date.inside
  have fewDays := date.day_le
  have month : parts.month < tenTo 2 := fewMonths.trans_lt (by decide)
  have day : parts.day < tenTo 2 := fewDays.trans_lt (by decide)
  simp only [readMonthDay?, monthDayChars, List.cons_append, List.append_assoc,
    readChar?, if_true, Option.bind_eq_bind, Option.bind_some,
    readFixed?_paddedNumeral Nat.zero_lt_two month,
    readFixed?_paddedNumeral Nat.zero_lt_two day]

theorem readColonPair?_paddedNumeral {first second : Nat} (small : first < 60)
    (small' : second < 60) :
    readColonPair?
      (paddedNumeral 2 first ++ ':' :: (paddedNumeral 2 second ++ rest)) =
      some ((first, second), rest) := by
  have few : first < tenTo 2 := small.trans (by decide)
  have few' : second < tenTo 2 := small'.trans (by decide)
  simp only [readColonPair?, readChar?, if_true, Option.bind_eq_bind,
    Option.bind_some, readFixed?_paddedNumeral Nat.zero_lt_two few,
    readFixed?_paddedNumeral Nat.zero_lt_two few']

/-! ## Written fractions -/

/-- The digits of a fraction are all digits of its places but for zeros at the
end. -/
theorem fractionDigits_append (width value : Nat) :
    fractionDigits width value ++
      List.replicate (width - (fractionDigits width value).length) '0' =
      paddedNumeral width value ∧
    (fractionDigits width value).length ≤ width := by
  induction width generalizing value with
  | zero => exact ⟨rfl, Nat.le_refl 0⟩
  | succ width ih =>
      unfold fractionDigits
      split
      · next zero =>
          obtain ⟨padded, short⟩ := ih (value / 10)
          refine ⟨?_, Nat.le_succ_of_le short⟩
          have last : digitChar value = '0' := by
            rw [← digitChar_mod, zero]
            rfl
          rw [paddedNumeral, ← padded, last, Nat.succ_sub short,
            List.replicate_succ', List.append_assoc]
      · rw [length_paddedNumeral, Nat.sub_self]
        exact ⟨List.append_nil _, Nat.le_refl _⟩

theorem isDigit_of_mem_fractionDigits {width value : Nat} {c : Char}
    (inside : c ∈ fractionDigits width value) :
    (digitValue? c).isSome = true := by
  have written : c ∈ paddedNumeral width value :=
    (fractionDigits_append width value).1 ▸ List.mem_append_left _ inside
  obtain ⟨digit, rfl⟩ := mem_paddedNumeral written
  rw [← digitChar_mod, digitValue?_digitChar (Nat.mod_lt digit (by decide))]
  rfl

theorem fractionNanos_fractionDigits {value : Nat} (small : value < tenTo 9) :
    fractionNanos (fractionDigits 9 value) = some value := by
  obtain ⟨padded, short⟩ := fractionDigits_append 9 value
  rw [fractionNanos, List.take_of_length_le short, padded,
    readDigits?_paddedNumeral (by decide) small]

/-- A fraction is read back up to the zone, whether it has digits or is left
out. -/
theorem readFraction?_fractionDigits {value : Nat} (small : value < tenTo 9) :
    readFraction? ((if (fractionDigits 9 value).isEmpty then [] else '.' ::
      fractionDigits 9 value) ++ 'Z' :: rest) = some (value, 'Z' :: rest) := by
  have whole := fractionNanos_fractionDigits small
  by_cases empty : (fractionDigits 9 value).isEmpty = true
  · rw [if_pos empty]
    rw [List.isEmpty_iff.mp empty] at whole
    obtain rfl : 0 = value := Option.some.inj whole
    rfl
  · rw [if_neg empty]
    have digits : ∀ c ∈ fractionDigits 9 value, (digitValue? c).isSome = true :=
      fun _ => isDigit_of_mem_fractionDigits
    have taken : (fractionDigits 9 value ++ 'Z' :: rest).takeWhile
        (fun c => (digitValue? c).isSome) = fractionDigits 9 value :=
      (List.takeWhile_append_of_pos digits).trans (List.append_nil _)
    have dropped : (fractionDigits 9 value ++ 'Z' :: rest).dropWhile
        (fun c => (digitValue? c).isSome) = 'Z' :: rest :=
      List.dropWhile_append_of_pos digits
    simp only [List.cons_append, readFraction?]
    rw [taken, dropped, if_neg empty, whole]
    rfl

/-! ## Written times -/

/-- The characters of a date and a time of day of the years 0 to 9999. -/
theorem writtenChars_eq {parts : Civil} (date : parts.IsDate)
    (early : 0 ≤ parts.year) (late : parts.year ≤ lastYear) :
    writtenChars parts.instant = paddedNumeral 4 parts.year.toNat ++
      (monthDayChars parts ++ 'T' :: (paddedNumeral 2 parts.hour ++ ':' ::
        (paddedNumeral 2 parts.minute ++ ':' :: (paddedNumeral 2 parts.second ++
          ((if (fractionDigits 9 parts.nanosecond).isEmpty then []
            else '.' :: fractionDigits 9 parts.nanosecond) ++ ['Z']))))) := by
  unfold writtenChars
  rw [date.civil_instant]
  dsimp only
  rw [if_pos ⟨early, late⟩]
  simp only [clockChars, List.append_assoc, List.cons_append]

/-- What is written of a date of the years 0 to 9999 is read as its instant, in
UTC. -/
theorem readZoned?_writtenChars {parts : Civil} (date : parts.IsDate)
    (early : 0 ≤ parts.year) (late : parts.year ≤ lastYear) :
    readZoned? (writtenChars parts.instant) = some ⟨parts.instant, 0⟩ := by
  have named : parts.instant? = some parts.instant :=
    if_pos (Civil.isValid_iff.mpr ⟨⟨Int.le_trans (by decide) early, late⟩,
      date⟩)
  have years : parts.year.toNat < tenTo 4 := by
    have : tenTo 4 = 10000 := rfl
    simp only [lastYear] at late
    omega
  have seconds : parts.second < tenTo 2 := date.second.trans (by decide)
  have separator : 'T'.toNat < 128 := by decide
  have ordinary : (parts.second == 60) = false := beq_false_of_ne date.second.ne
  rw [writtenChars_eq date early late]
  simp only [readZoned?, Option.bind_eq_bind, Option.bind_some,
    readFixed?_paddedNumeral (by decide : 0 < 4) years,
    readMonthDay?_monthDayChars date, separator, if_true,
    readColonPair?_paddedNumeral (date.hour.trans (by decide)) date.minute,
    readChar?, readFixed?_paddedNumeral Nat.zero_lt_two seconds,
    readFraction?_fractionDigits date.nanosecond, readOffset?, List.isEmpty_nil,
    ordinary, Bool.false_and, Bool.false_eq_true, if_false,
    Int.toNat_of_nonneg early, named]

/-! ## Times that have a date of the years 0 to 9999 -/

/-- A time of the years 0 to 9999. -/
def IsCommon (instant : Instant) : Prop :=
  0 ≤ (civil instant).year ∧ (civil instant).year ≤ lastYear

theorem accepted?_written {instant : Instant} (common : IsCommon instant) :
    accepted? (written instant) = some ⟨instant, 0⟩ := by
  obtain ⟨same, date⟩ := civil_spec instant
  have read := readZoned?_writtenChars date common.1 common.2
  rw [same] at read
  rw [accepted?, written, String.toList_ofList, read]
  rfl

theorem accepted?_written_utc {instant : Instant} (common : IsCommon instant)
    {time : OffsetTime} (read : accepted? (written instant) = some time) :
    time.utc = instant := by
  obtain rfl := Option.some.inj ((accepted?_written common).symm.trans read)
  simp [OffsetTime.utc]

theorem IsCommon.holds {instant : Instant} (common : IsCommon instant) :
    holds instant = true := by
  obtain ⟨same, date⟩ := civil_spec instant
  have inside :=
    date.holds_iff.mpr ⟨Int.le_trans (by decide) common.1, common.2⟩
  rwa [same] at inside

/-- The dates of the years 0 to 9999 with their times of day, to the nanosecond,
are the instants that are written in a form that is accepted.  What is written
of one of them is read as that instant in UTC, so what is read has the order of
the instants, and different instants are written differently. -/
theorem written_times_are_read_back :
    (∀ parts : Civil, parts.isValid = true → 0 ≤ parts.year →
      IsCommon parts.instant ∧ civil parts.instant = parts) ∧
    (∀ instant, IsCommon instant → ∃ time,
      accepted? (written instant) = some time ∧ time.utc? = some instant) ∧
    ∀ early late, IsCommon early → IsCommon late →
      (∀ early' late', accepted? (written early) = some early' →
        accepted? (written late) = some late' →
        (early'.utc ≤ late'.utc ↔ early ≤ late) ∧
        (early'.utc = late'.utc ↔ early = late)) ∧
      (written early = written late ↔ early = late) := by
  refine ⟨fun parts valid early => ?_, fun instant common => ?_,
    fun early late common common' =>
      ⟨fun early' late' read read' => ?_, fun same => ?_, congrArg written⟩⟩
  · obtain ⟨⟨-, late⟩, date⟩ := Civil.isValid_iff.mp valid
    rw [IsCommon, date.civil_instant]
    exact ⟨⟨early, late⟩, rfl⟩
  · have read := accepted?_written common
    refine ⟨_, read, ?_⟩
    rw [OffsetTime.utc?, accepted?_written_utc common read, if_pos common.holds]
  · rw [accepted?_written_utc common read, accepted?_written_utc common' read']
    exact ⟨Iff.rfl, Iff.rfl⟩
  · obtain ⟨time, read⟩ : ∃ time, accepted? (written early) = some time :=
      ⟨_, accepted?_written common⟩
    exact (accepted?_written_utc common read).symm.trans
      (accepted?_written_utc common' (same ▸ read))

/-- The last second of a leap day, with a fraction that ends in zeros. -/
def leapNight : Civil :=
  ⟨2000, 2, 29, 23, 59, 59, 120000000⟩

theorem leapNight_is_read_back :
    leapNight.isValid = true ∧
    written leapNight.instant = "2000-02-29T23:59:59.12Z" ∧ ∃ time,
      accepted? "2000-02-29T23:59:59.12Z" = some time ∧
      time.utc? = some leapNight.instant := by
  have valid : leapNight.isValid = true := by decide
  have text : written leapNight.instant = "2000-02-29T23:59:59.12Z" := by
    decide +kernel
  obtain ⟨dates, times, -⟩ := written_times_are_read_back
  exact ⟨valid, text, text ▸ times _ (dates _ valid (by decide)).1⟩

end ExamHall.Calendar
