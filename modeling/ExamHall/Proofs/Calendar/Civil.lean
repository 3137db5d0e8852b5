import ExamHall.Calendar.Instant
import Mathlib.Tactic.IntervalCases

/-!
# Dates

An instant has one date and one time of day, and these have one instant.  A date
lies between the start of its year and the start of the next one, and the years
follow one another.
-/

namespace ExamHall.Calendar

/-! ## Years -/

/-- The start of a year. -/
def startOf (year : Int) : Instant :=
  Civil.instant ⟨year, 1, 1, 0, 0, 0, 0⟩

theorem startOf_nanos (year : Int) :
    (startOf year).nanos = (daysBeforeYear year - epochDay) * Instant.day := by
  simp [startOf, Civil.instant, daysBeforeMonth]

/-- The number of days of a year. -/
def yearLength (year : Int) : Int :=
  if isLeap year then 366 else 365

theorem daysBeforeYear_succ (year : Int) :
    daysBeforeYear (year + 1) = daysBeforeYear year + yearLength year := by
  simp only [daysBeforeYear, yearLength, isLeap, Bool.and_eq_true,
    Bool.or_eq_true, bne_iff_ne, beq_iff_eq, ne_eq]
  split <;> omega

theorem daysBeforeYear_mono {early late : Int} (order : early ≤ late) :
    daysBeforeYear early ≤ daysBeforeYear late := by
  simp only [daysBeforeYear]
  omega

theorem startOf_mono {early late : Int} (order : early ≤ late) :
    startOf early ≤ startOf late := by
  have days := daysBeforeYear_mono order
  rw [Instant.le_def, startOf_nanos, startOf_nanos]
  simp only [Instant.day, Instant.second]
  omega

/-- A day by the cycles of the calendar: of four hundred years, of a hundred and
of four, and single years.  The last of them may be longer than the others. -/
theorem yearOfDay_cycles (day : Int) :
    ∃ (cycle century quad past : Int) (yearDay : Nat), yearOfDay day =
        (400 * cycle + 100 * century + 4 * quad + past + 1, yearDay) ∧
      day =
        146097 * cycle + 36524 * century + 1461 * quad + 365 * past + yearDay ∧
      (0 ≤ century ∧ century ≤ 3) ∧ (0 ≤ quad ∧ quad ≤ 24) ∧
      (0 ≤ past ∧ past ≤ 3) ∧
      (yearDay < 365 ∨ yearDay = 365 ∧ past = 3 ∧
        (quad = 24 → century = 3)) := by
  refine ⟨_, _, _, _, _, rfl, ?_⟩
  have whole := Int.mul_ediv_add_emod day 146097
  have start := Int.emod_nonneg day (by decide : (146097 : Int) ≠ 0)
  have stop := Int.emod_lt_of_pos day (by decide : (0 : Int) < 146097)
  generalize day / 146097 = cycle at whole
  generalize day % 146097 = inCycle at whole start stop
  have centuries : 0 ≤ min (inCycle / 36524) 3 ∧ min (inCycle / 36524) 3 ≤ 3 ∧
      0 ≤ inCycle - min (inCycle / 36524) 3 * 36524 ∧
      inCycle - min (inCycle / 36524) 3 * 36524 ≤ 36524 ∧
      (inCycle - min (inCycle / 36524) 3 * 36524 = 36524 →
        min (inCycle / 36524) 3 = 3) := by
    omega
  generalize min (inCycle / 36524) 3 = century at centuries
  obtain ⟨least, most, start', stop', last⟩ := centuries
  have split : inCycle = century * 36524 + (inCycle - century * 36524) := by
    omega
  generalize inCycle - century * 36524 = inCentury at start' stop' last split
  have quads := Int.mul_ediv_add_emod inCentury 1461
  have low : 0 ≤ inCentury / 1461 ∧ inCentury / 1461 ≤ 24 := by omega
  generalize inCentury / 1461 = quad at quads low
  have inQuad : 0 ≤ inCentury - quad * 1461 ∧
    inCentury - quad * 1461 ≤ 1460 := by omega
  have split' : inCentury = quad * 1461 + (inCentury - quad * 1461) := by omega
  generalize inCentury - quad * 1461 = inQuad at inQuad split'
  omega

/-- The year of a day and the day's number in it are those of the day. -/
theorem yearOfDay_spec (day : Int) :
    daysBeforeYear (yearOfDay day).1 + (yearOfDay day).2 = day ∧
      ((yearOfDay day).2 : Int) < yearLength (yearOfDay day).1 := by
  obtain ⟨cycle, century, quad, past, yearDay, named, same, centuries, quads,
      years, short⟩ :=
    yearOfDay_cycles day
  rw [named]
  simp only [daysBeforeYear, yearLength, isLeap, Bool.and_eq_true,
    Bool.or_eq_true, bne_iff_ne, beq_iff_eq, ne_eq]
  constructor
  · have fours : (400 * cycle + 100 * century + 4 * quad + past + 1 - 1) / 4 =
        100 * cycle + 25 * century + quad := by omega
    have hundreds : (400 * cycle + 100 * century + 4 * quad + past + 1 - 1) /
      100 = 4 * cycle + century := by omega
    have cycles : (400 * cycle + 100 * century + 4 * quad + past + 1 - 1) /
      400 = cycle := by omega
    rw [fours, hundreds, cycles]
    omega
  · split <;> omega

/-- Years do not overlap, so a day lies in one of them only. -/
theorem yearOfDay_eq {year : Int} {yearDay : Nat}
    (inside : (yearDay : Int) < yearLength year) :
    yearOfDay (daysBeforeYear year + yearDay) = (year, yearDay) := by
  obtain ⟨same, inside'⟩ := yearOfDay_spec (daysBeforeYear year + yearDay)
  generalize yearOfDay (daysBeforeYear year + yearDay) = parts at same inside' ⊢
  obtain ⟨year', yearDay'⟩ := parts
  dsimp only at same inside'
  have sameYear : year' = year := by
    rcases Int.lt_trichotomy year' year with early | same | late
    · have := daysBeforeYear_succ year' ▸
        daysBeforeYear_mono (Int.add_one_le_of_lt early)
      omega
    · exact same
    · have := daysBeforeYear_succ year ▸
        daysBeforeYear_mono (Int.add_one_le_of_lt late)
      omega
  subst sameYear
  congr
  omega

/-! ## Months -/

theorem monthOfDay_eq {lengths : List Nat} {passed length day : Nat}
    (first : Nat) (named : lengths[passed]? = some length)
    (inside : day < length) :
    monthOfDay lengths first ((lengths.take passed).sum + day) =
      (first + passed, day + 1) := by
  induction lengths generalizing first passed with
  | nil => cases named
  | cons head rest ih =>
      cases passed with
      | zero =>
          obtain rfl := Option.some.inj named
          simp [monthOfDay, inside]
      | succ passed =>
          have later := ih (first + 1) named
          have ahead : ¬head + (rest.take passed).sum + day < head := by omega
          rw [List.take_succ_cons, List.sum_cons, monthOfDay, if_neg ahead,
            Nat.add_assoc, Nat.add_sub_cancel_left, later, Nat.add_right_comm,
            Nat.add_assoc]

theorem exists_monthOfDay {lengths : List Nat} {day : Nat}
    (inside : day < lengths.sum) :
    ∃ passed length rest, lengths[passed]? = some length ∧ rest < length ∧
      day = (lengths.take passed).sum + rest := by
  induction lengths generalizing day with
  | nil => cases inside
  | cons head tail ih =>
      by_cases here : day < head
      · exact ⟨0, head, day, rfl, here, by simp⟩
      · rw [List.sum_cons] at inside
        obtain ⟨passed, length, rest, named, short, same⟩ :=
          @ih (day - head) (by omega)
        refine ⟨passed + 1, length, rest, named, short, ?_⟩
        rw [List.take_succ_cons, List.sum_cons]
        omega

theorem daysBeforeMonth_eq (year : Int) (month : Nat) :
    daysBeforeMonth year month = ((monthLengths year).take (month - 1)).sum :=
  List.sum_eq_foldl.symm

theorem sum_monthLengths (year : Int) :
    ((monthLengths year).sum : Int) = yearLength year := by
  unfold monthLengths yearLength
  cases isLeap year <;> rfl

/-- A day of a month has a month to be in. -/
theorem month_of_day {year : Int} {month day : Nat} (positive : 1 ≤ day)
    (inside : day ≤ monthLength year month) :
    1 ≤ month ∧ month ≤ 12 ∧
    (monthLengths year)[month - 1]? = some (monthLength year month) := by
  unfold monthLength at inside ⊢
  split at inside
  · omega
  · next named =>
      rw [if_neg named]
      cases found : (monthLengths year)[month - 1]? with
      | none =>
          rw [found] at inside
          exact absurd (positive.trans inside) (by decide)
      | some length =>
          obtain ⟨short, -⟩ := List.getElem?_eq_some_iff.mp found
          simp only [monthLengths, List.length_cons, List.length_nil] at short
          exact ⟨by omega, by omega, rfl⟩

/-- The days of a month come before the end of the year. -/
theorem daysBeforeMonth_add_le {year : Int} {month day : Nat}
    (positive : 1 ≤ day) (inside : day ≤ monthLength year month) :
    (daysBeforeMonth year month + day : Int) ≤ yearLength year := by
  obtain ⟨first, last, -⟩ := month_of_day positive inside
  unfold monthLength monthLengths at inside
  unfold daysBeforeMonth yearLength monthLengths
  cases leap : isLeap year <;> interval_cases month <;>
    simp [leap] at inside ⊢ <;> omega

/-! ## Instants -/

/-- The parts name a date of their year and a time of day. -/
structure Civil.IsDate (parts : Civil) : Prop where
  positive : 1 ≤ parts.day
  inside : parts.day ≤ monthLength parts.year parts.month
  hour : parts.hour < 24
  minute : parts.minute < 60
  second : parts.second < 60
  nanosecond : parts.nanosecond < 1000000000

theorem Civil.IsDate.day_le {parts : Civil} (date : parts.IsDate) :
    parts.day ≤ 31 := by
  obtain ⟨-, -, named⟩ := month_of_day date.positive date.inside
  have length := List.mem_of_getElem? named
  have short : ∀ length ∈ monthLengths parts.year, length ≤ 31 := by
    unfold monthLengths
    cases isLeap parts.year <;> decide
  exact date.inside.trans (short _ length)

theorem Civil.isValid_iff {parts : Civil} :
    parts.isValid = true ↔ (firstYear ≤ parts.year ∧ parts.year ≤ lastYear) ∧
    parts.IsDate := by
  simp only [Civil.isValid, Bool.and_eq_true, decide_eq_true_eq]
  constructor
  · rintro ⟨⟨⟨⟨⟨⟨years, positive⟩, inside⟩, hour⟩, minute⟩, second⟩, nanosecond⟩
    exact ⟨years, positive, inside, hour, minute, second, nanosecond⟩
  · rintro ⟨years, positive, inside, hour, minute, second, nanosecond⟩
    exact ⟨⟨⟨⟨⟨⟨years, positive⟩, inside⟩, hour⟩, minute⟩, second⟩, nanosecond⟩

/-- The day of a date, counted from the start of year 1. -/
def Civil.dayNumber (parts : Civil) : Int :=
  daysBeforeYear parts.year + daysBeforeMonth parts.year parts.month +
    (parts.day - 1)

/-- The nanoseconds of a time of day. -/
def Civil.timeOfDay (parts : Civil) : Int :=
  (parts.hour * 3600 + parts.minute * 60 + parts.second : Nat) *
    Instant.second + parts.nanosecond

theorem Civil.instant_nanos (parts : Civil) :
    parts.instant.nanos =
      (parts.dayNumber - epochDay) * Instant.day + parts.timeOfDay := by
  simp only [Civil.instant, Civil.dayNumber, Civil.timeOfDay, Int.add_assoc]

variable {parts : Civil}

theorem Civil.IsDate.timeOfDay_bounds (date : parts.IsDate) :
    0 ≤ parts.timeOfDay ∧ parts.timeOfDay < Instant.day := by
  obtain ⟨-, -, hour, minute, second, nanosecond⟩ := date
  simp only [Civil.timeOfDay, Instant.day, Instant.second]
  omega

/-- Hours, minutes, seconds and nanoseconds are read off a time of day. -/
theorem Civil.IsDate.timeOfDay_parts (date : parts.IsDate) :
    (parts.timeOfDay / (3600 * Instant.second)).toNat = parts.hour ∧
      (parts.timeOfDay / Instant.minute % 60).toNat = parts.minute ∧
      (parts.timeOfDay / Instant.second % 60).toNat = parts.second ∧
      (parts.timeOfDay % Instant.second).toNat = parts.nanosecond := by
  obtain ⟨-, -, hour, minute, second, nanosecond⟩ := date
  simp only [Civil.timeOfDay, Instant.minute, Instant.second]
  omega

/-- The date and the time of day of an instant are those that name it. -/
theorem Civil.IsDate.civil_instant (date : parts.IsDate) :
    civil parts.instant = parts := by
  obtain ⟨nonneg, short⟩ := date.timeOfDay_bounds
  have positive : 0 < Instant.day := by decide
  have days :
      parts.instant.nanos / Instant.day = parts.dayNumber - epochDay := by
    rw [parts.instant_nanos, Int.add_comm,
      Int.add_mul_ediv_right _ _ positive.ne',
      Int.ediv_eq_zero_of_lt nonneg short, Int.zero_add]
  have time : parts.instant.nanos % Instant.day = parts.timeOfDay := by
    rw [parts.instant_nanos, Int.add_comm, Int.add_mul_emod_self_right,
      Int.emod_eq_of_lt nonneg short]
  obtain ⟨first, -, named⟩ := month_of_day date.positive date.inside
  have before := daysBeforeMonth_add_le date.positive date.inside
  have positive := date.positive
  have day : parts.dayNumber = daysBeforeYear parts.year +
      (daysBeforeMonth parts.year parts.month + (parts.day - 1) : Nat) := by
    rw [Civil.dayNumber]
    omega
  have year := @yearOfDay_eq parts.year
    (daysBeforeMonth parts.year parts.month + (parts.day - 1)) (by omega)
  have month := @monthOfDay_eq (monthLengths parts.year) (parts.month - 1) _
    (parts.day - 1) 1 named (Nat.sub_one_lt_of_le positive date.inside)
  rw [← daysBeforeMonth_eq, Nat.add_sub_cancel' first,
    Nat.sub_add_cancel positive] at month
  obtain ⟨hour, minute, second, nanosecond⟩ := date.timeOfDay_parts
  unfold civil
  rw [days, time, Int.sub_add_cancel, day, year]
  dsimp only
  rw [month, hour, minute, second, nanosecond]

/-- An instant is the one that its date and its time of day name. -/
theorem civil_spec (instant : Instant) :
    (civil instant).instant = instant ∧ (civil instant).IsDate := by
  have whole := Int.mul_ediv_add_emod instant.nanos Instant.day
  have nonneg := Int.emod_nonneg instant.nanos (by decide : Instant.day ≠ 0)
  have short := Int.emod_lt_of_pos instant.nanos (by decide : 0 < Instant.day)
  obtain ⟨sameDay, inYear⟩ :=
    yearOfDay_spec (instant.nanos / Instant.day + epochDay)
  unfold civil
  generalize yearOfDay (instant.nanos / Instant.day + epochDay) =
    found at sameDay inYear
  obtain ⟨year, yearDay⟩ := found
  dsimp only at sameDay inYear
  rw [← sum_monthLengths] at inYear
  obtain ⟨passed, length, rest, named, inMonth, same⟩ :=
    exists_monthOfDay (Int.ofNat_lt.mp inYear)
  have month := monthOfDay_eq 1 named inMonth
  have lengthOf : monthLength year (1 + passed) = length := by
    rw [monthLength, if_neg (by omega), Nat.add_sub_cancel_left, named,
      Option.getD_some]
  dsimp only
  rw [same, month]
  rw [same, ← Nat.add_sub_cancel_left 1 passed, ← daysBeforeMonth_eq] at sameDay
  simp only [Instant.day, Instant.minute, Instant.second] at *
  constructor
  · refine congrArg Instant.mk (?_ : _ = instant.nanos)
    simp only [Instant.day, Instant.second]
    push_cast at sameDay ⊢
    omega
  · refine ⟨Nat.succ_pos rest, lengthOf.symm ▸ inMonth, ?_, ?_, ?_, ?_⟩ <;>
      dsimp only <;> omega

/-- A date lies in its year. -/
theorem Civil.IsDate.instant_bounds (date : parts.IsDate) :
    startOf parts.year ≤ parts.instant ∧
    parts.instant < startOf (parts.year + 1) := by
  obtain ⟨nonneg, short⟩ := date.timeOfDay_bounds
  have positive := date.positive
  have days := daysBeforeMonth_add_le date.positive date.inside
  rw [Instant.le_def, Instant.lt_def, startOf_nanos, startOf_nanos,
    daysBeforeYear_succ, parts.instant_nanos, Civil.dayNumber]
  simp only [Instant.day, Instant.second] at short ⊢
  omega

theorem Civil.IsDate.startOf_le_iff (date : parts.IsDate) (year : Int) :
    startOf year ≤ parts.instant ↔ year ≤ parts.year := by
  obtain ⟨early, late⟩ := date.instant_bounds
  constructor
  · intro begun
    by_contra past
    exact Int.not_lt.mpr (Int.le_trans
        (startOf_mono (Int.add_one_le_of_lt (Int.not_le.mp past))) begun) late
  · exact fun begun => Int.le_trans (startOf_mono begun) early

/-- The calendar holds a date if it has its year. -/
theorem Civil.IsDate.holds_iff (date : parts.IsDate) :
    holds parts.instant = true ↔ firstYear ≤ parts.year ∧
    parts.year ≤ lastYear := by
  have past : parts.instant < stop ↔ parts.year ≤ lastYear := by
    rw [← Int.lt_add_one_iff, ← Int.not_le, ← date.startOf_le_iff]
    exact Int.not_le.symm
  simp only [holds, Bool.and_eq_true, decide_eq_true_eq]
  exact and_congr (date.startOf_le_iff firstYear) past

end ExamHall.Calendar
