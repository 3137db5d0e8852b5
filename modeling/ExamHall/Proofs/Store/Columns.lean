import ExamHall.Attempt.Rules
import ExamHall.Proofs.Decimal.Rounding
import ExamHall.Store.Column

/-!
# What columns keep

A column tells the time to the microsecond, and drops the rest towards the start
of the year 2000.  That keeps the order of times.  The length of a span of whole
minutes it keeps as well, unless the span begins before the year 2000 and ends
in it: then a microsecond can get lost.

A column keeps an amount rounded to hundredths if it stays below the bound of
the column.
-/

namespace ExamHall

namespace Column

theorem tdiv_thousand (number : Int) :
    number.tdiv 1000 = number / 1000 + if 0 ≤ number ∨ 1000 ∣ number then 0
    else 1 :=
  Int.tdiv_eq_ediv

theorem time_mono {early late : Instant} (order : early ≤ late) :
    time early ≤ time late := by
  simp only [Instant.le_def, time, tdiv_thousand] at order ⊢
  split <;> split <;> omega

/-- A time that has been kept once stays as it is. -/
@[simp] theorem time_time (instant : Instant) :
    time (time instant) = time instant := by
  have moved : origin.nanos + (instant.nanos - origin.nanos).tdiv 1000 * 1000 -
    origin.nanos = (instant.nanos - origin.nanos).tdiv 1000 * 1000 := by omega
  simp only [time, moved]
  rw [Int.mul_tdiv_cancel _ (by decide)]

theorem time_le {instant : Instant} (since : origin ≤ instant) :
    time instant ≤ instant := by
  simp only [Instant.le_def, time, tdiv_thousand] at since ⊢
  split <;> omega

theorem time_lt (instant : Instant) :
    (time instant).nanos < instant.nanos + 1000 := by
  simp only [time, tdiv_thousand]
  split <;> omega

theorem time_lt_of_lt {early late : Instant} (order : early < late)
    (kept : time late = late) : time early ≤ late := by
  rw [← kept]
  exact time_mono (Int.le_of_lt order)

theorem keeps_eq_true {instant : Instant} :
    keeps instant = true ↔ earliest ≤ time instant ∧ time instant < limit := by
  rw [keeps, Bool.and_eq_true, decide_eq_true_eq, decide_eq_true_eq]

theorem timestamp_eq_ok {instant kept : Instant} :
    timestamp instant = .ok kept ↔ keeps instant = true ∧
    kept = time instant := by
  unfold timestamp
  split
  · next fits => simp [fits, eq_comm]
  · next unfit => simp [unfit]

end Column

/-- A deadline is so many minutes after the start, or a microsecond earlier if
the span between them takes in the start of the year 2000. -/
def IsDeadline (startedAt : Instant) (durationMinutes : Int)
    (deadlineAt : Instant) : Prop :=
  deadlineAt.nanos = startedAt.nanos + durationMinutes * Instant.minute ∨
    startedAt ≤ Column.origin ∧ Column.origin ≤ deadlineAt ∧
    deadlineAt.nanos + 1000 = startedAt.nanos + durationMinutes * Instant.minute

theorem deadline?_nanos {startedAt deadlineAt : Instant} {durationMinutes : Int}
    (positive : 0 < durationMinutes)
    (due : deadline? startedAt durationMinutes = some deadlineAt) :
    deadlineAt.nanos = startedAt.nanos + durationMinutes * Instant.minute := by
  unfold deadline? Calendar.shift? at due
  dsimp only at due
  split at due
  · cases due
    rw [Int.max_eq_left (Int.le_of_lt positive)]
  · cases due

/-- There is no deadline only if it would be outside the calendar. -/
theorem deadline?_eq_none {startedAt : Instant} {durationMinutes : Int}
    (positive : 0 < durationMinutes)
    (endless : deadline? startedAt durationMinutes = none) :
    Calendar.holds ⟨startedAt.nanos + durationMinutes * Instant.minute⟩ =
      false := by
  unfold deadline? Calendar.shift? at endless
  rw [Int.max_eq_left (Int.le_of_lt positive)] at endless
  dsimp only at endless
  split at endless
  · cases endless
  · next outside => exact Bool.eq_false_iff.mpr outside

theorem isDeadline_time {startedAt deadlineAt : Instant} {durationMinutes : Int}
    (positive : 0 < durationMinutes)
    (due : deadline? startedAt durationMinutes = some deadlineAt) :
    IsDeadline (Column.time startedAt) durationMinutes
      (Column.time deadlineAt) := by
  have span := deadline?_nanos positive due
  simp only [IsDeadline, Instant.le_def, Column.time, span, Instant.minute,
    Instant.second, Column.tdiv_thousand]
  split <;> split <;> omega

theorem IsDeadline.le {startedAt deadlineAt : Instant} {durationMinutes : Int}
    (positive : 0 < durationMinutes)
    (deadline : IsDeadline startedAt durationMinutes deadlineAt) :
    startedAt ≤ deadlineAt := by
  simp only [IsDeadline, Instant.le_def, Instant.minute, Instant.second]
    at deadline ⊢
  omega

end ExamHall

namespace ExamHall.Column

open Decimal

theorem natAbs_coefficient_lt {value : Decimal} {bound : Nat} :
    value.coefficient.natAbs < bound * tenTo value.scale ↔
      |value.toRat| < bound := by
  rw [toRat, abs_div, abs_of_pos (cast_tenTo_pos _),
    div_lt_iff₀ (cast_tenTo_pos _), ← Int.cast_abs, ← Int.natCast_natAbs]
  norm_cast

theorem toRat_of_coefficient_eq_zero {value : Decimal}
    (zero : value.coefficient = 0) : value.toRat = 0 := by
  rw [toRat, zero, Int.cast_zero, zero_div]

/-- What a column keeps of an amount. -/
theorem amount_eq_ok {bound : Nat} {value stored : Decimal}
    (positive : 0 < bound) (kept : amount bound value = .ok stored) :
    stored.toRat = roundCents value.toRat ∧ stored.scale ≤ 2 ∧
    |stored.toRat| < bound := by
  unfold amount at kept
  dsimp only at kept
  split at kept
  · next zero =>
      cases kept
      refine ⟨?_, Nat.zero_le 2, ?_⟩
      · rw [← toRat_roundPoints, toRat_of_coefficient_eq_zero zero, toRat_zero]
      · rw [toRat_zero, abs_zero]
        exact Nat.cast_pos.mpr positive
  · split at kept
    · next below =>
        cases kept
        exact ⟨toRat_roundPoints value, scale_roundPoints_le value,
          natAbs_coefficient_lt.mp below⟩
    · cases kept

theorem exists_amount {bound : Nat} {value : Decimal} (amount : value.IsAmount)
    (small : value.toRat < bound) :
    ∃ stored, Column.amount bound value = .ok stored ∧
      stored.toRat = value.toRat ∧ stored.scale ≤ 2 := by
  unfold Column.amount
  dsimp only
  split
  · next zero =>
      refine ⟨Decimal.zero, rfl, ?_, Nat.zero_le 2⟩
      rw [← amount.toRat_roundPoints, toRat_of_coefficient_eq_zero zero,
        toRat_zero]
  · have below : |(roundPoints value).toRat| < bound := by
      rw [amount.toRat_roundPoints, abs_of_nonneg amount.nonneg]
      exact small
    refine ⟨roundPoints value, if_pos (natAbs_coefficient_lt.mpr below),
      amount.toRat_roundPoints, scale_roundPoints_le value⟩

/-- The bound of the columns of points. -/
abbrev pointsBound : Nat := tenTo 8

theorem points_eq_ok {value stored : Decimal}
    (kept : points value = .ok stored) :
    stored.toRat = roundCents value.toRat ∧ stored.scale ≤ 2 ∧
    |stored.toRat| < pointsBound :=
  amount_eq_ok (tenTo_pos 8) kept

/-- A column of points keeps an amount as it is. -/
theorem toRat_of_points {value stored : Decimal} (amount : value.IsAmount)
    (kept : points value = .ok stored) : stored.toRat = value.toRat := by
  rw [(points_eq_ok kept).1, ← toRat_roundPoints, amount.toRat_roundPoints]

theorem exists_points {value : Decimal} (amount : value.IsAmount)
    (small : value.toRat < pointsBound) :
    ∃ stored, points value = .ok stored ∧ stored.toRat = value.toRat ∧
      stored.scale ≤ 2 :=
  exists_amount amount small

theorem toRat_of_percent {value stored : Decimal} (amount : value.IsAmount)
    (kept : percent value = .ok stored) : stored.toRat = value.toRat := by
  rw [(amount_eq_ok (tenTo_pos 3) kept).1, ← toRat_roundPoints,
    amount.toRat_roundPoints]

theorem exists_percent {value : Decimal} (amount : value.IsAmount)
    (small : value.toRat ≤ 100) :
    ∃ stored, percent value = .ok stored ∧ stored.toRat = value.toRat := by
  have below : value.toRat < (tenTo 3 : Nat) := by
    norm_num [tenTo]
    linarith
  obtain ⟨stored, kept, same, -⟩ := exists_amount amount below
  exact ⟨stored, kept, same⟩

end ExamHall.Column
