import ExamHall.Grading.Outcome
import ExamHall.Proofs.Decimal.Value

/-!
# Rounding of points

Points are rounded to whole hundredths, a half away from zero.  Rounding is a
function of the value alone: it finds the nearest hundredth, keeps signs and the
order, and leaves amounts as they are.
-/

namespace ExamHall

/-- The nearest whole number of hundredths, a half away from zero. -/
def roundCents (value : ℚ) : ℚ :=
  if 0 ≤ value then round (100 * value) / 100 else -(round (100 * -value) / 100)

theorem roundCents_of_nonneg {value : ℚ} (nonneg : 0 ≤ value) :
    roundCents value = round (100 * value) / 100 :=
  if_pos nonneg

/-- A whole number of hundredths is one of those nearest to a value, and if
there are two of them the one farther from zero. -/
structure IsNearestCent (value rounded : ℚ) : Prop where
  whole : ∃ cents : ℤ, rounded = cents / 100
  nearest : ∀ cents : ℤ, |rounded - value| ≤ |cents / 100 - value|
  away : ∀ cents : ℤ, |cents / 100 - value| = |rounded - value| →
    |(cents / 100 : ℚ)| ≤ |rounded|

namespace IsNearestCent

variable {value other rounded rounded' : ℚ}

theorem unique (nearest : IsNearestCent value rounded)
    (nearest' : IsNearestCent value rounded') : rounded = rounded' := by
  obtain ⟨cents, whole⟩ := nearest.whole
  obtain ⟨cents', whole'⟩ := nearest'.whole
  have near : |rounded - value| = |rounded' - value| :=
    le_antisymm (whole' ▸ nearest.nearest cents')
      (whole ▸ nearest'.nearest cents)
  have far : |rounded| = |rounded'| :=
    le_antisymm (whole ▸ nearest'.away cents (whole ▸ near))
      (whole' ▸ nearest.away cents' (whole' ▸ near.symm))
  rcases abs_eq_abs.mp far with same | opposite
  · exact same
  · -- Only zero has a value in the middle between itself and its opposite.
    rw [opposite] at near ⊢
    rcases abs_eq_abs.mp near with same | mirrored
    · linarith
    · have centre := nearest'.nearest 0
      have : value = 0 := by linarith
      rw [this, Int.cast_zero, zero_div, sub_zero, sub_zero, abs_zero] at centre
      rw [abs_nonpos_iff.mp centre, neg_zero]

theorem neg (nearest : IsNearestCent value rounded) :
    IsNearestCent (-value) (-rounded) := by
  have mirror : ∀ number : ℚ, |-number - -value| = |number - value| :=
    fun number => by
    rw [neg_sub_neg, abs_sub_comm]
  have mirror' : ∀ cents : ℤ, |cents / 100 - -value| =
      |((-cents : ℤ) : ℚ) / 100 - value| := fun cents => by
    rw [← mirror, Int.cast_neg, neg_div, neg_neg]
  obtain ⟨cents, whole⟩ := nearest.whole
  refine ⟨⟨-cents, by rw [whole, Int.cast_neg, neg_div]⟩, fun cents => ?_,
    fun cents tie => ?_⟩
  · rw [mirror, mirror']
    exact nearest.nearest (-cents)
  · rw [mirror, mirror'] at tie
    have far := nearest.away (-cents) tie
    rwa [Int.cast_neg, neg_div, abs_neg, ← abs_neg rounded] at far

/-- Of two values the larger one has no smaller nearest hundredth: otherwise
both of them were in the middle between the two hundredths. -/
theorem mono (nearest : IsNearestCent value rounded)
    (nearest' : IsNearestCent other rounded') (less : value ≤ other) :
    rounded ≤ rounded' := by
  by_contra swapped
  obtain ⟨cents, whole⟩ := nearest.whole
  obtain ⟨cents', whole'⟩ := nearest'.whole
  have below := sq_le_sq.mpr (whole' ▸ nearest.nearest cents')
  have above := sq_le_sq.mpr (whole ▸ nearest'.nearest cents)
  have same : value = other := by nlinarith
  exact swapped (nearest.unique (same ▸ nearest')).le

theorem eq_of_whole (nearest : IsNearestCent value rounded) {cents : ℤ}
    (whole : value = cents / 100) : rounded = value := by
  have near := nearest.nearest cents
  rw [← whole, sub_self, abs_zero] at near
  exact sub_eq_zero.mp (abs_nonpos_iff.mp near)

end IsNearestCent

theorem isNearestCent_of_nonneg {value : ℚ} (nonneg : 0 ≤ value) :
    IsNearestCent value (round (100 * value) / 100) := by
  obtain ⟨low, high⟩ := Int.floor_eq_iff.mp (round_eq (100 * value)).symm
  generalize round (100 * value) = steps at low high ⊢
  have near : |(steps / 100 : ℚ) - value| ≤ 1 / 200 :=
    abs_le.mpr ⟨by linarith, by linarith⟩
  have later : ∀ cents : ℤ, steps < cents →
      1 / 200 < |(cents / 100 : ℚ) - value| := by
    intro cents more
    have more : (steps + 1 : ℚ) ≤ cents := by exact_mod_cast more
    exact lt_abs.mpr (.inl (by linarith))
  have earlier : ∀ cents : ℤ, cents < steps →
      1 / 200 ≤ |(cents / 100 : ℚ) - value| := by
    intro cents fewer
    have fewer : (cents + 1 : ℚ) ≤ steps := by exact_mod_cast fewer
    exact le_abs.mpr (.inr (by linarith))
  refine ⟨⟨steps, rfl⟩, fun cents => ?_, fun cents tie => ?_⟩
  · rcases lt_trichotomy cents steps with fewer | rfl | more
    · exact near.trans (earlier cents fewer)
    · exact le_refl _
    · exact near.trans (later cents more).le
  · rcases lt_trichotomy cents steps with fewer | rfl | more
    · have low := (abs_le.mp (tie ▸ near)).1
      have nonneg : (0 : ℚ) ≤ cents := by
        have : (-1 : ℚ) < cents := by linarith
        have : -1 < cents := by exact_mod_cast this
        exact_mod_cast this
      have fewer : (cents : ℚ) ≤ steps := by exact_mod_cast fewer.le
      exact abs_le_abs_of_nonneg (by positivity) (by linarith)
    · exact le_refl _
    · exact absurd (tie ▸ later cents more) near.not_gt

theorem isNearestCent_roundCents (value : ℚ) :
    IsNearestCent value (roundCents value) := by
  unfold roundCents
  split
  · next nonneg => exact isNearestCent_of_nonneg nonneg
  · next negative =>
      have mirrored :=
        isNearestCent_of_nonneg (neg_nonneg.mpr (le_of_not_ge negative))
      rw [← neg_neg value]
      simpa only [neg_neg] using mirrored.neg

theorem roundCents_mono {left right : ℚ} (less : left ≤ right) :
    roundCents left ≤ roundCents right :=
  (isNearestCent_roundCents left).mono (isNearestCent_roundCents right) less

theorem roundCents_cents (cents : ℕ) :
    roundCents (cents / 100) = cents / 100 := by
  apply (isNearestCent_roundCents _).eq_of_whole
  rw [← Int.cast_natCast cents]

/-- What is not negative after rounding is an amount. -/
theorem exists_cents_of_roundCents {value : ℚ} (nonneg : 0 ≤ roundCents value) :
    ∃ cents : ℕ, roundCents value = cents / 100 := by
  obtain ⟨cents, whole⟩ := (isNearestCent_roundCents value).whole
  rw [whole] at nonneg ⊢
  have nonneg : (0 : ℚ) ≤ cents := by linarith
  refine ⟨cents.toNat, ?_⟩
  congr 1
  exact_mod_cast (Int.toNat_of_nonneg (by exact_mod_cast nonneg)).symm

/-! ## Half cents -/

/-- Half-way between two whole numbers of hundredths. -/
def IsHalfCent (value : ℚ) : Prop :=
  ∃ cents : ℕ, value = (2 * cents + 1) / 200

/-- What half a hundredth more makes a whole number of hundredths is a half
cent. -/
theorem isHalfCent_of_whole {exact : ℚ} {floor : ℤ} (nonneg : 0 ≤ exact)
    (whole : (floor : ℚ) = 100 * exact + 1 / 2) : IsHalfCent exact := by
  have some : 1 ≤ floor := by
    have : (0 : ℚ) < floor := by linarith
    have : 0 < floor := by exact_mod_cast this
    omega
  refine ⟨(floor - 1).toNat, ?_⟩
  have cents : (((floor - 1).toNat : ℕ) : ℚ) = floor - 1 := by
    exact_mod_cast Int.toNat_of_nonneg (by omega : 0 ≤ floor - 1)
  rw [cents]
  linarith

/-- Where a fraction is rounded to, counted in halves of its unit: it reaches
the whole number, and it is at least one unit away from the next one. -/
theorem floor_units {numerator denominator : ℕ} (positive : 0 < denominator)
    {floor : ℤ} (floored : ⌊(numerator / denominator : ℚ) + 1 / 2⌋ = floor) :
    floor * (2 * denominator) ≤ 2 * (numerator : ℤ) + denominator ∧
    2 * (numerator : ℤ) + denominator + 1 ≤
      (floor + 1) * (2 * denominator) := by
  have twice : (0 : ℚ) < 2 * denominator := by
    have : (0 : ℚ) < denominator := Nat.cast_pos.mpr positive
    positivity
  have units : ((numerator / denominator : ℚ) + 1 / 2) * (2 * denominator) =
      2 * numerator + denominator := by
    field_simp
  obtain ⟨low, high⟩ := Int.floor_eq_iff.mp floored
  have lowUnits := mul_le_mul_of_nonneg_right low twice.le
  have highUnits := mul_lt_mul_of_pos_right high twice
  rw [units] at lowUnits highUnits
  constructor
  · exact_mod_cast lowUnits
  · exact_mod_cast highUnits

/-- A fraction that is no half cent keeps its distance from all of them.  What
is near enough to it is rounded like it, and from a half cent on one may go
up. -/
theorem roundCents_of_near {exact value : ℚ} {numerator denominator : ℕ}
    (positive : 0 < denominator)
    (fraction : 100 * exact = numerator / denominator) (nonneg : 0 ≤ value)
    (near : |value - exact| < 1 / (200 * denominator))
    (held : IsHalfCent exact → exact ≤ value) :
    roundCents value = roundCents exact := by
  have exactNonneg : 0 ≤ exact := by
    have : (0 : ℚ) ≤ numerator / denominator := by positivity
    linarith
  rw [roundCents_of_nonneg nonneg, roundCents_of_nonneg exactNonneg, round_eq,
    round_eq]
  congr 2
  obtain ⟨below, above⟩ := abs_lt.mp near
  have twice : (0 : ℚ) < 2 * denominator := by
    have : (0 : ℚ) < denominator := Nat.cast_pos.mpr positive
    positivity
  have step : 100 * (1 / (200 * denominator)) * (2 * denominator) =
      (1 : ℚ) := by
    field_simp
    norm_num
  have units : (100 * exact + 1 / 2) * (2 * denominator) =
      2 * numerator + denominator := by
    rw [fraction]
    field_simp
  obtain ⟨low, high⟩ :=
    floor_units positive (congrArg (⌊· + 1 / 2⌋) fraction.symm)
  generalize ⌊100 * exact + 1 / 2⌋ = floor at low high ⊢
  rw [Int.floor_eq_iff]
  constructor
  · rcases low.lt_or_eq with more | same
    · have more : (floor * (2 * denominator) + 1 : ℚ) ≤
          2 * numerator + denominator := by
        exact_mod_cast more
      refine le_of_mul_le_mul_right ?_ twice
      have := mul_le_mul_of_nonneg_right below.le twice.le
      linarith
    · have tie :
          (floor * (2 * denominator) : ℚ) = 2 * numerator + denominator := by
        exact_mod_cast same
      have whole : (floor : ℚ) = 100 * exact + 1 / 2 :=
        mul_right_cancel₀ twice.ne' (tie.trans units.symm)
      linarith [held (isHalfCent_of_whole exactNonneg whole)]
  · have less : (2 * numerator + denominator + 1 : ℚ) ≤
        (floor + 1) * (2 * denominator) := by
      exact_mod_cast high
    refine lt_of_mul_lt_mul_right ?_ twice.le
    have := mul_lt_mul_of_pos_right above twice
    linarith

namespace Decimal

theorem divHalfUp_eq_round (dividend : Nat) {divisor : Nat}
    (positive : 0 < divisor) :
    (divHalfUp dividend divisor : ℤ) = round (dividend / divisor : ℚ) := by
  have nonzero : (divisor : ℚ) ≠ 0 := Nat.cast_ne_zero.mpr positive.ne'
  have half : (dividend / divisor : ℚ) + 1 / 2 =
      ((2 * dividend + divisor : ℕ) : ℚ) / ((2 * divisor : ℕ) : ℚ) := by
    push_cast
    field_simp
  rw [round_eq, half, Rat.floor_natCast_div_natCast]
  rfl

theorem toRat_shorten (places : Nat) (value : Decimal) :
    (value.shorten places).toRat = signed value.negative
      (round ((value.magnitude / tenTo value.scale : ℚ) * tenTo places) /
        tenTo places) := by
  unfold shorten
  split
  · next short =>
      have units : ((value.magnitude / tenTo value.scale : ℚ) * tenTo places) =
          ((value.magnitude * tenTo (places - value.scale) : ℕ) : ℤ) := by
        have split : tenTo places =
            tenTo value.scale * tenTo (places - value.scale) := by
          rw [← tenTo_add, Nat.add_sub_cancel' short]
        rw [split]
        push_cast
        field_simp [tenTo_ne_zero value.scale]
      rw [toRat_eq_signed, units, round_intCast, ← units,
        mul_div_cancel_right₀ _ (tenTo_ne_zero _)]
  · next long =>
      have units : ((value.magnitude / tenTo value.scale : ℚ) * tenTo places) =
          value.magnitude / tenTo (value.scale - places) := by
        have split : tenTo value.scale =
            tenTo (value.scale - places) * tenTo places := by
          rw [← tenTo_add, Nat.sub_add_cancel (by omega)]
        rw [split]
        push_cast
        field_simp [tenTo_ne_zero places]
      rw [toRat_eq_signed, units, ← divHalfUp_eq_round _ (tenTo_pos _)]
      rfl

theorem toRat_roundTo (places : Nat) (value : Decimal) :
    (value.roundTo places).toRat = (value.shorten places).toRat := by
  unfold roundTo
  split
  · rfl
  · exact toRat_plainZero _

theorem toRat_widen (steps : Nat) (value : Decimal) :
    (value.widen steps).toRat = value.toRat := by
  induction steps generalizing value with
  | zero => rfl
  | succ steps ih =>
      unfold widen
      split
      · next wider made =>
          rw [ih wider, toRat_of_ofParts? made, toRat_eq_signed, tenTo_succ]
          push_cast
          rw [mul_div_mul_right _ _ (by norm_num : (10 : ℚ) ≠ 0)]
      · rfl

/-- Rounding points is rounding their value. -/
theorem toRat_roundPoints (value : Decimal) :
    (roundPoints value).toRat = roundCents value.toRat := by
  have hundred : (tenTo 2 : ℚ) = 100 := by norm_num [tenTo]
  have large : (0 : ℚ) ≤ value.magnitude / tenTo value.scale := by positivity
  rw [roundPoints, widenTo, toRat_widen, toRat_roundTo, toRat_shorten,
    toRat_eq_signed, hundred, mul_comm _ (100 : ℚ)]
  cases value.negative with
  | false => exact (roundCents_of_nonneg large).symm
  | true =>
      simp only [signed, if_true]
      by_cases zero : (value.magnitude / tenTo value.scale : ℚ) = 0
      · simp [zero, roundCents]
      · have negative : ¬0 ≤ -(value.magnitude / tenTo value.scale : ℚ) := by
          rw [not_le, neg_lt_zero]
          exact lt_of_le_of_ne large (Ne.symm zero)
        rw [roundCents, if_neg negative, neg_neg]

/-- What is not negative after rounding is an amount, whatever it was before. -/
theorem isAmount_of_nonneg_roundPoints {value : Decimal}
    (nonneg : 0 ≤ (roundPoints value).toRat) :
    (roundPoints value).IsAmount := by
  rw [isAmount_iff, toRat_roundPoints] at *
  exact exists_cents_of_roundCents nonneg

theorem isAmount_roundPoints {value : Decimal} (nonneg : 0 ≤ value.toRat) :
    (roundPoints value).IsAmount := by
  apply isAmount_of_nonneg_roundPoints
  have zero := roundCents_cents 0
  rw [Nat.cast_zero, zero_div] at zero
  rw [toRat_roundPoints, ← zero]
  exact roundCents_mono nonneg

theorem IsAmount.toRat_roundPoints {value : Decimal} (amount : value.IsAmount) :
    (roundPoints value).toRat = value.toRat := by
  obtain ⟨cents, same⟩ := isAmount_iff.mp amount
  rw [Decimal.toRat_roundPoints, same, roundCents_cents]

theorem scale_roundTo_le (places : Nat) (value : Decimal) :
    (value.roundTo places).scale ≤ places := by
  unfold roundTo
  split
  · exact scale_shorten_le places value
  · rw [scale_plainZero]
    exact scale_shorten_le places value

theorem scale_widen_le {steps : Nat} {value : Decimal} :
    (value.widen steps).scale ≤ value.scale + steps := by
  induction steps generalizing value with
  | zero => exact Nat.le_refl _
  | succ steps ih =>
      unfold widen
      split
      · next wider made =>
          have := scale_of_ofParts? made
          have := @ih wider
          omega
      · omega

/-- Widening stops where all digits have been added, or where one more would not
fit. -/
theorem widen_stops (steps : Nat) (value : Decimal) :
    (value.widen steps).scale = value.scale + steps ∨
      ofParts? (value.widen steps).negative ((value.widen steps).magnitude * 10)
        ((value.widen steps).scale + 1) = none := by
  induction steps generalizing value with
  | zero => exact .inl rfl
  | succ steps ih =>
      unfold widen
      split
      · next wider made =>
          rw [← Nat.succ_add_eq_add_succ, Nat.succ_eq_add_one,
            ← scale_of_ofParts? made]
          exact ih wider
      · next full => exact .inr full

theorem roundTo_of_scale_le {places : Nat} {value : Decimal}
    (short : value.scale ≤ places) : value.roundTo places = value := by
  unfold roundTo shorten plainZero
  rw [dif_pos short]
  split <;> rfl

/-- Rounded points have at most two fractional digits. -/
theorem scale_roundPoints_le (value : Decimal) :
    (roundPoints value).scale ≤ 2 := by
  have rounded := scale_roundTo_le 2 value
  have := @scale_widen_le (2 - (value.roundTo 2).scale) (value.roundTo 2)
  unfold roundPoints widenTo
  omega

/-- Rounded points have two fractional digits, unless one more than they have
does not fit. -/
theorem roundPoints_stops (value : Decimal) : (roundPoints value).scale = 2 ∨
    ofParts? (roundPoints value).negative ((roundPoints value).magnitude * 10)
      ((roundPoints value).scale + 1) = none := by
  have short := scale_roundTo_le 2 value
  have stops := widen_stops (2 - (value.roundTo 2).scale) (value.roundTo 2)
  rwa [Nat.add_sub_cancel' short] at stops

theorem roundPoints_roundPoints (value : Decimal) :
    roundPoints (roundPoints value) = roundPoints value := by
  have stops := roundPoints_stops value
  rw [roundPoints, roundTo_of_scale_le (scale_roundPoints_le value), widenTo]
  generalize roundPoints value = rounded at stops ⊢
  rcases stops with whole | full
  · rw [whole]
    rfl
  · cases 2 - rounded.scale with
    | zero => rfl
    | succ steps => rw [widen, full]

/-- Rounded points have two fractional digits exactly if their value fits with
two of them. -/
theorem scale_roundPoints_iff (value : Decimal) :
    (roundPoints value).scale = 2 ↔
      100 * |(roundPoints value).toRat| < limit := by
  have stops := roundPoints_stops value
  have few := scale_roundPoints_le value
  generalize roundPoints value = rounded at stops few ⊢
  rw [abs_toRat]
  constructor
  · intro whole
    have hundred : (tenTo 2 : ℚ) = 100 := by norm_num [tenTo]
    have fits : (rounded.magnitude : ℚ) < limit :=
      Nat.cast_lt.mpr rounded.magnitude_lt
    rwa [whole, hundred, mul_div_cancel₀ _ (by norm_num)]
  · intro fits
    rcases stops with whole | full
    · exact whole
    · by_contra fewer
      have fewer : rounded.scale ≤ 1 := by omega
      have large : limit ≤ rounded.magnitude * 10 := by
        by_contra small
        have room : (ofParts? rounded.negative
              (rounded.magnitude * 10) (rounded.scale + 1)).isSome :=
          isSome_ofParts?.mpr ⟨Nat.lt_of_not_le small,
            (Nat.succ_le_succ fewer).trans (by decide)⟩
        rw [full] at room
        cases room
      have digits : (tenTo rounded.scale : ℚ) ≤ 10 := by
        exact_mod_cast tenTo_mono fewer
      have : (limit : ℚ) ≤ 100 * (rounded.magnitude / tenTo rounded.scale) :=
        calc (limit : ℚ) ≤ rounded.magnitude * 10 := by exact_mod_cast large
          _ = 100 * (rounded.magnitude / 10) := by ring
          _ ≤ 100 * (rounded.magnitude / tenTo rounded.scale) := by
              have := cast_tenTo_pos rounded.scale
              gcongr
      exact absurd fits this.not_gt

/-- Rounded points of a usual size have exactly two fractional digits. -/
theorem scale_roundPoints {value : Decimal}
    (nonneg : 0 ≤ (roundPoints value).toRat)
    (small : (roundPoints value).toRat ≤ tenTo 26) :
    (roundPoints value).scale = 2 := by
  rw [scale_roundPoints_iff, abs_of_nonneg nonneg]
  calc 100 * (roundPoints value).toRat ≤ 100 * tenTo 26 := by gcongr
    _ = (tenTo 28 : ℕ) := by norm_num [tenTo]
    _ < limit := Nat.cast_lt.mpr (by decide)

end Decimal

end ExamHall
