import ExamHall.Proofs.Decimal.Quotient

/-!
# Calculations keep the order

A result whose digits do not fit is rounded to as many digits as fit, so a large
result may have fewer of them than a small one.  Rounding to the same digits
keeps the order.  Where the larger result has fewer digits, one more would not
have fit; then its coefficient is close to the limit, and no smaller result can
pass it.
-/

namespace ExamHall.Decimal

/-! ## Rounding to integers -/

section Integers

variable {left right steps dividend divisor : Nat}

theorem divHalfEven_mul_mul (dividend divisor : Nat) {factor : Nat}
    (positive : 0 < factor) :
    divHalfEven (dividend * factor) (divisor * factor) =
      divHalfEven dividend divisor := by
  have twice :
      2 * (dividend % divisor * factor) = 2 * (dividend % divisor) * factor :=
    (Nat.mul_assoc _ _ _).symm
  unfold divHalfEven
  simp only [Nat.mul_div_mul_right _ _ positive, Nat.mul_mod_mul_right, twice,
    Nat.mul_lt_mul_right positive]

theorem divHalfEven_mono (less : left ≤ right) :
    divHalfEven left divisor ≤ divHalfEven right divisor := by
  have parts := Nat.div_add_mod left divisor
  have parts' := Nat.div_add_mod right divisor
  have floors : left / divisor ≤ right / divisor := Nat.div_le_div_right less
  unfold divHalfEven
  dsimp only
  rcases floors.lt_or_eq with below | same
  · split_ifs <;> omega
  · rw [same] at parts ⊢
    split_ifs <;> omega

/-- Rounding quotients keeps their order. -/
theorem divHalfEven_le_divHalfEven {leftDivisor rightDivisor : Nat}
    (leftPositive : 0 < leftDivisor) (rightPositive : 0 < rightDivisor)
    (less : left * rightDivisor ≤ right * leftDivisor) :
    divHalfEven left leftDivisor ≤ divHalfEven right rightDivisor :=
  calc divHalfEven left leftDivisor
      = divHalfEven (left * rightDivisor) (leftDivisor * rightDivisor) :=
        (divHalfEven_mul_mul _ _ rightPositive).symm
    _ ≤ divHalfEven (right * leftDivisor) (leftDivisor * rightDivisor) :=
      divHalfEven_mono less
    _ = divHalfEven right rightDivisor := by
        rw [Nat.mul_comm leftDivisor, divHalfEven_mul_mul _ _ leftPositive]

/-- What is more than a half is rounded up. -/
theorem lt_divHalfEven (positive : 0 < divisor)
    (more : (2 * steps + 1) * divisor < 2 * dividend) :
    steps < divHalfEven dividend divisor := by
  have parts := Nat.div_add_mod dividend divisor
  rw [Nat.add_mul, Nat.mul_assoc, Nat.one_mul, Nat.mul_comm steps] at more
  have floor : steps ≤ dividend / divisor := by
    rw [Nat.le_div_iff_mul_le positive, Nat.mul_comm]
    omega
  unfold divHalfEven
  dsimp only
  rcases floor.lt_or_eq with below | same
  · split_ifs <;> omega
  · rw [← same] at parts ⊢
    split_ifs <;> omega

end Integers

/-! ## Rounding to the digits that fit -/

theorem mul_tenTo_add_le_iff {left right shared more more' : Nat} :
    left * tenTo (shared + more) ≤ right * tenTo (shared + more') ↔
      left * tenTo more ≤ right * tenTo more' := by
  rw [tenTo_add, tenTo_add, Nat.mul_left_comm left, Nat.mul_left_comm right]
  exact Nat.mul_le_mul_left_iff (tenTo_pos shared)

/-- The coefficient of a number with `places + dropped` fractional digits after
`dropped` of them are rounded off: it fits, and with a digit more it would not
have fitted. -/
structure RoundsTo (magnitude places dropped kept : Nat) : Prop where
  room : places ≤ maxScale
  eq_divHalfEven : kept = divHalfEven magnitude (tenTo dropped)
  fits : kept < limit
  most : ∀ fewer, dropped = fewer + 1 → places < maxScale →
    limit ≤ divHalfEven magnitude (tenTo fewer)

theorem roundsTo_of_ofScaled? {magnitude scale : Nat} {value : Decimal}
    (made : ofScaled? false magnitude scale = some value) :
    value.negative = false ∧ ∃ dropped, scale = value.scale + dropped ∧
      RoundsTo magnitude value.scale dropped value.magnitude := by
  obtain ⟨dropped, inside, here⟩ := List.exists_of_findSome?_eq_some made
  have few : dropped ≤ scale := Nat.le_of_lt_succ (List.mem_range.mp inside)
  have places := scale_of_ofParts? here
  unfold ofParts? at here
  split at here
  · next bounds =>
      cases here
      refine ⟨rfl, dropped, (Nat.sub_add_cancel few).symm, bounds.2, rfl,
        bounds.1, ?_⟩
      rintro fewer rfl left
      by_contra small
      -- The search would have ended before.
      let search : Nat → Option Decimal := fun dropped =>
        ofParts? false (divHalfEven magnitude (tenTo dropped)) (scale - dropped)
      have fits : (search fewer).isSome :=
        isSome_ofParts?.mpr ⟨Nat.lt_of_not_le small, by omega⟩
      obtain ⟨first, value, ended, found, -, early⟩ :=
        exists_first_of_findSome? List.pairwise_lt_range
          (List.mem_range.mpr (by omega : fewer < scale + 1)) fits
      obtain rfl := Option.some.inj (ended.symm.trans made)
      have := scale_of_ofParts? found
      omega
  · cases here

/-- What is too large with a digit more is large enough to stand for ten times
the limit without it. -/
theorem limit_le_of_dropped {magnitude dropped : Nat}
    (large : limit ≤ divHalfEven magnitude (tenTo dropped)) :
    limit ≤ divHalfEven magnitude (tenTo (dropped + 1)) * 10 := by
  have above : (limit - 1) * tenTo dropped < magnitude := by
    by_contra small
    have := divHalfEven_le (tenTo_pos dropped) (Nat.le_of_not_lt small)
    have : 0 < limit := by decide
    omega
  have odd : 2 * (limit / 10) + 1 = (limit - 1) / 5 := by decide
  have half : (2 * (limit / 10) + 1) * tenTo (dropped + 1) < 2 * magnitude := by
    have whole : (limit - 1) / 5 * 10 = 2 * (limit - 1) := by decide
    rw [odd, tenTo_succ, Nat.mul_comm (tenTo dropped), ← Nat.mul_assoc, whole,
      Nat.mul_assoc]
    omega
  have := lt_divHalfEven (tenTo_pos (dropped + 1)) half
  omega

namespace RoundsTo

variable {magnitude places dropped kept magnitude' places' dropped' kept' : Nat}

theorem eq_magnitude (rounds : RoundsTo magnitude places 0 kept) :
    kept = magnitude := by
  have exact := divHalfEven_mul magnitude (tenTo_pos 0)
  rw [tenTo_zero, Nat.mul_one] at exact
  rw [rounds.eq_divHalfEven, tenTo_zero, exact]

/-- The larger of two numbers stays the larger one where it keeps no more digits
than the smaller one. -/
theorem le_of_finer {more : Nat}
    (rounds : RoundsTo magnitude (places' + more) dropped kept)
    (rounds' : RoundsTo magnitude' places' dropped' kept')
    (less : magnitude * tenTo dropped' ≤ magnitude' * tenTo (more + dropped)) :
    kept ≤ kept' * tenTo more := by
  cases more with
  | zero =>
      rw [Nat.zero_add] at less
      rw [tenTo_zero, Nat.mul_one, rounds.eq_divHalfEven,
        rounds'.eq_divHalfEven]
      exact divHalfEven_le_divHalfEven (tenTo_pos _) (tenTo_pos _) less
  | succ more =>
      cases dropped' with
      | zero =>
          rw [tenTo_zero, Nat.mul_one, tenTo_add, ← Nat.mul_assoc] at less
          rw [rounds.eq_divHalfEven, rounds'.eq_magnitude]
          exact divHalfEven_le (tenTo_pos _) less
      | succ fewer =>
          have room := rounds.room
          have large := rounds'.most fewer rfl (by omega)
          calc kept ≤ limit := rounds.fits.le
            _ ≤ kept' * 10 := rounds'.eq_divHalfEven ▸ limit_le_of_dropped large
            _ ≤ kept' * tenTo (more + 1) :=
                Nat.mul_le_mul_left _ (tenTo_mono (Nat.le_add_left 1 more))

/-- The larger of two numbers keeps more digits than the smaller one only if the
smaller one is exact. -/
theorem le_of_coarser {more : Nat}
    (rounds : RoundsTo magnitude places dropped kept)
    (rounds' : RoundsTo magnitude' (places + (more + 1)) dropped' kept')
    (less : magnitude * tenTo (more + 1 + dropped') ≤
      magnitude' * tenTo dropped) : kept * tenTo (more + 1) ≤ kept' := by
  cases dropped with
  | zero =>
      rw [tenTo_zero, Nat.mul_one, tenTo_add, ← Nat.mul_assoc] at less
      rw [rounds.eq_magnitude, rounds'.eq_divHalfEven]
      exact le_divHalfEven (tenTo_pos _) less
  | succ fewer =>
      have room := rounds'.room
      have large := rounds.most fewer rfl (by omega)
      have less : magnitude * tenTo dropped' ≤ magnitude' * tenTo fewer := by
        refine Nat.le_of_mul_le_mul_right ?_ (tenTo_pos 1)
        calc magnitude * tenTo dropped' * tenTo 1 =
            magnitude * tenTo (1 + dropped') := by
              rw [Nat.mul_assoc, ← tenTo_add, Nat.add_comm]
          _ ≤ magnitude * tenTo (more + 1 + dropped') :=
              Nat.mul_le_mul_left _ (tenTo_mono (by omega))
          _ ≤ magnitude' * tenTo (fewer + 1) := less
          _ = magnitude' * tenTo fewer * tenTo 1 := by
            rw [Nat.mul_assoc, ← tenTo_add]
      have passed :=
        divHalfEven_le_divHalfEven (tenTo_pos fewer) (tenTo_pos dropped') less
      rw [← rounds'.eq_divHalfEven] at passed
      exact absurd (large.trans passed) rounds'.fits.not_ge

/-- Numbers keep their order when each of them is rounded to the digits that
fit. -/
theorem div_le_div (rounds : RoundsTo magnitude places dropped kept)
    (rounds' : RoundsTo magnitude' places' dropped' kept')
    (less : (magnitude / tenTo (places + dropped) : ℚ) ≤
      magnitude' / tenTo (places' + dropped')) :
    (kept / tenTo places : ℚ) ≤ kept' / tenTo places' := by
  rw [div_le_div_iff₀ (cast_tenTo_pos _) (cast_tenTo_pos _)] at less ⊢
  norm_cast at less ⊢
  rcases Nat.lt_or_ge places places' with coarser | finer
  · obtain ⟨more, rfl⟩ := Nat.exists_eq_add_of_lt coarser
    rw [Nat.add_assoc places more, Nat.add_assoc places, mul_tenTo_add_le_iff]
      at less
    have kept := rounds.le_of_coarser rounds' less
    rwa [Nat.add_assoc, ← Nat.add_zero places, Nat.add_assoc,
      mul_tenTo_add_le_iff, tenTo_zero, Nat.mul_one, Nat.zero_add]
  · obtain ⟨more, rfl⟩ := Nat.exists_eq_add_of_le finer
    rw [Nat.add_assoc, mul_tenTo_add_le_iff] at less
    have kept := rounds.le_of_finer rounds' less
    rwa [← Nat.add_zero places', Nat.add_assoc, mul_tenTo_add_le_iff,
      tenTo_zero, Nat.mul_one, Nat.zero_add]

end RoundsTo

/-! ## Products -/

/-- One number is another one rounded to the digits that fit. -/
def IsRounded (exact rounded : ℚ) : Prop :=
  ∃ magnitude places dropped kept, RoundsTo magnitude places dropped kept ∧
    exact = magnitude / tenTo (places + dropped) ∧ rounded = kept / tenTo places

theorem IsRounded.mono {exact rounded exact' rounded' : ℚ}
    (rounds : IsRounded exact rounded) (rounds' : IsRounded exact' rounded')
    (less : exact ≤ exact') : rounded ≤ rounded' := by
  obtain ⟨_, _, _, _, rounds, rfl, rfl⟩ := rounds
  obtain ⟨_, _, _, _, rounds', rfl, rfl⟩ := rounds'
  exact rounds.div_le_div rounds' less

theorem isRounded_zero : IsRounded 0 0 := by
  have rounds : RoundsTo 0 0 0 0 :=
    ⟨Nat.zero_le _, by decide, by decide, fun _ none => nomatch none⟩
  exact ⟨0, 0, 0, 0, rounds, by simp, by simp⟩

theorem isRounded_mul? {left right product : Decimal}
    (leftNonneg : 0 ≤ left.toRat) (rightNonneg : 0 ≤ right.toRat)
    (multiplied : left.mul? right = some product) :
    IsRounded (left.toRat * right.toRat) product.toRat := by
  unfold mul? at multiplied
  split at multiplied
  · next none =>
      cases multiplied
      have vanishes : left.toRat * right.toRat = 0 := by
        rw [mul_eq_zero, toRat_eq_zero_iff, toRat_eq_zero_iff]
        exact none
      rw [vanishes, toRat_zero]
      exact isRounded_zero
  · next both =>
      rw [not_or] at both
      have leftSign := negative_eq_false leftNonneg both.1
      have rightSign := negative_eq_false rightNonneg both.2
      have sign : (left.negative != right.negative) = false := by
        rw [leftSign, rightSign]
        rfl
      rw [sign] at multiplied
      obtain ⟨value, made, same⟩ : ∃ value, ofScaled? false
          (left.magnitude * right.magnitude) (left.scale + right.scale) =
          some value ∧ product.toRat = value.toRat := by
        dsimp only at multiplied
        split at multiplied
        · exact ⟨product, multiplied, rfl⟩
        · obtain ⟨value, made, rfl⟩ := Option.map_eq_some_iff.mp multiplied
          exact ⟨value, made, toRat_plainZero value⟩
      obtain ⟨positive, dropped, split, rounds⟩ := roundsTo_of_ofScaled? made
      refine ⟨_, _, dropped, _, rounds, ?_,
        same.trans (toRat_of_positive positive)⟩
      rw [← split, toRat_of_positive leftSign, toRat_of_positive rightSign,
        tenTo_add]
      push_cast
      exact div_mul_div_comm _ _ _ _

/-- A larger factor makes no product smaller. -/
theorem mul?_mono {factor left right leftProduct rightProduct : Decimal}
    (nonneg : 0 ≤ factor.toRat) (leftNonneg : 0 ≤ left.toRat)
    (less : left.toRat ≤ right.toRat)
    (leftMultiplied : factor.mul? left = some leftProduct)
    (rightMultiplied : factor.mul? right = some rightProduct) :
    leftProduct.toRat ≤ rightProduct.toRat :=
  (isRounded_mul? nonneg leftNonneg leftMultiplied).mono
    (isRounded_mul? nonneg (leftNonneg.trans less) rightMultiplied)
    (mul_le_mul_of_nonneg_left less nonneg)

/-! ## Quotients of counts -/

/-- A quotient that is at most one has all the digits that a decimal can
have. -/
theorem toRat_of_quotient? {dividend divisor digits : Nat} {value : Decimal}
    (positive : 0 < divisor) (less : dividend ≤ divisor)
    (divided : quotient? false dividend divisor digits = some value) :
    value.toRat =
      divHalfEven (dividend * tenTo maxScale) divisor / tenTo maxScale := by
  unfold quotient? at divided
  rw [if_neg positive.ne'] at divided
  split at divided
  · next zero =>
      cases divided
      have none := divHalfEven_mul 0 positive
      rw [Nat.zero_mul] at none
      rw [zero, Nat.zero_mul, none, Nat.cast_zero, zero_div, toRat_zero]
  split at divided
  · next divides =>
      have few : digits ≤ maxScale := scale_of_ofParts? divided ▸ value.scale_le
      have whole : dividend * tenTo digits / divisor * divisor =
          dividend * tenTo digits :=
        Nat.div_mul_cancel (Nat.dvd_of_mod_eq_zero divides)
      have even : dividend * tenTo maxScale =
          dividend * tenTo digits / divisor * tenTo (maxScale - digits) *
            divisor := by
        rw [Nat.mul_right_comm, whole, Nat.mul_assoc, ← tenTo_add,
          Nat.add_sub_cancel' few]
      rw [even, divHalfEven_mul _ positive, toRat_of_ofParts? divided, signed,
        if_neg (by decide), div_eq_div_iff (tenTo_ne_zero _) (tenTo_ne_zero _)]
      have split :
          tenTo maxScale = tenTo (maxScale - digits) * tenTo digits := by
        rw [← tenTo_add, Nat.sub_add_cancel few]
      rw [split]
      push_cast
      ring
  · obtain ⟨found, ended, rfl⟩ := Option.map_eq_some_iff.mp divided
    have small : dividend * tenTo maxScale ≤ tenTo maxScale * divisor := by
      rw [Nat.mul_comm]
      exact Nat.mul_le_mul_left _ less
    obtain ⟨found', most, ended', fine, few, rounded⟩ :=
      exists_nearestQuotient? positive (Nat.le_refl _) small
    obtain rfl := Option.some.inj (ended'.symm.trans ended)
    obtain rfl := Nat.le_antisymm few fine
    rw [toRat_plainZero, rounded]

/-- More things of a whole make no smaller share of it. -/
theorem quotient?_mono {part part' whole digits : Nat} {share share' : Decimal}
    (positive : 0 < whole) (less : part ≤ part') (within : part' ≤ whole)
    (found : quotient? false part whole digits = some share)
    (found' : quotient? false part' whole digits = some share') :
    share.toRat ≤ share'.toRat := by
  rw [toRat_of_quotient? positive (less.trans within) found,
    toRat_of_quotient? positive within found']
  refine div_le_div_of_nonneg_right ?_ (cast_tenTo_pos _).le
  exact_mod_cast divHalfEven_mono (Nat.mul_le_mul_right _ less)

end ExamHall.Decimal
