import ExamHall.Proofs.Decimal.Calculation

/-!
# Quotients of decimals

A quotient that is not too large exists and is rounded to no further than a fine
grid.
-/

namespace ExamHall.Decimal

theorem dropZeros_value (magnitude scale : Nat) :
    ((dropZeros magnitude scale).1 / tenTo (dropZeros magnitude scale).2 : ℚ) =
      magnitude / tenTo scale ∧ (dropZeros magnitude scale).1 ≤ magnitude ∧
    (dropZeros magnitude scale).2 ≤ scale := by
  induction scale generalizing magnitude with
  | zero => exact ⟨rfl, Nat.le_refl _, Nat.le_refl _⟩
  | succ scale ih =>
      unfold dropZeros
      split
      · next zero =>
          obtain ⟨value, small, few⟩ := ih (magnitude / 10)
          refine ⟨?_, small.trans (Nat.div_le_self _ _),
            few.trans (Nat.le_succ _)⟩
          have whole : magnitude = magnitude / 10 * 10 := by omega
          conv_rhs => rw [whole]
          rw [value, tenTo_succ]
          push_cast
          rw [mul_div_mul_right _ _ (by norm_num : (10 : ℚ) ≠ 0)]
      · exact ⟨rfl, Nat.le_refl _, Nat.le_refl _⟩

/-- A quotient that leaves room for some digits is rounded to at least these. -/
theorem exists_nearestQuotient? {dividend divisor places : Nat}
    (positive : 0 < divisor) (room : places ≤ maxScale)
    (small : dividend * tenTo places ≤ tenTo maxScale * divisor) :
    ∃ value most, nearestQuotient? false dividend divisor = some value ∧
      places ≤ most ∧ most ≤ maxScale ∧
      value.toRat =
        divHalfEven (dividend * tenTo most) divisor / tenTo most := by
  let search : Nat → Option Decimal := fun places =>
    let quotient := divHalfEven (dividend * tenTo places) divisor
    if quotient < limit then
      ofParts? false (dropZeros quotient places).1 (dropZeros quotient places).2
    else none
  have fits : (search places).isSome := by
    have below : divHalfEven (dividend * tenTo places) divisor < limit :=
      Nat.lt_of_le_of_lt (divHalfEven_le positive small) tenTo_lt_limit
    obtain ⟨-, less, few⟩ :=
      dropZeros_value (divHalfEven (dividend * tenTo places) divisor) places
    simp only [search, if_pos below, isSome_ofParts?]
    exact ⟨Nat.lt_of_le_of_lt less below, few.trans room⟩
  have ordered : ((List.range (maxScale + 1)).reverse).Pairwise
      (fun left right => right < left) :=
    List.pairwise_reverse.mpr List.pairwise_lt_range
  obtain ⟨most, value, ended, made, inside, early⟩ :=
    exists_first_of_findSome? ordered (List.mem_reverse.mpr
      (List.mem_range.mpr (by omega : places < maxScale + 1))) fits
  have few : most ≤ maxScale :=
    Nat.le_of_lt_succ (List.mem_range.mp (List.mem_reverse.mp inside))
  refine ⟨value, most, ended, by omega, few, ?_⟩
  simp only [search] at made
  split at made
  · have value := toRat_of_ofParts? made
    rwa [signed, if_neg (by decide), (dropZeros_value _ _).1] at value
  · cases made

theorem nearestQuotient?_keepsGrid {dividend divisor places : Nat}
    (positive : 0 < divisor) (room : places ≤ maxScale)
    (small : dividend * tenTo places ≤ tenTo maxScale * divisor) :
    ∃ value, nearestQuotient? false dividend divisor = some value ∧
      KeepsGrid places (dividend / divisor) value.toRat := by
  obtain ⟨value, most, ended, fine, -, rounded⟩ :=
    exists_nearestQuotient? positive room small
  refine ⟨value, ended, ?_⟩
  have keeps :=
    (keepsGrid_divHalfEven (dividend * tenTo most) positive).shift most
  push_cast at keeps
  rw [Nat.zero_add, mul_div_right_comm,
    mul_div_cancel_right₀ _ (tenTo_ne_zero most)] at keeps
  rw [rounded]
  exact keeps.coarsen fine

/-- A quotient of whole numbers that leaves room for the digits of a grid keeps
to it.  If it comes out even, it has to fit as it is. -/
theorem exists_quotient? {dividend divisor digits places : Nat}
    (positive : 0 < divisor) (few : digits ≤ maxScale)
    (even : dividend * tenTo digits / divisor < limit)
    (room : places ≤ maxScale)
    (small : dividend * tenTo places ≤ tenTo maxScale * divisor) :
    ∃ value, quotient? false dividend divisor digits = some value ∧
      KeepsGrid places (dividend / divisor) value.toRat := by
  unfold quotient?
  rw [if_neg positive.ne']
  split
  · next zero =>
      refine ⟨Decimal.zero, rfl, ?_⟩
      rw [zero, Nat.cast_zero, zero_div, toRat_zero]
      exact .refl places 0
  split
  · next divides =>
      have whole : dividend * tenTo digits / divisor * divisor =
          dividend * tenTo digits :=
        Nat.div_mul_cancel (Nat.dvd_of_mod_eq_zero divides)
      have fits :
          (ofParts? false (dividend * tenTo digits / divisor) digits).isSome :=
        isSome_ofParts?.mpr ⟨even, few⟩
      obtain ⟨value, made⟩ := Option.isSome_iff_exists.mp fits
      refine ⟨value, made, ?_⟩
      have exact : value.toRat = dividend / divisor := by
        rw [toRat_of_ofParts? made, signed, if_neg (by decide),
          div_eq_div_iff (tenTo_ne_zero _) (Nat.cast_ne_zero.mpr positive.ne')]
        exact_mod_cast whole
      rw [exact]
      exact .refl places _
  · obtain ⟨value, made, keeps⟩ :=
      nearestQuotient?_keepsGrid positive room small
    refine ⟨value.plainZero, ?_, ?_⟩
    · rw [made]
      rfl
    · rwa [toRat_plainZero]

/-- With the difference of the scales a quotient that comes out even is not
larger than its dividend, or it is small. -/
theorem even_div?_lt {left right : Decimal} {bound : Nat}
    (small : left.magnitude * tenTo right.scale ≤
      bound * (right.magnitude * tenTo left.scale)) (bounded : bound < limit) :
    left.magnitude * tenTo right.scale * tenTo (left.scale - right.scale) /
      (right.magnitude * tenTo left.scale) < limit := by
  rcases Nat.le_total right.scale left.scale with finer | coarser
  · rw [Nat.mul_assoc, ← tenTo_add, Nat.add_sub_cancel' finer,
      Nat.mul_div_mul_right _ _ (tenTo_pos _)]
    exact Nat.lt_of_le_of_lt (Nat.div_le_self _ _) left.magnitude_lt
  · rw [Nat.sub_eq_zero_of_le coarser, tenTo_zero, Nat.mul_one]
    refine Nat.lt_of_le_of_lt (Nat.div_le_of_le_mul ?_) bounded
    rwa [Nat.mul_comm _ bound]

/-- The quotient of decimals that is at most one hundred. -/
theorem exists_div? {left right : Decimal} (leftNonneg : 0 ≤ left.toRat)
    (rightPositive : 0 < right.toRat) (small : left.toRat ≤ 100 * right.toRat) :
    ∃ value, left.div? right = some value ∧
      KeepsGrid 26 (left.toRat / right.toRat) value.toRat := by
  have nonzero : right.magnitude ≠ 0 := fun zero =>
    rightPositive.ne' (toRat_eq_zero_iff.mpr zero)
  have positive : 0 < right.magnitude * tenTo left.scale :=
    Nat.mul_pos (Nat.pos_of_ne_zero nonzero) (tenTo_pos _)
  by_cases zero : left.magnitude = 0
  · refine ⟨Decimal.zero, ?_, ?_⟩
    · unfold div? quotient?
      rw [if_neg positive.ne', zero, Nat.zero_mul, if_pos rfl]
    · rw [toRat_eq_zero_iff.mpr zero, zero_div, toRat_zero]
      exact .refl 26 0
  · have leftSign := negative_eq_false leftNonneg zero
    have rightSign := negative_eq_false rightPositive.le nonzero
    have same : ((left.magnitude * tenTo right.scale : ℕ) /
          (right.magnitude * tenTo left.scale : ℕ) : ℚ) =
        left.toRat / right.toRat := by
      rw [toRat_of_positive leftSign, toRat_of_positive rightSign,
        div_div_div_eq]
      push_cast
      rw [mul_comm (tenTo left.scale : ℚ)]
    have bounded : left.magnitude * tenTo right.scale ≤
        100 * (right.magnitude * tenTo left.scale) := by
      rw [toRat_of_positive leftSign, toRat_of_positive rightSign,
        ← mul_div_assoc, div_le_div_iff₀ (cast_tenTo_pos _) (cast_tenTo_pos _),
        mul_assoc] at small
      exact_mod_cast small
    have sign : (left.negative != right.negative) = false := by
      rw [leftSign, rightSign]
      rfl
    rw [div?, sign, ← same]
    refine exists_quotient? positive ((Nat.sub_le _ _).trans left.scale_le)
      (even_div?_lt bounded (by decide)) (by decide) ?_
    calc left.magnitude * tenTo right.scale * tenTo 26 ≤
      100 * (right.magnitude * tenTo left.scale) * tenTo 26 :=
      Nat.mul_le_mul_right _ bounded
      _ = tenTo maxScale * (right.magnitude * tenTo left.scale) := by
          rw [Nat.mul_right_comm]
          rfl

end ExamHall.Decimal
