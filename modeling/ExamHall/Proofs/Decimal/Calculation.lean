import ExamHall.Proofs.Decimal.Value
import ExamHall.Proofs.Lists

/-!
# Calculating with decimals

Where the digits of a result do not fit, it is rounded.  How far is of no
interest here: it is enough that the rounding never passes a point of a grid
that is coarse enough.  In particular points of the grid stay where they are.
Where the digits of a grid fit, sums, products and quotients of decimals that
are not negative exist and are rounded to no further than that grid.
-/

namespace ExamHall

/-- The rounded value lies on no other side of a multiple of `1 / 10 ^ places`
than the exact one. -/
def KeepsGrid (places : Nat) (exact rounded : ℚ) : Prop :=
  ∀ steps : ℕ, (exact ≤ steps / tenTo places → rounded ≤ steps / tenTo places) ∧
    (steps / tenTo places ≤ exact → steps / tenTo places ≤ rounded)

namespace KeepsGrid

variable {places : Nat} {exact rounded : ℚ}

theorem refl (places : Nat) (exact : ℚ) : KeepsGrid places exact exact :=
  fun _ => ⟨id, id⟩

theorem eq_of_mem (keeps : KeepsGrid places exact rounded) {steps : ℕ}
    (onGrid : exact = steps / tenTo places) : rounded = exact := by
  obtain ⟨below, above⟩ := keeps steps
  rw [onGrid]
  exact le_antisymm (below onGrid.le) (above onGrid.ge)

/-- A finer grid has the points of a coarser one. -/
theorem coarsen {fewer : Nat} (keeps : KeepsGrid places exact rounded)
    (coarser : fewer ≤ places) : KeepsGrid fewer exact rounded := by
  intro steps
  have same : (steps / tenTo fewer : ℚ) =
      (steps * tenTo (places - fewer) : ℕ) / tenTo places := by
    have split : tenTo places = tenTo fewer * tenTo (places - fewer) := by
      rw [← tenTo_add, Nat.add_sub_cancel' coarser]
    rw [split]
    push_cast
    rw [mul_div_mul_right _ _ (tenTo_ne_zero _)]
  rw [same]
  exact keeps _

/-- Moving the point moves the grid with it. -/
theorem shift (keeps : KeepsGrid places exact rounded) (more : Nat) :
    KeepsGrid (places + more) (exact / tenTo more) (rounded / tenTo more) := by
  intro steps
  have grid : (0 : ℚ) < tenTo more := cast_tenTo_pos more
  have same : (steps / tenTo (places + more) : ℚ) =
      steps / tenTo places / tenTo more := by
    rw [tenTo_add]
    push_cast
    rw [div_div]
  rw [same, div_le_div_iff_of_pos_right grid, div_le_div_iff_of_pos_right grid,
    div_le_div_iff_of_pos_right grid, div_le_div_iff_of_pos_right grid]
  exact keeps steps

theorem natCast_le (keeps : KeepsGrid places exact rounded) {bound : ℕ}
    (large : bound ≤ exact) : bound ≤ rounded := by
  have whole := (keeps.coarsen (Nat.zero_le places) bound).2
  rw [tenTo_zero, Nat.cast_one, div_one] at whole
  exact whole large

theorem le_natCast (keeps : KeepsGrid places exact rounded) {bound : ℕ}
    (small : exact ≤ bound) : rounded ≤ bound := by
  have whole := (keeps.coarsen (Nat.zero_le places) bound).1
  rw [tenTo_zero, Nat.cast_one, div_one] at whole
  exact whole small

theorem nonneg (keeps : KeepsGrid places exact rounded) (nonneg : 0 ≤ exact) :
    0 ≤ rounded := by
  exact_mod_cast keeps.natCast_le (by exact_mod_cast nonneg)

/-- What stays in its field of a grid moves by less than a field. -/
theorem abs_sub_le (keeps : KeepsGrid places exact rounded)
    (nonneg : 0 ≤ exact) :
    |rounded - exact| ≤ 1 / tenTo places := by
  have grid : (0 : ℚ) < tenTo places := cast_tenTo_pos places
  have low : (⌊exact * tenTo places⌋₊ : ℚ) / tenTo places ≤ exact :=
    (div_le_iff₀ grid).mpr (Nat.floor_le (by positivity))
  have high :
      exact ≤ ((⌊exact * tenTo places⌋₊ + 1 : ℕ) : ℚ) / tenTo places := by
    rw [le_div_iff₀ grid]
    exact_mod_cast (Nat.lt_floor_add_one (exact * tenTo places)).le
  have above := (keeps _).2 low
  have below := (keeps _).1 high
  rw [Nat.cast_add_one, add_div] at high below
  rw [abs_le]
  constructor <;> linarith

end KeepsGrid

namespace Decimal

theorem le_divHalfEven {steps dividend divisor : Nat} (positive : 0 < divisor)
    (less : steps * divisor ≤ dividend) :
    steps ≤ divHalfEven dividend divisor := by
  have floor : steps ≤ dividend / divisor :=
    (Nat.le_div_iff_mul_le positive).mpr less
  unfold divHalfEven
  dsimp only
  split
  · exact floor
  · split
    · omega
    · split <;> omega

theorem divHalfEven_le {steps dividend divisor : Nat} (positive : 0 < divisor)
    (less : dividend ≤ steps * divisor) :
    divHalfEven dividend divisor ≤ steps := by
  have parts := Nat.div_add_mod dividend divisor
  have small := Nat.mod_lt dividend positive
  have floor : dividend / divisor ≤ steps := by
    rw [Nat.div_le_iff_le_mul_add_pred positive]
    rw [Nat.mul_comm]
    omega
  by_cases whole : dividend % divisor = 0
  · unfold divHalfEven
    simpa [whole, positive] using floor
  · have inner : dividend / divisor < steps := by
      by_contra large
      have := Nat.mul_le_mul_right divisor (Nat.le_of_not_lt large)
      rw [Nat.mul_comm (dividend / divisor)] at this
      omega
    unfold divHalfEven
    dsimp only
    split
    · exact inner.le
    · split
      · exact inner
      · split
        · exact inner.le
        · exact inner

theorem divHalfEven_mul (quotient : Nat) {divisor : Nat}
    (positive : 0 < divisor) :
    divHalfEven (quotient * divisor) divisor = quotient :=
  Nat.le_antisymm (divHalfEven_le positive (Nat.le_refl _))
    (le_divHalfEven positive (Nat.le_refl _))

theorem keepsGrid_divHalfEven (dividend : Nat) {divisor : Nat}
    (positive : 0 < divisor) :
    KeepsGrid 0 (dividend / divisor) (divHalfEven dividend divisor) := by
  intro steps
  have positive' : (0 : ℚ) < divisor := Nat.cast_pos.mpr positive
  rw [tenTo, Nat.cast_one, div_one, div_le_iff₀ positive',
    le_div_iff₀ positive']
  constructor
  · intro less
    exact_mod_cast divHalfEven_le positive (by exact_mod_cast less)
  · intro less
    exact_mod_cast le_divHalfEven positive (by exact_mod_cast less)

/-! ## What a calculation keeps -/

theorem tenTo_lt_limit : tenTo maxScale < limit := by decide

/-- A value that is at least zero, and zero only without a minus sign, is its
magnitude. -/
theorem negative_eq_false {value : Decimal} (nonneg : 0 ≤ value.toRat)
    (nonzero : value.magnitude ≠ 0) : value.negative = false := by
  rw [toRat_eq_signed] at nonneg
  cases sign : value.negative with
  | false => rfl
  | true =>
      rw [sign] at nonneg
      have positive : (0 : ℚ) < value.magnitude / tenTo value.scale :=
        div_pos (Nat.cast_pos.mpr (Nat.pos_of_ne_zero nonzero))
          (cast_tenTo_pos _)
      simp only [signed, if_true] at nonneg
      linarith

/-! ## Dropping digits -/

/-- Dropping digits keeps to the grids that the digits left can tell apart. -/
theorem keepsGrid_of_dropped {negative : Bool}
    {magnitude scale dropped places : Nat} {value : Decimal}
    (few : dropped ≤ scale)
    (made : ofParts? negative (divHalfEven magnitude (tenTo dropped))
      (scale - dropped) = some value)
    (left : places ≤ scale - dropped ∨ dropped = 0) :
    value.negative = negative ∧ value.scale ≤ scale ∧
    KeepsGrid places (magnitude / tenTo scale)
      (value.magnitude / tenTo value.scale) := by
  unfold ofParts? at made
  split at made
  · cases made
    refine ⟨rfl, Nat.sub_le scale dropped, ?_⟩
    rcases left with finer | rfl
    · have keeps := (keepsGrid_divHalfEven magnitude (tenTo_pos dropped)).shift
        (scale - dropped)
      have split : (tenTo dropped * tenTo (scale - dropped) : ℚ) =
          tenTo scale := by
        rw [← Nat.cast_mul, ← tenTo_add, Nat.add_sub_cancel' few]
      rw [Nat.zero_add, div_div, split] at keeps
      exact keeps.coarsen finer
    · have whole : divHalfEven magnitude (tenTo 0) = magnitude := by
        have := divHalfEven_mul magnitude (tenTo_pos 0)
        rwa [tenTo_zero, Nat.mul_one] at this
      change KeepsGrid places _ (divHalfEven magnitude (tenTo 0) / tenTo scale)
      rw [whole]
      exact .refl places _
  · cases made

theorem ofScaled?_eq_some {negative : Bool} {magnitude scale : Nat}
    {value : Decimal} (made : ofScaled? negative magnitude scale = some value) :
    value.negative = negative ∧ value.scale ≤ scale ∧
    KeepsGrid 0 (magnitude / tenTo scale)
      (value.magnitude / tenTo value.scale) := by
  obtain ⟨dropped, inside, made⟩ := List.exists_of_findSome?_eq_some made
  have few : dropped ≤ scale := Nat.le_of_lt_succ (List.mem_range.mp inside)
  exact keepsGrid_of_dropped few made (.inl (Nat.zero_le _))

/-- A value that leaves room for the digits of a grid keeps at least these. -/
theorem exists_ofScaled? (negative : Bool) {magnitude scale places : Nat}
    (room : places ≤ maxScale)
    (small : magnitude * tenTo places ≤ tenTo maxScale * tenTo scale) :
    ∃ value, ofScaled? negative magnitude scale = some value ∧
      value.negative = negative ∧ value.scale ≤ scale ∧
      KeepsGrid places (magnitude / tenTo scale)
        (value.magnitude / tenTo value.scale) := by
  let search : Nat → Option Decimal := fun dropped =>
    ofParts? negative (divHalfEven magnitude (tenTo dropped)) (scale - dropped)
  have fits : (search (scale - places)).isSome := by
    rw [isSome_ofParts?]
    refine ⟨Nat.lt_of_le_of_lt (divHalfEven_le (tenTo_pos _) ?_)
      tenTo_lt_limit, by omega⟩
    apply Nat.le_of_mul_le_mul_right _ (tenTo_pos places)
    calc magnitude * tenTo places ≤ tenTo maxScale * tenTo scale := small
      _ ≤ tenTo maxScale * tenTo (scale - places + places) :=
          Nat.mul_le_mul_left _ (tenTo_mono (by omega))
      _ = tenTo maxScale * tenTo (scale - places) * tenTo places := by
          rw [tenTo_add, Nat.mul_assoc]
  obtain ⟨dropped, value, ended, made, inside, early⟩ :=
    exists_first_of_findSome? List.pairwise_lt_range
      (List.mem_range.mpr (by omega : scale - places < scale + 1)) fits
  have few : dropped ≤ scale := Nat.le_of_lt_succ (List.mem_range.mp inside)
  exact ⟨value, ended, keepsGrid_of_dropped few made (by omega)⟩

/-! ## Sums -/

theorem cross_div {value : Decimal} {scale : Nat}
    (finer : value.scale ≤ scale) :
    (value.cross (scale - value.scale) : ℚ) / tenTo scale = value.toRat := by
  have split :
      tenTo scale = tenTo value.scale * tenTo (scale - value.scale) := by
    rw [← tenTo_add, Nat.add_sub_cancel' finer]
  rw [cross, split, toRat]
  push_cast
  rw [mul_div_mul_right _ _ (tenTo_ne_zero _)]

theorem toRat_of_positive {value : Decimal}
    (positive : value.negative = false) :
    value.toRat = value.magnitude / tenTo value.scale := by
  rw [toRat_eq_signed, positive]
  rfl

/-- A sum is a summand, or it is calculated in units of the finer one of the two
scales. -/
theorem add?_cases {left right : Decimal} (leftNonneg : 0 ≤ left.toRat)
    (rightNonneg : 0 ≤ right.toRat) :
    (∃ sum, left.add? right = some sum ∧ sum.toRat = left.toRat + right.toRat ∧
      sum.scale ≤ Nat.max left.scale right.scale) ∨ ∃ magnitude : Nat,
      left.add? right =
        (ofScaled? false magnitude (Nat.max left.scale right.scale)).map
          plainZero ∧
      (magnitude / tenTo (Nat.max left.scale right.scale) : ℚ) =
        left.toRat + right.toRat := by
  unfold add?
  split
  · next zero =>
      refine .inl ⟨right, rfl, ?_, Nat.le_max_right _ _⟩
      rw [toRat_eq_zero_iff.mpr zero, zero_add]
  split
  · next zero =>
      refine .inl ⟨left, rfl, ?_, Nat.le_max_left _ _⟩
      rw [toRat_eq_zero_iff.mpr zero, add_zero]
  · refine .inr ?_
    dsimp only
    have total : ((left.cross (Nat.max left.scale right.scale - left.scale) +
          right.cross (Nat.max left.scale right.scale - right.scale) : ℤ) : ℚ) /
        tenTo (Nat.max left.scale right.scale) = left.toRat + right.toRat := by
      push_cast
      rw [add_div, cross_div (Nat.le_max_left _ _),
        cross_div (Nat.le_max_right _ _)]
    have nonneg : 0 ≤ left.cross (Nat.max left.scale right.scale - left.scale) +
        right.cross (Nat.max left.scale right.scale - right.scale) := by
      have sum := add_nonneg leftNonneg rightNonneg
      rw [← total, le_div_iff₀ (cast_tenTo_pos _), zero_mul] at sum
      exact_mod_cast sum
    obtain ⟨magnitude, same⟩ := Int.eq_ofNat_of_zero_le nonneg
    refine ⟨magnitude, ?_, ?_⟩
    · rw [same, Int.natAbs_natCast, decide_eq_false (by omega)]
    · rw [← total, same]
      rfl

theorem add?_eq_some {left right sum : Decimal} (leftNonneg : 0 ≤ left.toRat)
    (rightNonneg : 0 ≤ right.toRat) (added : left.add? right = some sum) :
    KeepsGrid 0 (left.toRat + right.toRat) sum.toRat := by
  rcases add?_cases leftNonneg rightNonneg with ⟨found, ended, same, -⟩
    | ⟨magnitude, ended, same⟩
  · rw [ended, Option.some.injEq] at added
    rw [← added, same]
    exact .refl 0 _
  · rw [ended, Option.map_eq_some_iff] at added
    obtain ⟨found, made, rfl⟩ := added
    obtain ⟨positive, -, keeps⟩ := ofScaled?_eq_some made
    rw [toRat_plainZero]
    rwa [same, ← toRat_of_positive positive] at keeps

/-- Sums of amounts are exact as long as they are not too large. -/
theorem exists_add? {left right : Decimal} (leftAmount : left.IsAmount)
    (rightAmount : right.IsAmount)
    (small : left.toRat + right.toRat ≤ tenTo 26) :
    ∃ sum, left.add? right = some sum ∧ sum.toRat = left.toRat + right.toRat ∧
      sum.scale ≤ Nat.max left.scale right.scale := by
  rcases add?_cases leftAmount.nonneg rightAmount.nonneg
    with whole | ⟨magnitude, ended, same⟩
  · exact whole
  · have room : magnitude * tenTo 2 ≤
        tenTo maxScale * tenTo (Nat.max left.scale right.scale) := by
      rw [← same, div_le_iff₀ (cast_tenTo_pos _)] at small
      have small' :
          magnitude ≤ tenTo 26 * tenTo (Nat.max left.scale right.scale) := by
        exact_mod_cast small
      calc magnitude * tenTo 2 ≤
          tenTo 26 * tenTo (Nat.max left.scale right.scale) * tenTo 2 :=
            Nat.mul_le_mul_right _ small'
        _ = tenTo maxScale * tenTo (Nat.max left.scale right.scale) := by
            rw [Nat.mul_right_comm, ← tenTo_add]
            rfl
    obtain ⟨sum, made, positive, scale, keeps⟩ :=
      exists_ofScaled? false (by decide) room
    rw [same, ← toRat_of_positive positive] at keeps
    obtain ⟨leftCents, leftSame⟩ := isAmount_iff.mp leftAmount
    obtain ⟨rightCents, rightSame⟩ := isAmount_iff.mp rightAmount
    have onGrid :
        left.toRat + right.toRat = (leftCents + rightCents : ℕ) / tenTo 2 := by
      rw [leftSame, rightSame, ← add_div]
      norm_num [tenTo]
    refine ⟨sum.plainZero, ?_, ?_, ?_⟩
    · rw [ended, made]
      rfl
    · rw [toRat_plainZero]
      exact keeps.eq_of_mem onGrid
    · rwa [scale_plainZero]

theorem IsAmount.add {left right sum : Decimal} (leftAmount : left.IsAmount)
    (rightAmount : right.IsAmount)
    (total : sum.toRat = left.toRat + right.toRat) :
    sum.IsAmount := by
  obtain ⟨leftCents, leftSame⟩ := isAmount_iff.mp leftAmount
  obtain ⟨rightCents, rightSame⟩ := isAmount_iff.mp rightAmount
  refine isAmount_iff.mpr ⟨leftCents + rightCents, ?_⟩
  rw [total, leftSame, rightSame, ← add_div, Nat.cast_add]

theorem sum_nonneg {values : List Decimal}
    (amounts : ∀ value ∈ values, value.IsAmount) :
    0 ≤ (values.map toRat).sum := by
  apply List.sum_nonneg
  intro number inside
  obtain ⟨value, listed, rfl⟩ := List.mem_map.mp inside
  exact (amounts value listed).nonneg

/-- Amounts are added up exactly as long as their sum is not too large. -/
theorem exists_foldlM_add? {values : List Decimal} {start : Decimal}
    {places : Nat}
    (amounts : ∀ value ∈ values, value.IsAmount) (startAmount : start.IsAmount)
    (scales : ∀ value ∈ values, value.scale ≤ places)
    (startScale : start.scale ≤ places)
    (small : start.toRat + (values.map toRat).sum ≤ tenTo 26) :
    ∃ sum, values.foldlM add? start = some sum ∧
      sum.IsAmount ∧ sum.toRat = start.toRat + (values.map toRat).sum ∧
      sum.scale ≤ places := by
  induction values generalizing start with
  | nil =>
      refine ⟨start, rfl, startAmount, ?_, startScale⟩
      rw [List.map_nil, List.sum_nil, add_zero]
  | cons value rest ih =>
      rw [List.map_cons, List.sum_cons, ← add_assoc] at small ⊢
      obtain ⟨amount, others⟩ := List.forall_mem_cons.mp amounts
      obtain ⟨short, otherScales⟩ := List.forall_mem_cons.mp scales
      have step : start.toRat + value.toRat ≤ tenTo 26 := by
        have := sum_nonneg others
        linarith
      obtain ⟨middle, added, total, scale⟩ :=
        exists_add? startAmount amount step
      rw [← total] at small ⊢
      obtain ⟨sum, ended, result⟩ := ih others (startAmount.add amount total)
        otherScales (scale.trans (Nat.max_le.mpr ⟨startScale, short⟩)) small
      refine ⟨sum, ?_, result⟩
      rw [List.foldlM_cons, added]
      exact ended

theorem exists_sum? {values : List Decimal} {places : Nat}
    (amounts : ∀ value ∈ values, value.IsAmount)
    (scales : ∀ value ∈ values, value.scale ≤ places)
    (small : (values.map toRat).sum ≤ tenTo 26) :
    ∃ sum, sum? values = some sum ∧ sum.IsAmount ∧
      sum.toRat = (values.map toRat).sum ∧ sum.scale ≤ places := by
  have := exists_foldlM_add? amounts isAmount_zero scales (Nat.zero_le places)
    (by simpa using small)
  simpa [sum?] using this

/-- A sum that is calculated too small to be large is exact. -/
theorem foldlM_add?_large {values : List Decimal} {start sum : Decimal}
    {bound : ℕ} (bounded : bound ≤ tenTo 26)
    (amounts : ∀ value ∈ values, value.IsAmount) (nonneg : 0 ≤ start.toRat)
    (startAmount : start.IsAmount ∨ bound ≤ start.toRat)
    (large : bound ≤ start.toRat + (values.map toRat).sum)
    (ended : values.foldlM add? start = some sum) : bound ≤ sum.toRat := by
  induction values generalizing start with
  | nil =>
      cases ended
      simpa using large
  | cons value rest ih =>
      rw [List.map_cons, List.sum_cons, ← add_assoc] at large
      obtain ⟨amount, others⟩ := List.forall_mem_cons.mp amounts
      rw [List.foldlM_cons] at ended
      obtain ⟨middle, added, later⟩ := Option.bind_eq_some_iff.mp ended
      have keeps := add?_eq_some nonneg amount.nonneg added
      have middleNonneg := keeps.nonneg (add_nonneg nonneg amount.nonneg)
      by_cases reached : bound ≤ start.toRat + value.toRat
      · have passed := keeps.natCast_le reached
        have rest := sum_nonneg others
        exact ih others middleNonneg (.inr passed) (by linarith) later
      · rw [not_le] at reached
        have startAmount : start.IsAmount := by
          rcases startAmount with whole | passed
          · exact whole
          · have := amount.nonneg
            linarith
        have few : (bound : ℚ) ≤ tenTo 26 := by exact_mod_cast bounded
        obtain ⟨found, same, total, -⟩ :=
          exists_add? startAmount amount (by linarith)
        rw [added, Option.some.injEq] at same
        subst same
        rw [← total] at large
        exact ih others middleNonneg (.inl (startAmount.add amount total))
          large later

/-- A sum of amounts that comes out below a bound is exact. -/
theorem sum?_eq_some {values : List Decimal} {sum : Decimal} {bound : ℕ}
    (bounded : bound ≤ tenTo 26) (amounts : ∀ value ∈ values, value.IsAmount)
    (ended : sum? values = some sum) (small : sum.toRat < bound) :
    sum.IsAmount ∧ sum.toRat = (values.map toRat).sum ∧
    (values.map toRat).sum < bound := by
  have below : (values.map toRat).sum < bound := by
    by_contra large
    rw [not_lt] at large
    have := foldlM_add?_large bounded amounts toRat_zero.ge (.inl isAmount_zero)
      (by simpa using large) ended
    linarith
  have few : (bound : ℚ) ≤ tenTo 26 := by exact_mod_cast bounded
  have scales : ∀ value ∈ values, value.scale ≤ maxScale := fun value _ =>
    value.scale_le
  obtain ⟨found, same, amount, total, -⟩ :=
    exists_sum? amounts scales (by linarith)
  rw [ended, Option.some.injEq] at same
  subst same
  exact ⟨amount, total, below⟩

/-! ## Products -/

/-- Products keep to a grid for which they leave room. -/
theorem exists_mul? {left right : Decimal} {places : Nat}
    (leftNonneg : 0 ≤ left.toRat)
    (rightNonneg : 0 ≤ right.toRat) (room : places ≤ maxScale)
    (small : left.toRat * right.toRat * tenTo places ≤ tenTo maxScale) :
    ∃ product, left.mul? right = some product ∧
      product.scale ≤ left.scale + right.scale ∧
      KeepsGrid places (left.toRat * right.toRat) product.toRat := by
  unfold mul?
  split
  · next none =>
      refine ⟨zero, rfl, Nat.zero_le _, ?_⟩
      have vanishes : left.toRat * right.toRat = 0 := by
        rw [mul_eq_zero, toRat_eq_zero_iff, toRat_eq_zero_iff]
        exact none
      rw [vanishes, toRat_zero]
      exact .refl places 0
  · next both =>
      rw [not_or] at both
      have leftSign := negative_eq_false leftNonneg both.1
      have rightSign := negative_eq_false rightNonneg both.2
      have same : ((left.magnitude * right.magnitude : ℕ) /
            tenTo (left.scale + right.scale) : ℚ) =
          left.toRat * right.toRat := by
        rw [toRat_of_positive leftSign, toRat_of_positive rightSign, tenTo_add]
        push_cast
        rw [mul_div_mul_comm]
      rw [← same, div_mul_eq_mul_div, div_le_iff₀ (cast_tenTo_pos _)] at small
      obtain ⟨product, made, positive, scale, keeps⟩ :=
        exists_ofScaled? false room (by exact_mod_cast small)
      rw [same, ← toRat_of_positive positive] at keeps
      have sign : (left.negative != right.negative) = false := by
        rw [leftSign, rightSign]
        rfl
      simp only [sign, made, Option.map_some]
      split
      · exact ⟨product, rfl, scale, keeps⟩
      · refine ⟨product.plainZero, rfl, ?_, ?_⟩
        · rwa [scale_plainZero]
        · rwa [toRat_plainZero]

end Decimal

end ExamHall
