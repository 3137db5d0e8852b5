import ExamHall.Decimal.Arithmetic
import Mathlib.Tactic

/-!
# The value of a decimal

A decimal stands for a rational number.  Order and equality of decimals, which
go by cross-multiplication, are those of their values.
-/

namespace ExamHall

theorem tenTo_add (first second : Nat) :
    tenTo (first + second) = tenTo first * tenTo second :=
  pow_add 10 first second

theorem tenTo_ne_zero (places : Nat) : (tenTo places : ℚ) ≠ 0 :=
  Nat.cast_ne_zero.mpr (tenTo_pos places).ne'

theorem cast_tenTo_pos (places : Nat) : (0 : ℚ) < tenTo places :=
  Nat.cast_pos.mpr (tenTo_pos places)

theorem tenTo_mono {first second : Nat} (few : first ≤ second) :
    tenTo first ≤ tenTo second :=
  Nat.pow_le_pow_right (by decide) few

/-- A rational number with the given sign. -/
def signed (negative : Bool) (value : ℚ) : ℚ :=
  if negative then -value else value

theorem signed_div (negative : Bool) (value divisor : ℚ) :
    signed negative (value / divisor) = signed negative value / divisor := by
  cases negative with
  | false => rfl
  | true => exact (neg_div divisor value).symm

namespace Decimal

/-- The number that a decimal stands for. -/
def toRat (value : Decimal) : ℚ :=
  value.coefficient / tenTo value.scale

theorem coefficient_eq_signed (value : Decimal) :
    (value.coefficient : ℚ) = signed value.negative value.magnitude := by
  unfold coefficient signed
  split <;> simp

theorem toRat_eq_signed (value : Decimal) :
    value.toRat =
      signed value.negative (value.magnitude / tenTo value.scale) := by
  rw [toRat, coefficient_eq_signed, signed_div]

theorem abs_toRat (value : Decimal) :
    |value.toRat| = value.magnitude / tenTo value.scale := by
  have positive : (0 : ℚ) ≤ value.magnitude / tenTo value.scale := by positivity
  rw [toRat_eq_signed]
  unfold signed
  split
  · rw [abs_neg, abs_of_nonneg positive]
  · rw [abs_of_nonneg positive]

theorem le_iff_toRat {left right : Decimal} :
    left ≤ right ↔ left.toRat ≤ right.toRat := by
  rw [le_def, toRat, toRat,
    div_le_div_iff₀ (cast_tenTo_pos _) (cast_tenTo_pos _)]
  unfold cross
  exact_mod_cast Iff.rfl

theorem lt_iff_toRat {left right : Decimal} :
    left < right ↔ left.toRat < right.toRat := by
  rw [lt_def, toRat, toRat,
    div_lt_div_iff₀ (cast_tenTo_pos _) (cast_tenTo_pos _)]
  unfold cross
  exact_mod_cast Iff.rfl

theorem sameValue_iff_toRat {left right : Decimal} :
    left.SameValue right ↔ left.toRat = right.toRat := by
  rw [SameValue, toRat, toRat,
    div_eq_div_iff (tenTo_ne_zero _) (tenTo_ne_zero _)]
  unfold cross
  exact_mod_cast Iff.rfl

@[simp] theorem toRat_zero : zero.toRat = 0 := by
  norm_num [toRat, coefficient, zero, tenTo]

@[simp] theorem toRat_one : one.toRat = 1 := by
  norm_num [toRat, coefficient, one, tenTo]

@[simp] theorem toRat_hundred : hundred.toRat = 100 := by
  norm_num [toRat, coefficient, hundred, tenTo]

@[simp] theorem scale_plainZero (value : Decimal) :
    value.plainZero.scale = value.scale := by
  unfold plainZero
  split <;> rfl

@[simp] theorem toRat_plainZero (value : Decimal) :
    value.plainZero.toRat = value.toRat := by
  rw [toRat, coefficient_plainZero, scale_plainZero, toRat]

theorem nonneg_iff {value : Decimal} : zero ≤ value ↔ 0 ≤ value.toRat := by
  rw [le_iff_toRat, toRat_zero]

theorem toRat_eq_zero_iff {value : Decimal} :
    value.toRat = 0 ↔ value.magnitude = 0 := by
  rw [toRat_eq_signed]
  unfold signed
  split <;> simp [(tenTo_pos _).ne']

theorem toRat_of_ofParts? {negative : Bool} {magnitude scale : Nat}
    {value : Decimal} (made : ofParts? negative magnitude scale = some value) :
    value.toRat = signed negative (magnitude / tenTo scale) := by
  unfold ofParts? at made
  split at made
  · cases made
    exact toRat_eq_signed _
  · cases made

theorem scale_of_ofParts? {negative : Bool} {magnitude scale : Nat}
    {value : Decimal} (made : ofParts? negative magnitude scale = some value) :
    value.scale = scale := by
  unfold ofParts? at made
  split at made
  · cases made
    rfl
  · cases made

theorem isSome_ofParts? {negative : Bool} {magnitude scale : Nat} :
    (ofParts? negative magnitude scale).isSome ↔ magnitude < limit ∧
    scale ≤ maxScale := by
  unfold ofParts?
  split <;> simp_all

/-! ## Amounts -/

theorem isAmount_iff {value : Decimal} :
    value.IsAmount ↔ ∃ cents : ℕ, value.toRat = cents / 100 := by
  unfold IsAmount
  apply exists_congr
  intro cents
  rw [toRat, div_eq_div_iff (tenTo_ne_zero _) (by norm_num)]
  exact_mod_cast Iff.rfl

theorem IsAmount.nonneg {value : Decimal} (amount : value.IsAmount) :
    0 ≤ value.toRat := by
  obtain ⟨cents, same⟩ := isAmount_iff.mp amount
  rw [same]
  positivity

theorem IsAmount.congr {left right : Decimal} (amount : left.IsAmount)
    (same : right.toRat = left.toRat) : right.IsAmount := by
  rw [isAmount_iff] at amount ⊢
  rwa [same]

theorem isAmount_zero : zero.IsAmount := ⟨0, by decide⟩

end Decimal

end ExamHall
