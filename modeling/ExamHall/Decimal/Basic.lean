import ExamHall.Power

/-!
# Bounded decimals

A decimal has a sign, a magnitude and a number of fractional digits. The
magnitude has at most 96 bits and there are at most 28 fractional digits; both
bounds are part of the type. Sign and magnitude together are the coefficient, by
which values are compared: decimals with different scales may have the same
value, and so have the zeros of both signs. Order and equality of values go by
cross-multiplication.
-/

namespace ExamHall

/-- Magnitudes stay below this bound. -/
def Decimal.limit : Nat := twoTo 96

/-- The most fractional digits that a decimal carries. -/
def Decimal.maxScale : Nat := 28

/-- The number `magnitude / 10 ^ scale` with a sign, written with exactly
`scale` fractional digits. -/
structure Decimal where
  negative : Bool
  magnitude : Nat
  scale : Nat
  magnitude_lt : magnitude < Decimal.limit
  scale_le : scale ≤ Decimal.maxScale
deriving DecidableEq

namespace Decimal

/-- The decimal with the given parts, if they are in range. -/
def ofParts? (negative : Bool) (magnitude scale : Nat) : Option Decimal :=
  if bounds : magnitude < limit ∧ scale ≤ maxScale then
    some ⟨negative, magnitude, scale, bounds.1, bounds.2⟩
  else none

/-- The signed magnitude. -/
def coefficient (value : Decimal) : Int :=
  if value.negative then -(value.magnitude : Int) else value.magnitude

/-- The decimal with a coefficient, if it is in range; its zero has no minus
sign. -/
def make? (coefficient : Int) (scale : Nat) : Option Decimal :=
  ofParts? (decide (coefficient < 0)) coefficient.natAbs scale

/-- The same value, and no minus sign if it is zero. -/
def plainZero (value : Decimal) : Decimal :=
  if value.magnitude = 0 then { value with negative := false } else value

/-- Zero without fractional digits. -/
def zero : Decimal := ⟨false, 0, 0, by decide, by decide⟩

/-- One without fractional digits. -/
def one : Decimal := ⟨false, 1, 0, by decide, by decide⟩

/-- One hundred without fractional digits. -/
def hundred : Decimal := ⟨false, 100, 0, by decide, by decide⟩

instance : Inhabited Decimal := ⟨zero⟩

/-- The coefficient that the value would have with `other` further fractional
digits. -/
def cross (value : Decimal) (other : Nat) : Int :=
  value.coefficient * (tenTo other : Nat)

instance : LE Decimal where
  le left right := left.cross right.scale ≤ right.cross left.scale

instance : LT Decimal where
  lt left right := left.cross right.scale < right.cross left.scale

instance (left right : Decimal) : Decidable (left ≤ right) :=
  inferInstanceAs (Decidable (left.cross right.scale ≤ right.cross left.scale))

instance (left right : Decimal) : Decidable (left < right) :=
  inferInstanceAs (Decidable (left.cross right.scale < right.cross left.scale))

/-- Equality of values, whatever the scales are. -/
def SameValue (left right : Decimal) : Prop :=
  left.cross right.scale = right.cross left.scale

instance (left right : Decimal) : Decidable (left.SameValue right) :=
  inferInstanceAs (Decidable (left.cross right.scale = right.cross left.scale))

/-- A whole number of hundredths, however many fractional digits it is written
with. -/
def IsAmount (value : Decimal) : Prop :=
  ∃ cents : Nat, value.coefficient * 100 = cents * (tenTo value.scale : Nat)

theorem le_def (left right : Decimal) :
    left ≤ right ↔ left.cross right.scale ≤ right.cross left.scale := Iff.rfl

theorem lt_def (left right : Decimal) :
    left < right ↔ left.cross right.scale < right.cross left.scale := Iff.rfl

@[simp] theorem natAbs_coefficient (value : Decimal) :
    value.coefficient.natAbs = value.magnitude := by
  unfold coefficient
  split <;> simp

@[simp] theorem ofParts?_parts (value : Decimal) :
    ofParts? value.negative value.magnitude value.scale = some value := by
  simp [ofParts?, value.magnitude_lt, value.scale_le]

@[simp] theorem coefficient_plainZero (value : Decimal) :
    value.plainZero.coefficient = value.coefficient := by
  unfold plainZero
  split
  · next zero => simp [coefficient, zero]
  · rfl

/-- Making a decimal succeeds with the coefficient and the scale that were asked
for. -/
theorem parts_of_make? {coefficient : Int} {scale : Nat} {value : Decimal}
    (made : make? coefficient scale = some value) :
    value.coefficient = coefficient ∧ value.scale = scale := by
  unfold make? ofParts? at made
  split at made
  · cases made
    refine ⟨?_, rfl⟩
    simp only [Decimal.coefficient, decide_eq_true_eq]
    split <;> omega
  · cases made

/-- A decimal can be made exactly when its coefficient and its scale are in
range. -/
theorem isSome_make? {coefficient : Int} {scale : Nat} :
    (make? coefficient scale).isSome ↔ coefficient.natAbs < limit ∧
    scale ≤ maxScale := by
  unfold make? ofParts?
  split <;> simp_all

end Decimal

end ExamHall
