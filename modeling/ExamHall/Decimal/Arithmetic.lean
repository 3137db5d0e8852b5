import ExamHall.Decimal.Basic

/-!
# Decimal arithmetic

Sums and products are exact as long as they fit. A result with too many digits
drops the fewest fractional digits that make it fit and is rounded once, a half
going to the even neighbour. A quotient that does not come out even takes as
many fractional digits as fit. An operation has no result when even the integer
part is too large, or when the divisor is zero. Results that are zero have no
minus sign, with two exceptions: a sum with zero is the other summand as it
stands, and a product that is rounded to zero keeps its sign if one of its
factors is wide.
-/

namespace ExamHall.Decimal

/-- The quotient rounded to the nearest integer, a half to the even
neighbour. -/
def divHalfEven (dividend divisor : Nat) : Nat :=
  let quotient := dividend / divisor
  let twice := 2 * (dividend % divisor)
  if twice < divisor then quotient
  else if divisor < twice then quotient + 1
  else if quotient % 2 = 0 then quotient else quotient + 1

/-- The quotient rounded to the nearest integer, a half away from zero. -/
def divHalfUp (dividend divisor : Nat) : Nat :=
  (2 * dividend + divisor) / (2 * divisor)

/-- The decimal nearest to `magnitude / 10 ^ scale` among those that drop the
fewest digits. -/
def ofScaled? (negative : Bool) (magnitude scale : Nat) : Option Decimal :=
  (List.range (scale + 1)).findSome? fun dropped =>
    ofParts? negative (divHalfEven magnitude (tenTo dropped)) (scale - dropped)

/-- The sum of two decimals. -/
def add? (left right : Decimal) : Option Decimal :=
  if left.magnitude = 0 then some right
  else if right.magnitude = 0 then some left
  else
    let scale := Nat.max left.scale right.scale
    let sum :=
      left.cross (scale - left.scale) + right.cross (scale - right.scale)
    (ofScaled? (decide (sum < 0)) sum.natAbs scale).map plainZero

/-- Whether the magnitude needs more than 32 bits. -/
def isWide (value : Decimal) : Bool :=
  decide (twoTo 32 ≤ value.magnitude)

/-- The product of two decimals. -/
def mul? (left right : Decimal) : Option Decimal :=
  if left.magnitude = 0 ∨ right.magnitude = 0 then some zero
  else
    let product := ofScaled? (left.negative != right.negative)
      (left.magnitude * right.magnitude) (left.scale + right.scale)
    if left.isWide || right.isWide then product else product.map plainZero

/-- The magnitude and the scale without zeros at the end of the fraction. -/
def dropZeros (magnitude : Nat) : Nat → Nat × Nat
  | 0 => (magnitude, 0)
  | scale + 1 =>
    if magnitude % 10 = 0 then dropZeros (magnitude / 10) scale
    else (magnitude, scale + 1)

/-- The decimal nearest to `dividend / divisor` among those with the most
fractional digits that fit. It has no zeros at the end of its fraction. -/
def nearestQuotient? (negative : Bool) (dividend divisor : Nat) :
    Option Decimal :=
  (List.range (maxScale + 1)).reverse.findSome? fun places =>
    let quotient := divHalfEven (dividend * tenTo places) divisor
    if quotient < limit then
      let (magnitude, scale) := dropZeros quotient places
      ofParts? negative magnitude scale
    else none

/-- The decimal nearest to `dividend / divisor`. It has `places` fractional
digits if it is exact with them. -/
def quotient? (negative : Bool) (dividend divisor places : Nat) :
    Option Decimal :=
  if divisor = 0 then none
  else if dividend = 0 then some zero
  else if dividend * tenTo places % divisor = 0 then
    ofParts? negative (dividend * tenTo places / divisor) places
  else (nearestQuotient? negative dividend divisor).map plainZero

/-- The quotient of two decimals. It is exact with the difference of their
scales, if that is possible. -/
def div? (left right : Decimal) : Option Decimal :=
  quotient? (left.negative != right.negative)
    (left.magnitude * tenTo right.scale) (right.magnitude * tenTo left.scale)
    (left.scale - right.scale)

/-- The sum of a list, added from the left, starting with zero. -/
def sum? (values : List Decimal) : Option Decimal :=
  values.foldlM add? zero

/-- An integer as a decimal without fractional digits. -/
def ofInt? (value : Int) : Option Decimal :=
  make? value 0

theorem divHalfUp_le {dividend divisor : Nat} (large : 2 ≤ divisor) :
    divHalfUp dividend divisor ≤ dividend := by
  unfold divHalfUp
  rcases Nat.eq_zero_or_pos dividend with rfl | positive
  · exact Nat.le_of_eq (Nat.div_eq_of_lt (by omega))
  · apply Nat.div_le_of_le_mul
    calc 2 * dividend + divisor ≤ divisor * dividend + divisor * dividend := by
          have := Nat.mul_le_mul_right dividend large
          have := Nat.mul_le_mul_left divisor positive
          omega
      _ = 2 * divisor * dividend := by
          rw [Nat.mul_assoc, Nat.two_mul]

/-- At most `places` fractional digits, rounded half away from zero. The sign
stays also at zero. -/
def shorten (places : Nat) (value : Decimal) : Decimal :=
  if short : value.scale ≤ places then value
  else
    { negative := value.negative
      magnitude := divHalfUp value.magnitude (tenTo (value.scale - places))
      scale := places
      magnitude_lt := by
        have large : 2 ≤ tenTo (value.scale - places) := two_le_tenTo (by omega)
        exact Nat.lt_of_le_of_lt (divHalfUp_le large) value.magnitude_lt
      scale_le := by
        have := value.scale_le
        omega }

/-- Rounding to at most `places` fractional digits, a half away from zero. What
is rounded to zero has no minus sign; what is zero before stays as it is. -/
def roundTo (places : Nat) (value : Decimal) : Decimal :=
  if value.magnitude = 0 then value.shorten places
  else (value.shorten places).plainZero

/-- The same value with up to `steps` more fractional digits, as many as fit. -/
def widen : Nat → Decimal → Decimal
  | 0, value => value
  | steps + 1, value =>
    match ofParts? value.negative (value.magnitude * 10) (value.scale + 1) with
    | some wider => widen steps wider
    | none => value

/-- The same value with `places` fractional digits, or as many below that as
fit. -/
def widenTo (places : Nat) (value : Decimal) : Decimal :=
  widen (places - value.scale) value

theorem scale_shorten_le (places : Nat) (value : Decimal) :
    (value.shorten places).scale ≤ places := by
  unfold shorten
  split
  · assumption
  · exact Nat.le_refl places

end ExamHall.Decimal
