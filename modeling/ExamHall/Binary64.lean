import ExamHall.Text.Numeral

/-!
# Binary floating-point numbers

Numbers with a fraction or an exponent are kept as the bits of a binary64 value.
Reading scales an integer significand by a power of ten with one rounding.
Writing finds the coarsest decimal grid with a point that reads back as the same
value, and takes the nearest such point.
-/

namespace ExamHall.Binary64

/-- The power `10 ^ exponent`, for exponents up to 308. -/
def powerOfTen (exponent : Nat) : Float :=
  Float.ofScientific 1 false exponent

/-- The value `magnitude * 10 ^ exponent`, or nothing when it is too large. -/
def scale? : Nat → Float → Int → Option Float
  | 0, magnitude, _ => some magnitude
  | fuel + 1, magnitude, exponent =>
    if exponent.natAbs ≤ 308 then
      if 0 ≤ exponent then
        let scaled := magnitude * powerOfTen exponent.natAbs
        if scaled.isInf then none else some scaled
      else some (magnitude / powerOfTen exponent.natAbs)
    else if magnitude == 0.0 then some magnitude
    else if 0 ≤ exponent then none
    else scale? fuel (magnitude / powerOfTen 308) (exponent + 308)

/-- The bits of `significand * 10 ^ exponent`; the significand has at most 64
bits. -/
def ofParts? (negative : Bool) (significand : Nat) (exponent : Int) :
    Option UInt64 :=
  (scale? 8 (UInt64.ofNat significand).toFloat exponent).map fun value =>
    (if negative then -value else value).toBits

/-- Whether the sign bit is set. -/
def isNegative (bits : UInt64) : Bool :=
  bits.toNat / twoTo 63 == 1

/-- The magnitude of a finite value as `significand * 2 ^ exponent`. -/
def parts (bits : UInt64) : Nat × Int :=
  let fraction : Nat := bits.toNat % twoTo 52
  let exponent : Nat := bits.toNat / twoTo 52 % twoTo 11
  if exponent = 0 then (fraction, -1074)
  else (fraction + twoTo 52, (exponent : Int) - 1075)

/-- The point of the grid of multiples of `10 ^ exponent` that stands for the
value, if one does. -/
def gridPoint? (bits : UInt64) (exponent : Int) : Option Nat :=
  let significand := (parts bits).1
  let binary := (parts bits).2 - 2
  let below := if bits.toNat % twoTo 52 = 0 ∧
    1 < bits.toNat / twoTo 52 % twoTo 11 then 1 else 2
  let factor := twoTo binary.toNat * tenTo (-exponent).toNat
  let unit := twoTo (-binary).toNat * tenTo exponent.toNat
  let value := 4 * significand * factor
  let low := (4 * significand - below) * factor
  let high := (4 * significand + 2) * factor
  let inside := fun point =>
    if significand % 2 = 0 then low ≤ point * unit ∧ point * unit ≤ high
    else low < point * unit ∧ point * unit < high
  let floor := value / unit
  let nearer := if 2 * value < (2 * floor + 1) * unit then floor else floor + 1
  let farther := if nearer = floor then floor + 1 else floor
  if inside nearer then some nearer
  else if inside farther then some farther
  else none

/-- The shortest decimal that reads back, as `digits * 10 ^ exponent`. -/
def shortest (bits : UInt64) : Nat × Int :=
  if (parts bits).1 = 0 then (0, 0)
  else
    ((List.range 660).findSome? fun (step : Nat) =>
      let exponent : Int := 310 - (step : Int)
      (gridPoint? bits exponent).map (·, exponent)).getD (0, 0)

/-- The digits of a magnitude in positional notation, without an exponent. -/
def positional (digits : Nat) (exponent : Int) : List Char :=
  if 0 ≤ exponent then Text.numeral (digits * tenTo exponent.toNat)
  else
    let places := (-exponent).toNat
    Text.numeral (digits / tenTo places) ++
      '.' :: Text.paddedNumeral places (digits % tenTo places)

/-- The text in positional notation; whole values have no point. -/
def toPlainText (bits : UInt64) : String :=
  let sign := if isNegative bits then ['-'] else []
  String.ofList (sign ++ positional (shortest bits).1 (shortest bits).2)

/-- The text as a number of a data format: whole values keep a point, extreme
ones an exponent. -/
def toText (bits : UInt64) : String :=
  let sign := if isNegative bits then ['-'] else []
  let (digits, exponent) := shortest bits
  let body :=
    if 16 < exponent ∨ exponent < -30 then
      Text.numeral digits ++ 'e' :: Text.integerNumeral exponent
    else if 0 ≤ exponent then positional digits exponent ++ ['.', '0']
    else positional digits exponent
  String.ofList (sign ++ body)

end ExamHall.Binary64
