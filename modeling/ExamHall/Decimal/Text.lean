import ExamHall.Decimal.Arithmetic
import ExamHall.Text.Numeral

/-!
# The text of a decimal

A decimal is written with exactly as many fractional digits as its scale says.
The reader keeps the scale that is written. It accepts a sign, a point anywhere
among the digits and underscores after the first digit; fractional digits that
no longer fit are rounded on the first one left out. The scientific form adds an
exponent, which moves the point by up to 28 places.
-/

namespace ExamHall.Decimal

open ExamHall.Text

/-- The characters of a decimal. -/
def toChars (value : Decimal) : List Char :=
  let unit := tenTo value.scale
  let sign := if value.negative then ['-'] else []
  let fraction :=
    if value.scale = 0 then []
    else '.' :: paddedNumeral value.scale (value.magnitude % unit)
  sign ++ numeral (value.magnitude / unit) ++ fraction

/-- The text of a decimal. -/
def toText (value : Decimal) : String :=
  String.ofList value.toChars

/-- What has been read of a decimal so far. -/
structure Scan where
  magnitude : Nat
  scale : Nat
  afterPoint : Bool
  anyDigit : Bool

/-- Rounds on the first fractional digit that no longer fits. A magnitude that
is at its limit gives up a digit, if it has a fractional one. -/
def Scan.rounded? (scan : Scan) (digit : Nat) : Option (Nat × Nat) :=
  if digit < 5 then some (scan.magnitude, scan.scale)
  else if scan.magnitude + 1 < limit then some (scan.magnitude + 1, scan.scale)
  else if scan.scale = 0 then none
  else some ((scan.magnitude + 5) / 10, scan.scale - 1)

/-- Whether only digits and underscores are left. -/
def isDigitTail (cs : List Char) : Bool :=
  cs.all fun c => c == '_' || (digitValue? c).isSome

/-- The magnitude and scale when no further digit fits. -/
def Scan.finish? (scan : Scan) (cs : List Char) : Option (Nat × Nat) :=
  if isDigitTail cs then
    match cs.findSome? digitValue? with
    | some digit => scan.rounded? digit
    | none => some (scan.magnitude, scan.scale)
  else none

/-- The magnitude and scale that the remaining characters complete. -/
def readMagnitude (scan : Scan) : List Char → Option (Nat × Nat)
  | [] => if scan.anyDigit then some (scan.magnitude, scan.scale) else none
  | c :: rest =>
    if scan.afterPoint ∧ scan.scale = maxScale then scan.finish? (c :: rest)
    else if c = '.' then
      if scan.afterPoint then none
      else readMagnitude { scan with afterPoint := true } rest
    else if c = '_' then
      if scan.anyDigit then readMagnitude scan rest else none
    else
      match digitValue? c with
      | none => none
      | some digit =>
        if 10 * scan.magnitude + digit < limit then
          readMagnitude
            { magnitude := 10 * scan.magnitude + digit
              scale := if scan.afterPoint then scan.scale + 1 else scan.scale
              afterPoint := scan.afterPoint
              anyDigit := true } rest
        else if scan.afterPoint then scan.finish? (c :: rest)
        else none

/-- The decimal that characters write in plain form; zero has no minus sign. -/
def readPlain? (cs : List Char) : Option Decimal :=
  let start : Scan := ⟨0, 0, false, false⟩
  let (negative, digits) := match cs with
    | '-' :: rest => (true, rest)
    | '+' :: rest => (false, rest)
    | _ => (false, cs)
  (readMagnitude start digits).bind fun part =>
    (ofParts? negative part.1 part.2).map plainZero

/-- The value with its point moved to the right. -/
def shiftRight? (value : Decimal) (places : Nat) : Option Decimal :=
  if places ≤ value.scale
    then ofParts? value.negative value.magnitude (value.scale - places)
  else
    (ofParts? value.negative
      (value.magnitude * tenTo (places - value.scale)) 0).map plainZero

/-- The value with its point moved to the left; fractional digits that no longer
fit are rounded. -/
def shiftLeft? (value : Decimal) (places : Nat) : Option Decimal :=
  let short := value.shorten (maxScale - places)
  ofParts? short.negative short.magnitude (short.scale + places)

/-- The number of places that an exponent moves the point by. -/
def readPlaces? (cs : List Char) : Option Nat :=
  (readUnsigned? (twoTo 32) (String.ofList cs)).filter (· ≤ maxScale)

/-- The decimal that characters write in scientific form. -/
def readScientific? (cs : List Char) : Option Decimal :=
  let isMark := fun c => c == 'e' || c == 'E'
  match cs.dropWhile fun c => !isMark c with
  | [] => none
  | _ :: exponent => do
    let value ← readPlain? (cs.takeWhile fun c => !isMark c)
    match exponent with
    | '-' :: exponent => value.shiftLeft? (← readPlaces? exponent)
    | _ => value.shiftRight? (← readPlaces? exponent)

/-- The decimal that a text writes in plain form. -/
def ofText? (text : String) : Option Decimal :=
  readPlain? text.toList

/-- The decimal that a text writes in plain or scientific form. -/
def ofAnyText? (text : String) : Option Decimal :=
  (readPlain? text.toList).or (readScientific? text.toList)

end ExamHall.Decimal
