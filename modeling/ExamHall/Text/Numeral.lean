import ExamHall.Power

/-!
# Numerals

Writing natural numbers in base ten, with as many digits as needed or with a
fixed number of them, and reading them back. Readers of bounded integers accept
a leading plus sign; only signed ones accept a minus sign.
-/

namespace ExamHall.Text

/-- The character of a digit. -/
def digitChar (digit : Nat) : Char :=
  Char.ofNat (48 + digit % 10)

/-- The value of a digit character. -/
def digitValue? (c : Char) : Option Nat :=
  if 48 ≤ c.toNat ∧ c.toNat ≤ 57 then some (c.toNat - 48) else none

/-- The digits of `n` without leading zeros, for `fuel` larger than their
number. -/
def numeralWithin : Nat → Nat → List Char
  | 0, _ => []
  | fuel + 1, n =>
    if n < 10 then [digitChar n]
    else numeralWithin fuel (n / 10) ++ [digitChar n]

/-- The digits of `n` without leading zeros. -/
def numeral (n : Nat) : List Char :=
  numeralWithin (n + 1) n

/-- The last `width` digits of `n`, with leading zeros. -/
def paddedNumeral : Nat → Nat → List Char
  | 0, _ => []
  | width + 1, n => paddedNumeral width (n / 10) ++ [digitChar n]

/-- The digits of an integer, after a minus sign if it is negative. -/
def integerNumeral (n : Int) : List Char :=
  if n < 0 then '-' :: numeral n.natAbs else numeral n.natAbs

/-- The text of a natural number. -/
def ofNat (n : Nat) : String :=
  String.ofList (numeral n)

/-- The text of an integer. -/
def ofInt (n : Int) : String :=
  String.ofList (integerNumeral n)

/-- The number that digits write after a value already read, or nothing at
another character. -/
def readDigitsFrom (value : Nat) : List Char → Option Nat
  | [] => some value
  | c :: rest =>
    match digitValue? c with
    | some digit => readDigitsFrom (10 * value + digit) rest
    | none => none

/-- The number that a list of digits writes; the list has at least one. -/
def readDigits? : List Char → Option Nat
  | [] => none
  | c :: rest => readDigitsFrom 0 (c :: rest)

/-- An unsigned number below `bound`, with an optional plus sign. -/
def readUnsigned? (bound : Nat) (text : String) : Option Nat :=
  let digits := match text.toList with
    | '+' :: rest => rest
    | cs => cs
  (readDigits? digits).filter (· < bound)

/-- A signed number of `bits` bits, with an optional sign. -/
def readSigned? (bits : Nat) (text : String) : Option Int :=
  match text.toList with
  | '-' :: rest => (readDigits? rest).bind fun n =>
      if n ≤ twoTo (bits - 1) then some (-(n : Int)) else none
  | '+' :: rest => (readDigits? rest).bind fun n =>
      if n < twoTo (bits - 1) then some (n : Int) else none
  | cs => (readDigits? cs).bind fun n =>
      if n < twoTo (bits - 1) then some (n : Int) else none

end ExamHall.Text
