import ExamHall.Json.Basic
import ExamHall.Json.Cursor

/-!
# Texts and numbers in documents

A text is escaped as the format says and has to be UTF-8. The significand of a
number counts as far as 64 bits hold it; a number that is too large for binary64
is malformed.
-/

namespace ExamHall.Json

/-! ## Texts -/

/-- The value of a hexadecimal digit. -/
def hexValue? (c : Char) : Option Nat :=
  if '0' ≤ c ∧ c ≤ '9' then some (c.toNat - 48)
  else if 'a' ≤ c ∧ c ≤ 'f' then some (c.toNat - 87)
  else if 'A' ≤ c ∧ c ≤ 'F' then some (c.toNat - 55)
  else none

/-- The number that four hexadecimal digits write. -/
def unitValue? (a b c d : UInt8) : Option Nat := do
  let a ← hexValue? (letter a)
  let b ← hexValue? (letter b)
  let c ← hexValue? (letter c)
  let d ← hexValue? (letter d)
  some (((a * 16 + b) * 16 + c) * 16 + d)

/-- Takes four hexadecimal digits. -/
def scanUnit : List UInt8 → Scanned Nat
  | a :: b :: c :: d :: rest =>
    match unitValue? a b c d with
    | some value => (.ok value, rest)
    | none => (.error .malformed, rest)
  | _ => (.error .malformed, [])

/-- Whether a unit of sixteen bits is the first half of a pair. -/
def isHighHalf (unit : Nat) : Bool :=
  decide (0xD800 ≤ unit) && decide (unit ≤ 0xDBFF)

/-- Whether a unit of sixteen bits is the second half of a pair. -/
def isLowHalf (unit : Nat) : Bool :=
  decide (0xDC00 ≤ unit) && decide (unit ≤ 0xDFFF)

/-- The bytes of the character with a code. -/
def codeBytes (code : Nat) : List UInt8 :=
  Text.utf8 (String.singleton (Char.ofNat code))

/-- The second half of a pair, with the mark before it. A byte that cannot
belong to it is taken too. -/
def scanLowHalf (high : Nat) : List UInt8 → Scanned (List UInt8)
  | [] => (.error .malformed, [])
  | byte :: rest =>
    if letter byte = '\\' then
      match rest with
      | [] => (.error .malformed, [])
      | byte :: rest =>
        if letter byte = 'u' then
          match scanUnit rest with
          | (.ok low, rest) =>
            if isLowHalf low then
              (.ok (codeBytes
                  (0x10000 + (high - 0xD800) * 0x400 + (low - 0xDC00))), rest)
            else (.error .malformed, rest)
          | (.error fault, rest) => (.error fault, rest)
        else (.error .malformed, rest)
    else (.error .malformed, rest)

/-- The bytes of a character that is given by number. -/
def scanCode (bytes : List UInt8) : Scanned (List UInt8) :=
  match scanUnit bytes with
  | (.ok unit, rest) =>
    if isHighHalf unit then scanLowHalf unit rest
    else if isLowHalf unit then (.error .malformed, rest)
    else (.ok (codeBytes unit), rest)
  | (.error fault, rest) => (.error fault, rest)

/-- The character that a single letter after a backslash stands for. -/
def shortEscape? (c : Char) : Option Char :=
  match c with
  | '"' => some '"'
  | '\\' => some '\\'
  | '/' => some '/'
  | 'b' => some '\x08'
  | 'f' => some '\x0c'
  | 'n' => some '\n'
  | 'r' => some '\r'
  | 't' => some '\t'
  | _ => none

/-- The bytes that an escape stands for, after its backslash. -/
def scanEscape : List UInt8 → Scanned (List UInt8)
  | [] => (.error .malformed, [])
  | byte :: rest =>
    if letter byte = 'u' then scanCode rest
    else
      match shortEscape? (letter byte) with
      | some c => (.ok (codeBytes c.toNat), rest)
      | none => (.error .malformed, rest)

/-- The bytes of a text up to its closing mark; `read` holds them, last one
first. -/
def scanText : Nat → List UInt8 → List UInt8 → Scanned (List UInt8)
  | 0, _, bytes => (.error .malformed, bytes)
  | _ + 1, _, [] => (.error .malformed, [])
  | fuel + 1, read, byte :: rest =>
    if letter byte = '"' then (.ok read.reverse, rest)
    else if letter byte = '\\' then
      match scanEscape rest with
      | (.ok escaped, rest) => scanText fuel (escaped.reverse ++ read) rest
      | (.error fault, rest) => (.error fault, rest)
    else if byte.toNat < 0x20 then (.error .malformed, rest)
    else scanText fuel (byte :: read) rest

/-- A text after its opening mark. -/
def scanString (bytes : List UInt8) : Scanned String :=
  match scanText (bytes.length + 1) [] bytes with
  | (.ok read, rest) =>
    match Text.ofUtf8? read with
    | some written => (.ok written, rest)
    | none => (.error .malformed, rest)
  | (.error fault, rest) => (.error fault, rest)

/-- A text, whose opening mark is at the cursor. -/
def Reader.text : Reader String := do
  Reader.skip
  Reader.piece scanString

/-! ## Numbers -/

/-- The value of a digit. -/
def digitOf? (byte : UInt8) : Option Nat :=
  Text.digitValue? (letter byte)

/-- The leading digits, and what follows them. -/
def spanDigits (bytes : List UInt8) : List Nat × List UInt8 :=
  ((bytes.takeWhile fun byte => (digitOf? byte).isSome).filterMap digitOf?,
    bytes.dropWhile fun byte => (digitOf? byte).isSome)

/-- A decimal significand of at most 64 bits with a power of ten. -/
structure Significand where
  value : Nat
  exponent : Int
  whole : Bool

/-- Takes in a digit before the point. -/
def Significand.pushWhole (part : Significand) (digit : Nat) : Significand :=
  if part.whole ∧ part.value * 10 + digit < twoTo 64 then
    { part with value := part.value * 10 + digit }
  else { part with exponent := part.exponent + 1, whole := false }

/-- Takes in a digit after the point; the mark tells whether digits still
count. -/
def Significand.pushFraction (part : Significand × Bool) (digit : Nat) :
    Significand × Bool :=
  if part.2 ∧ part.1.value * 10 + digit < twoTo 64 then
    ({ part.1 with value := part.1.value * 10 + digit,
                   exponent := part.1.exponent - 1 }, true)
  else (part.1, false)

/-- The binary64 value of a significand. -/
def Significand.number (negative : Bool) (part : Significand) :
    Except ReadFault JsonNumber :=
  match Binary64.ofParts? negative part.value part.exponent with
  | some bits => .ok (.binary bits)
  | none => .error .malformed

/-- The digits of an exponent after the first one. There is no number at the
digit with which it leaves 32 bits. -/
def scanPower (value : Nat) : List UInt8 → Option Nat × List UInt8
  | [] => (some value, [])
  | byte :: rest =>
    match digitOf? byte with
    | some digit =>
      if value * 10 + digit < twoTo 31 then scanPower (value * 10 + digit) rest
      else (none, rest)
    | none => (some value, byte :: rest)

/-- The sign of an exponent, and what follows it. -/
def spanSign : List UInt8 → Bool × List UInt8
  | [] => (false, [])
  | byte :: rest =>
    if letter byte = '-' then (true, rest)
    else if letter byte = '+' then (false, rest)
    else (false, byte :: rest)

/-- A number with its exponent, after the mark of the exponent. -/
def scanExponent (negative : Bool) (part : Significand) (bytes : List UInt8) :
    Scanned JsonNumber :=
  let (down, bytes) := spanSign bytes
  match bytes with
  | [] => (.error .malformed, [])
  | byte :: rest =>
    match digitOf? byte with
    | none => (.error .malformed, rest)
    | some digit =>
      match scanPower digit rest with
      | (some power, rest) =>
        let shift : Int := if down then -(power : Int) else power
        ({ part with exponent := part.exponent + shift }.number negative, rest)
      | (none, rest) =>
        if part.value ≠ 0 ∧ down = false then (.error .malformed, rest)
        else
          ((⟨0, 0, false⟩ : Significand).number negative, (spanDigits rest).2)

/-- A number with or without an exponent, after its other digits. -/
def scanScaled (negative : Bool) (part : Significand) (bytes : List UInt8) :
    Scanned JsonNumber :=
  match bytes with
  | [] => (part.number negative, [])
  | byte :: rest =>
    if letter byte = 'e' ∨ letter byte = 'E'
      then scanExponent negative part rest
    else (part.number negative, byte :: rest)

/-- The number of a significand without fraction and exponent, an integer if 64
bits hold it. -/
def Significand.plain (negative : Bool) (part : Significand) :
    Except ReadFault JsonNumber :=
  if part.whole ∧ negative = false then .ok (.integer part.value)
  else if part.whole ∧ 0 < part.value ∧ part.value ≤ twoTo 63 then
    .ok (.integer (-(part.value : Int)))
  else part.number negative

/-- A number after its digits before the point. -/
def scanFraction (negative : Bool) (part : Significand) (bytes : List UInt8) :
    Scanned JsonNumber :=
  match bytes with
  | [] => (part.plain negative, [])
  | byte :: rest =>
    if letter byte = '.' then
      let (digits, rest) := spanDigits rest
      if digits.isEmpty then (.error .malformed, rest)
      else scanScaled negative
        (digits.foldl Significand.pushFraction (part, true)).1 rest
    else if letter byte = 'e' ∨ letter byte = 'E'
      then scanExponent negative part rest
    else (part.plain negative, byte :: rest)

/-- A number after its minus sign, if it has one. -/
def scanNumber (negative : Bool) : List UInt8 → Scanned JsonNumber
  | [] => (.error .malformed, [])
  | byte :: rest =>
    match digitOf? byte with
    | none => (.error .malformed, rest)
    | some 0 =>
      if (rest.head?.bind digitOf?).isSome then (.error .malformed, rest)
      else scanFraction negative ⟨0, 0, true⟩ rest
    | some digit =>
      let (digits, rest) := spanDigits rest
      scanFraction negative
        (digits.foldl Significand.pushWhole ⟨digit, 0, true⟩) rest

/-- A number, which starts at the cursor. -/
def Reader.number : Reader JsonNumber :=
  Reader.piece fun bytes =>
    match bytes with
    | [] => (.error .malformed, [])
    | byte :: rest =>
        if letter byte = '-' then scanNumber true rest
        else scanNumber false bytes

end ExamHall.Json
