/-!
# Bytes as text

The bytes of a text in UTF-8, lower-case hexadecimal notation, and base 64 with
the alphabet for addresses and without padding. The base 64 reader accepts only
what the writer can produce.
-/

namespace ExamHall.Text

/-- The bytes of a text in UTF-8. -/
def utf8 (text : String) : List UInt8 :=
  text.toUTF8.toList

/-- The text that bytes write in UTF-8. -/
def ofUtf8? (bytes : List UInt8) : Option String :=
  String.fromUTF8? (ByteArray.mk bytes.toArray)

/-- The character of four bits. -/
def hexChar (nibble : Nat) : Char :=
  if nibble < 10 then Char.ofNat (48 + nibble) else Char.ofNat (87 + nibble)

/-- Bytes in hexadecimal notation. -/
def hex (bytes : List UInt8) : String :=
  String.ofList (bytes.flatMap fun byte => [hexChar (byte.toNat / 16),
    hexChar (byte.toNat % 16)])

/-- The character of six bits in base 64. -/
def base64Char (value : Nat) : Char :=
  if value < 26 then Char.ofNat (65 + value)
  else if value < 52 then Char.ofNat (97 + (value - 26))
  else if value < 62 then Char.ofNat (48 + (value - 52))
  else if value = 62 then '-' else '_'

/-- The six bits of a character in base 64. -/
def base64Value? (c : Char) : Option Nat :=
  if 'A' ≤ c ∧ c ≤ 'Z' then some (c.toNat - 65)
  else if 'a' ≤ c ∧ c ≤ 'z' then some (c.toNat - 97 + 26)
  else if '0' ≤ c ∧ c ≤ '9' then some (c.toNat - 48 + 52)
  else if c = '-' then some 62
  else if c = '_' then some 63
  else none

/-- The base 64 characters of a list of bytes. -/
def base64Chars : List UInt8 → List Char
  | a :: b :: c :: rest =>
    let bits := (a.toNat * 256 + b.toNat) * 256 + c.toNat
    base64Char (bits / 262144) :: base64Char (bits / 4096 % 64) ::
      base64Char (bits / 64 % 64) :: base64Char (bits % 64) :: base64Chars rest
  | [a, b] =>
    let bits := (a.toNat * 256 + b.toNat) * 4
    [base64Char (bits / 4096), base64Char (bits / 64 % 64),
      base64Char (bits % 64)]
  | [a] => [base64Char (a.toNat / 4), base64Char (a.toNat % 4 * 16)]
  | [] => []

/-- Bytes in base 64. -/
def base64 (bytes : List UInt8) : String :=
  String.ofList (base64Chars bytes)

/-- The bytes that base 64 values write; unused bits have to be zero. -/
def base64Bytes? : List Nat → Option (List UInt8)
  | a :: b :: c :: d :: rest =>
    (base64Bytes? rest).map fun bytes =>
      UInt8.ofNat (a * 4 + b / 16) :: UInt8.ofNat (b % 16 * 16 + c / 4) ::
        UInt8.ofNat (c % 4 * 64 + d) :: bytes
  | [a, b, c] =>
    if c % 4 = 0 then
      some [UInt8.ofNat (a * 4 + b / 16), UInt8.ofNat (b % 16 * 16 + c / 4)]
    else none
  | [a, b] => if b % 16 = 0 then some [UInt8.ofNat (a * 4 + b / 16)] else none
  | [_] => none
  | [] => some []

/-- The bytes that characters write in base 64. -/
def ofBase64? (cs : List Char) : Option (List UInt8) :=
  (cs.mapM base64Value?).bind base64Bytes?

end ExamHall.Text
