import ExamHall.Json.Lexeme

/-!
# Passing over values

A value that nobody asks for only has to be built like one. Its texts need not
be UTF-8, halves of pairs may stand alone in them, its numbers may be of any
size, and it may be nested to any depth.
-/

namespace ExamHall.Json

/-- Where a text stands between two of its bytes. -/
inductive TextState where
  | plain
  | escaped
  | inCode (digitsLeft : Nat)

/-- What follows a text after its opening mark. -/
def skipText : TextState → List UInt8 → Option (List UInt8)
  | _, [] => none
  | .plain, byte :: rest =>
    if letter byte = '"' then some rest
    else if letter byte = '\\' then skipText .escaped rest
    else if byte.toNat < 0x20 then none
    else skipText .plain rest
  | .escaped, byte :: rest =>
    if letter byte = 'u' then skipText (.inCode 4) rest
    else if (shortEscape? (letter byte)).isSome then skipText .plain rest
    else none
  | .inCode digitsLeft, byte :: rest =>
    if (hexValue? (letter byte)).isSome then
      skipText (if digitsLeft ≤ 1 then .plain else .inCode (digitsLeft - 1))
        rest
    else none

/-- What follows at least one digit. -/
def skipDigits (bytes : List UInt8) : Option (List UInt8) :=
  match spanDigits bytes with
  | ([], _) => none
  | (_ :: _, rest) => some rest

/-- What follows an exponent, if there is one. -/
def skipExponent : List UInt8 → Option (List UInt8)
  | [] => some []
  | byte :: rest =>
    if letter byte = 'e' ∨ letter byte = 'E' then skipDigits (spanSign rest).2
    else some (byte :: rest)

/-- What follows a fraction and an exponent, if there are any. -/
def skipFraction : List UInt8 → Option (List UInt8)
  | [] => some []
  | byte :: rest =>
    if letter byte = '.' then (skipDigits rest).bind skipExponent
    else skipExponent (byte :: rest)

/-- What follows a number after its minus sign, if it has one. -/
def skipNumber (bytes : List UInt8) : Option (List UInt8) :=
  match spanDigits bytes with
  | ([], _) => none
  | (0 :: _ :: _, _) => none
  | (_ :: _, rest) => skipFraction rest

/-- What follows the rest of a word. -/
def skipWord (word : List Char) (bytes : List UInt8) : Option (List UInt8) :=
  match scanWord word bytes with
  | (.ok (), rest) => some rest
  | (.error _, _) => none

/-- What encloses a value. -/
inductive Bracket where
  | list
  | record
deriving DecidableEq

mutual

/-- What follows a value and everything that encloses it. -/
def skipValue : Nat → List Bracket → List UInt8 → Option (List UInt8)
  | 0, _, _ => none
  | fuel + 1, around, bytes =>
    match bytes.dropWhile isSpace with
    | [] => none
    | byte :: rest =>
      match letter byte with
      | 'n' => (skipWord ['u', 'l', 'l'] rest).bind (skipBehind fuel around)
      | 't' => (skipWord ['r', 'u', 'e'] rest).bind (skipBehind fuel around)
      | 'f' =>
          (skipWord ['a', 'l', 's', 'e'] rest).bind (skipBehind fuel around)
      | '"' => (skipText .plain rest).bind (skipBehind fuel around)
      | '-' => (skipNumber rest).bind (skipBehind fuel around)
      | '[' =>
        match rest.dropWhile isSpace with
        | [] => none
        | next :: more =>
          if letter next = ']' then skipBehind fuel around more
          else skipValue fuel (.list :: around) (next :: more)
      | '\x7b' =>
        match rest.dropWhile isSpace with
        | [] => none
        | next :: more =>
          if letter next = '\x7d' then skipBehind fuel around more
          else skipMember fuel (.record :: around) (next :: more)
      | _ => (skipNumber (byte :: rest)).bind (skipBehind fuel around)

/-- What follows a member of an object, which starts with its name, and
everything that encloses it. -/
def skipMember : Nat → List Bracket → List UInt8 → Option (List UInt8)
  | 0, _, _ => none
  | fuel + 1, around, bytes =>
    match bytes.dropWhile isSpace with
    | [] => none
    | byte :: rest =>
      if letter byte = '"' then
        (skipText .plain rest).bind fun rest =>
          match rest.dropWhile isSpace with
          | [] => none
          | byte :: rest =>
              if letter byte = ':' then skipValue fuel around rest else none
      else none

/-- What follows everything that is open, after a value. -/
def skipBehind : Nat → List Bracket → List UInt8 → Option (List UInt8)
  | 0, _, _ => none
  | _ + 1, [], bytes => some bytes
  | fuel + 1, bracket :: outer, bytes =>
    match bytes.dropWhile isSpace with
    | [] => none
    | byte :: rest =>
      match bracket, letter byte with
      | .list, ',' => skipValue fuel (bracket :: outer) rest
      | .list, ']' => skipBehind fuel outer rest
      | .record, ',' => skipMember fuel (bracket :: outer) rest
      | .record, '\x7d' => skipBehind fuel outer rest
      | _, _ => none

end

/-- Passes over a value. -/
def Reader.skipAny : Reader Unit :=
  Reader.piece fun bytes =>
    match skipValue (2 * bytes.length + 2) [] bytes with
    | some rest => (.ok (), rest)
    | none => (.error .malformed, bytes)

end ExamHall.Json
