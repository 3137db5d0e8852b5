/-!
# SHA-256 and its keyed form

The hash of FIPS 180-4 over lists of bytes. The message is padded to whole
blocks of 64 bytes; each block extends to a schedule of 64 words, which compress
into the eight words of the state one after another.

The keyed hash is that of RFC 2104: the key is brought to the length of a block,
and the message is hashed between two masks of it.
-/

namespace ExamHall.Sha256

/-- The round constants. -/
def constants : List UInt32 :=
  [0x428a2f98, 0x71374491, 0xb5c0fbcf, 0xe9b5dba5, 0x3956c25b, 0x59f111f1,
    0x923f82a4, 0xab1c5ed5, 0xd807aa98, 0x12835b01, 0x243185be, 0x550c7dc3,
    0x72be5d74, 0x80deb1fe, 0x9bdc06a7, 0xc19bf174, 0xe49b69c1, 0xefbe4786,
    0x0fc19dc6, 0x240ca1cc, 0x2de92c6f, 0x4a7484aa, 0x5cb0a9dc, 0x76f988da,
    0x983e5152, 0xa831c66d, 0xb00327c8, 0xbf597fc7, 0xc6e00bf3, 0xd5a79147,
    0x06ca6351, 0x14292967, 0x27b70a85, 0x2e1b2138, 0x4d2c6dfc, 0x53380d13,
    0x650a7354, 0x766a0abb, 0x81c2c92e, 0x92722c85, 0xa2bfe8a1, 0xa81a664b,
    0xc24b8b70, 0xc76c51a3, 0xd192e819, 0xd6990624, 0xf40e3585, 0x106aa070,
    0x19a4c116, 0x1e376c08, 0x2748774c, 0x34b0bcb5, 0x391c0cb3, 0x4ed8aa4a,
    0x5b9cca4f, 0x682e6ff3, 0x748f82ee, 0x78a5636f, 0x84c87814, 0x8cc70208,
    0x90befffa, 0xa4506ceb, 0xbef9a3f7, 0xc67178f2]

/-- The eight words of the state. -/
structure State where
  a : UInt32
  b : UInt32
  c : UInt32
  d : UInt32
  e : UInt32
  f : UInt32
  g : UInt32
  h : UInt32
deriving DecidableEq

/-- The state before the first block. -/
def initial : State :=
  ⟨0x6a09e667, 0xbb67ae85, 0x3c6ef372, 0xa54ff53a, 0x510e527f, 0x9b05688c,
    0x1f83d9ab, 0x5be0cd19⟩

/-- A word turned right by a number of bits below 32. -/
def rotateRight (word : UInt32) (bits : UInt32) : UInt32 :=
  (word >>> bits) ||| (word <<< (32 - bits))

/-- One round of the compression. -/
def round (state : State) (constant word : UInt32) : State :=
  let sum1 :=
    rotateRight state.e 6 ^^^ rotateRight state.e 11 ^^^ rotateRight state.e 25
  let choice := (state.e &&& state.f) ^^^ (~~~state.e &&& state.g)
  let first := state.h + sum1 + choice + constant + word
  let sum0 :=
    rotateRight state.a 2 ^^^ rotateRight state.a 13 ^^^ rotateRight state.a 22
  let majority :=
    (state.a &&& state.b) ^^^ (state.a &&& state.c) ^^^ (state.b &&& state.c)
  ⟨first + (sum0 + majority), state.a, state.b, state.c, state.d + first,
    state.e, state.f, state.g⟩

/-- The word of the schedule that follows the given ones, the latest of which
comes first. -/
def nextWord (words : List UInt32) : UInt32 :=
  let back := fun distance => words.getD (distance - 1) 0
  let small0 := fun word : UInt32 =>
    rotateRight word 7 ^^^ rotateRight word 18 ^^^ (word >>> 3)
  let small1 := fun word : UInt32 =>
    rotateRight word 17 ^^^ rotateRight word 19 ^^^ (word >>> 10)
  back 16 + small0 (back 15) + back 7 + small1 (back 2)

/-- A schedule extended by a number of words, the latest first. -/
def extend : Nat → List UInt32 → List UInt32
  | 0, words => words
  | count + 1, words => extend count (nextWord words :: words)

/-- The 32-bit words of a list of bytes, most significant byte first. -/
def wordsOf : List UInt8 → List UInt32
  | a :: b :: c :: d :: rest =>
    ((a.toUInt32 <<< 24) ||| (b.toUInt32 <<< 16) ||| (c.toUInt32 <<< 8) |||
      d.toUInt32) :: wordsOf rest
  | _ => []

/-- The bytes of a 32-bit word, most significant byte first. -/
def bytesOf (word : UInt32) : List UInt8 :=
  [(word >>> 24).toUInt8, (word >>> 16).toUInt8, (word >>> 8).toUInt8,
    word.toUInt8]

/-- The state after one more block of 64 bytes. -/
def compress (state : State) (block : List UInt8) : State :=
  let schedule := (extend 48 (wordsOf block).reverse).reverse
  let last := (constants.zip schedule).foldl
    (fun state pair => round state pair.1 pair.2) state
  ⟨state.a + last.a, state.b + last.b, state.c + last.c, state.d + last.d,
   state.e + last.e, state.f + last.f, state.g + last.g, state.h + last.h⟩

/-- The bytes of a natural number, most significant first, in a fixed number of
places. -/
def bigEndian : Nat → Nat → List UInt8
  | 0, _ => []
  | width + 1, value =>
      bigEndian width (value / 256) ++ [UInt8.ofNat (value % 256)]

/-- A message with its end mark, its zeros and its length in bits. -/
def padded (message : List UInt8) : List UInt8 :=
  let zeros := (119 - message.length % 64) % 64
  message ++ 0x80 :: List.replicate zeros 0 ++ bigEndian 8 (8 * message.length)

/-- The state after a number of whole blocks. -/
def compressBlocks : Nat → State → List UInt8 → State
  | 0, state, _ => state
  | count + 1, state, bytes =>
    compressBlocks count (compress state (bytes.take 64)) (bytes.drop 64)

/-- The bytes of a state. -/
def State.bytes (state : State) : List UInt8 :=
  [state.a, state.b, state.c, state.d, state.e, state.f, state.g,
    state.h].flatMap bytesOf

/-- The 32 bytes of the hash of a message. -/
def hash (message : List UInt8) : List UInt8 :=
  let bytes := padded message
  (compressBlocks (bytes.length / 64) initial bytes).bytes

end ExamHall.Sha256

namespace ExamHall.Hmac

/-- A key of exactly 64 bytes; a longer one is hashed first. -/
def blockKey (key : List UInt8) : List UInt8 :=
  let short := if 64 < key.length then Sha256.hash key else key
  short ++ List.replicate (64 - short.length) 0

/-- The keyed hash of a message. -/
def sign (key message : List UInt8) : List UInt8 :=
  let key := blockKey key
  Sha256.hash (key.map (· ^^^ 0x5c) ++
      Sha256.hash (key.map (· ^^^ 0x36) ++ message))

end ExamHall.Hmac
