import ExamHall.Power

/-!
# A stream of random words

The ChaCha stream cipher with twelve rounds, a 64-bit block counter and a zero
nonce, keyed from a 64-bit seed. A generator is the key together with the words
of the current block that are still unused, so equal seeds give equal streams.
-/

namespace ExamHall.Random

/-- A word turned left by a number of bits between 1 and 31. -/
def rotateLeft (word : UInt32) (bits : UInt32) : UInt32 :=
  (word <<< bits) ||| (word >>> (32 - bits))

/-- A word turned right by any number of bits. -/
def turnRight (word : UInt32) (bits : UInt32) : UInt32 :=
  let bits := bits % 32
  if bits = 0 then word else (word >>> bits) ||| (word <<< (32 - bits))

/-- One key word from the state of the seed's own small generator. -/
def keyWord (state : UInt64) : UInt32 :=
  turnRight ((((state >>> 18) ^^^ state) >>> 27).toUInt32)
    (state >>> 59).toUInt32

/-- The next state of the seed's own small generator. -/
def nextKeyState (state : UInt64) : UInt64 :=
  state * 6364136223846793005 + 11634580027462260723

/-- A number of key words from a state. -/
def keyWords : Nat → UInt64 → List UInt32
  | 0, _ => []
  | count + 1, state =>
    let state := nextKeyState state
    keyWord state :: keyWords count state

/-- The four words that a quarter round mixes. -/
structure Quarter where
  a : UInt32
  b : UInt32
  c : UInt32
  d : UInt32

/-- One quarter round. -/
def Quarter.mix (q : Quarter) : Quarter :=
  let a := q.a + q.b
  let d := rotateLeft (q.d ^^^ a) 16
  let c := q.c + d
  let b := rotateLeft (q.b ^^^ c) 12
  let a := a + b
  let d := rotateLeft (d ^^^ a) 8
  let c := c + d
  let b := rotateLeft (b ^^^ c) 7
  ⟨a, b, c, d⟩

/-- A quarter round on four positions of the sixteen words. -/
def mixAt (words : Array UInt32) (a b c d : Nat) : Array UInt32 :=
  let q : Quarter :=
    ⟨words.getD a 0, words.getD b 0, words.getD c 0, words.getD d 0⟩
  let q := q.mix
  (((words.setIfInBounds a q.a).setIfInBounds b q.b).setIfInBounds c
    q.c).setIfInBounds d q.d

/-- Two rounds: the columns, then the diagonals. -/
def doubleRound (words : Array UInt32) : Array UInt32 :=
  let words := mixAt words 0 4 8 12
  let words := mixAt words 1 5 9 13
  let words := mixAt words 2 6 10 14
  let words := mixAt words 3 7 11 15
  let words := mixAt words 0 5 10 15
  let words := mixAt words 1 6 11 12
  let words := mixAt words 2 7 8 13
  mixAt words 3 4 9 14

/-- The sixteen words before the rounds. -/
def blockStart (key : List UInt32) (counter : UInt64) : Array UInt32 :=
  let constants : List UInt32 :=
    [0x61707865, 0x3320646e, 0x79622d32, 0x6b206574]
  (constants ++ key ++ [counter.toUInt32, (counter >>> 32).toUInt32, 0,
    0]).toArray

/-- The sixteen words of a block. -/
def block (key : List UInt32) (counter : UInt64) : List UInt32 :=
  let start := blockStart key counter
  let mixed := (List.range 6).foldl (fun words _ => doubleRound words) start
  (start.toList.zip mixed.toList).map fun pair => pair.1 + pair.2

/-- A generator: the key, the number of the next block, and the unused words of
the current one. -/
structure Generator where
  key : List UInt32
  counter : UInt64
  pending : List UInt32
deriving DecidableEq

/-- The generator of a seed. -/
def Generator.ofSeed (seed : UInt64) : Generator :=
  ⟨keyWords 8 seed, 0, []⟩

/-- The next word of the stream. -/
def Generator.word (generator : Generator) : UInt32 × Generator :=
  match generator.pending with
  | word :: pending => (word, { generator with pending })
  | [] =>
    match block generator.key generator.counter with
    | word :: pending =>
        (word, { generator with counter := generator.counter + 1, pending })
    | [] => (0, generator)

/-- The next 64 bits of the stream, low word first. -/
def Generator.doubleWord (generator : Generator) : Nat × Generator :=
  let (low, generator) := generator.word
  let (high, generator) := generator.word
  (high.toNat * twoTo 32 + low.toNat, generator)

end ExamHall.Random
