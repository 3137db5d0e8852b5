import ExamHall.Random.ChaCha

/-!
# Shuffling and sampling

Both operations exchange the items at certain positions, from the last one
downwards, with items at drawn positions not behind them. What they do is a
function of the drawn positions alone: `rearrange` takes the draws as data, and
a generator only supplies them. A draw takes 64 bits at a time and rejects the
few values that would favour some positions.
-/

namespace ExamHall.Random

/-- How many times a draw is repeated before its value is taken as it is. -/
def maxRejections : Nat := 256

/-- The largest accepted low half of a product with a span. -/
def acceptedBelow (span : Nat) : Nat :=
  span * twoTo (63 - Nat.log2 span) - 1

/-- A number below `span` from the stream; the repetitions are bounded by
`rejections`. -/
def drawBelow (span : Nat) : Nat → Generator → Nat × Generator
  | 0, generator =>
    let (bits, generator) := generator.doubleWord
    (bits * span / twoTo 64, generator)
  | rejections + 1, generator =>
    let (bits, generator) := generator.doubleWord
    if bits * span % twoTo 64 ≤ acceptedBelow span
      then (bits * span / twoTo 64, generator)
    else drawBelow span rejections generator

/-- A position between zero and `last`, both included. -/
def drawPosition (last : Nat) (generator : Generator) : Nat × Generator :=
  drawBelow (last + 1) maxRejections generator

/-- One draw for each of the given last positions. -/
def drawPositions : List Nat → Generator → List Nat × Generator
  | [], generator => ([], generator)
  | last :: rest, generator =>
    let drawn := drawPosition last generator
    let others := drawPositions rest drawn.2
    (drawn.1 :: others.1, others.2)

/-- The last `count` positions of a list of `size` items, last one first. -/
def tailPositions (size count : Nat) : List Nat :=
  (List.range count).map fun step => size - 1 - step

/-- A list with the items at two positions exchanged. -/
def exchange {α : Type} (items : List α) (first second : Nat) : List α :=
  match items[first]?, items[second]? with
  | some x, some y => (items.set first y).set second x
  | _, _ => items

/-- Exchanges the item at each of the last positions, last one first, with the
item at the draw for it. -/
def rearrange {α : Type} (items : List α) (draws : List Nat) : List α :=
  ((tailPositions items.length draws.length).zip draws).foldl
    (fun items step => exchange items step.1 step.2) items

/-- A shuffled list. -/
def shuffle {α : Type} (items : List α) (generator : Generator) :
    List α × Generator :=
  let (draws, generator) :=
    drawPositions (tailPositions items.length (items.length - 1)) generator
  (rearrange items draws, generator)

/-- The list after sampling, whose last `min count size` items are the
sample. -/
def sampleTail {α : Type} (items : List α) (count : Nat)
    (generator : Generator) : List α × Generator :=
  let (draws, generator) :=
    drawPositions (tailPositions items.length (min count items.length))
      generator
  (rearrange items draws, generator)

/-- The items that sampling has brought to the end of a list. -/
def takeTail {α : Type} (items : List α) (count : Nat) : List α :=
  items.drop (items.length - count)

end ExamHall.Random
