import ExamHall.Power
import ExamHall.Text.Numeral
import ExamHall.Vocabulary

/-!
# Apportioning questions to difficulties

A number of questions is split over the difficulties in proportion to weights.
Every difficulty gets the whole part of its share; what is missing goes one by
one to the largest remainders, and among equal ones to the harder difficulty.
Counts have 32 bits; a sum that does not fit has no result.
-/

namespace ExamHall.Apportion

/-- Counts stay below this bound. -/
def countLimit : Nat := twoTo 32

/-- The whole part of a share; only its lowest 32 bits are kept. -/
def quota (total weight weightSum : Nat) : Nat :=
  total * weight / weightSum % countLimit

/-- What the whole part of a share leaves over. -/
def remainder (total weight weightSum : Nat) : Nat :=
  total * weight % weightSum

/-- The difficulties by falling remainder; among equal remainders the harder one
comes first. -/
def handOutOrder (remainders : PerDifficulty Nat) : List Difficulty :=
  [Difficulty.hard, .medium, .easy].mergeSort fun left right =>
    decide (remainders.get right ≤ remainders.get left)

/-- What a place in the order gets when `missing` pieces are handed out in
turn. -/
def extraAt (missing place : Nat) : Nat :=
  missing / 3 + (if place < missing % 3 then 1 else 0)

/-- The counts of a total in proportion to weights that make up `weightSum`. -/
def apportion? (total : Nat) (weights : PerDifficulty Nat) (weightSum : Nat) :
    Option (PerDifficulty Nat) :=
  if weightSum = 0 then some ⟨0, 0, 0⟩
  else
    let quotas := weights.map fun weight => quota total weight weightSum
    let order :=
      handOutOrder (weights.map fun weight => remainder total weight weightSum)
    let counts := PerDifficulty.of fun difficulty => quotas.get difficulty +
      extraAt (total - quotas.sum) (order.idxOf difficulty)
    if quotas.sum < countLimit ∧ counts.toList.all (· < countLimit)
      then some counts else none

/-- The counts that percentages ask for. -/
def bucketCounts? (total : Nat) (percentages : PerDifficulty Nat) :
    Option (PerDifficulty Nat) :=
  apportion? total percentages 100

/-- The percentages that counts imply; they sum to one hundred unless all counts
are zero. -/
def derivePercentages? (counts : PerDifficulty Nat) :
    Option (PerDifficulty Nat) :=
  if counts.sum < countLimit then apportion? 100 counts counts.sum else none

/-- What is wrong with a split into percentages. -/
inductive SplitFault where
  | tooLarge (percentage : Nat)
  | wrongSum (sum : Nat)
deriving DecidableEq, Repr

/-- What a split fault tells the author. -/
def SplitFault.message : SplitFault → String
  | .tooLarge percentage =>
    "difficulty percentages must be between 0 and 100, got " ++
      Text.ofNat percentage
  | .wrongSum sum =>
      "difficulty percentages must sum to 100, got " ++ Text.ofNat sum

/-- Percentages are at most one hundred each and one hundred together. -/
def splitFault? (percentages : PerDifficulty Nat) : Option SplitFault :=
  match percentages.toList.find? (100 < ·) with
  | some percentage => some (.tooLarge percentage)
  | none =>
      if percentages.sum = 100 then none else some (.wrongSum percentages.sum)

/-- A difficulty with fewer questions than are asked for. -/
structure Shortage where
  difficulty : Difficulty
  available : Nat
  required : Nat
deriving DecidableEq, Repr

/-- The difficulties that have too few questions, from easy to hard. -/
def shortages (available required : PerDifficulty Nat) : List Shortage :=
  (Difficulty.all.filter fun difficulty =>
      decide (available.get difficulty < required.get difficulty)).map
    fun difficulty =>
      ⟨difficulty, available.get difficulty, required.get difficulty⟩

/-- A shortage in words. -/
def Shortage.describe (shortage : Shortage) : String :=
  shortage.difficulty.word ++ " has " ++ Text.ofNat shortage.available ++
    " of " ++ Text.ofNat shortage.required ++ " required"

end ExamHall.Apportion
