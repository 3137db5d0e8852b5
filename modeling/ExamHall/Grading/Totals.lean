import ExamHall.Grading.Outcome
import ExamHall.Vocabulary

/-!
# Totals of an attempt

The points of all answers are added without rounding in between; the totals are
rounded once at the end. The percentage is zero when there is nothing to earn.
-/

namespace ExamHall

/-- What one answer adds to the totals. -/
structure Tally where
  earned : Decimal
  most : Decimal
  needsManual : Bool
deriving DecidableEq

/-- The totals of an attempt. -/
structure Totals where
  rawScore : Decimal
  maxScore : Decimal
  percentage : Decimal
  needsReview : Bool
deriving DecidableEq

/-- The share of the points in percent. -/
def percentage? (raw most : Decimal) : Option Decimal :=
  if most ≤ Decimal.zero then some (roundPoints .zero)
  else do
    let hundredfold ← raw.mul? .hundred
    let quotient ← hundredfold.div? most
    some (roundPoints quotient)

/-- The totals of a list of answers. -/
def totals? (tallies : List Tally) : Option Totals := do
  let raw ← Decimal.sum? (tallies.map (·.earned))
  let most ← Decimal.sum? (tallies.map (·.most))
  let percentage ← percentage? raw most
  some
    { rawScore := roundPoints raw
      maxScore := roundPoints most
      percentage
      needsReview := tallies.any (·.needsManual) }

/-- The status after automatic grading. -/
def Totals.statusAfterAuto (totals : Totals) : AttemptStatus :=
  if totals.needsReview then .needsReview else .autoGraded

/-- The status after a reviewer has scored an answer. -/
def Totals.statusAfterManual (totals : Totals) : AttemptStatus :=
  if totals.needsReview then .needsReview else .graded

end ExamHall
