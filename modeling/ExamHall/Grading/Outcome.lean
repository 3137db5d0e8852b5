import ExamHall.Decimal.Text

/-!
# Outcomes of grading

Points carry two fractional digits and are rounded half away from zero. An
outcome says how many points an answer earned and what that means. A calculation
that leaves the range of decimals has no outcome.
-/

namespace ExamHall

/-- Points rounded to two fractional digits and written with two, if they
fit. -/
def roundPoints (value : Decimal) : Decimal :=
  (value.roundTo 2).widenTo 2

/-- What grading one answer has found. -/
structure GradeOutcome where
  earned : Decimal
  isCorrect : Bool
  isPartial : Bool
  needsManual : Bool
deriving DecidableEq

namespace GradeOutcome

/-- No points. -/
def unanswered : GradeOutcome :=
  ⟨roundPoints .zero, false, false, false⟩

/-- All points. -/
def full (points : Decimal) : GradeOutcome :=
  ⟨roundPoints points, true, false, false⟩

/-- A part of the points. -/
def scaled? (points part : Decimal) : Option GradeOutcome :=
  (points.mul? part).map fun product =>
    let earned := roundPoints product
    let most := roundPoints points
    { earned
      isCorrect :=
        decide (earned.SameValue most) && decide (part.SameValue .one)
      isPartial := decide (Decimal.zero < earned) && decide (earned < most)
      needsManual := false }

end GradeOutcome

/-- A reviewer's score that is below zero or above the points of the question,
both rounded. -/
structure ScoreOutOfRange where
  score : Decimal
  most : Decimal
deriving DecidableEq

/-- What a score error tells the reviewer. -/
def ScoreOutOfRange.message (error : ScoreOutOfRange) : String :=
  "score " ++ error.score.toText ++ " must be between 0 and " ++
    error.most.toText

/-- The outcome of a reviewer's score. -/
def manualOutcome (points score : Decimal) :
    Except ScoreOutOfRange GradeOutcome :=
  let most := roundPoints points
  let score := roundPoints score
  if score < Decimal.zero ∨ most < score then .error ⟨score, most⟩
  else
    .ok
      { earned := score
        isCorrect := decide (score.SameValue most)
        isPartial := decide (Decimal.zero < score) && decide (score < most)
        needsManual := false }

end ExamHall
