import ExamHall.Caller
import ExamHall.Exam.Action
import ExamHall.Grading.Rules
import ExamHall.Grading.Totals
import ExamHall.Request.Answers
import ExamHall.Response.Attempt
import ExamHall.Store.Answers
import ExamHall.Store.Assignments
import ExamHall.Store.Attempts
import ExamHall.Store.Tests

/-!
# Submitting and grading attempts

Grading an attempt is one transaction: questions without an answer get an empty
one, every answer is graded against the variant, and the totals go into the
attempt. It happens only to submitted attempts. An attempt whose grading fails
stays submitted and is taken up again later.
-/

namespace ExamHall.Exam

open Store

/-- The questions of a variant that have no answer yet, with their points. -/
def unanswered (questions : List VariantQuestion)
    (answers : List (SavedAnswer Answer)) : List (String × Decimal) :=
  (questions.filter fun question => !(answers.map (·.questionId)).contains
    question.questionId).map fun question =>
      (question.questionId, question.points)

/-- Grades one answer, and gives what it adds to the totals; an answer to a
question that the variant does not have is passed over. -/
def gradeAnswer (variant : Variant (List VariantQuestion)) (now : Instant)
    (answer : SavedAnswer Answer) :
    Transaction AttemptError (Option Tally) := do
  match variant.question? answer.questionId with
  | none => pure none
  | some question => do
    let outcome ← Transaction.inRange
      (Grading.grade? question.payload question.points answer.value)
    let most := roundPoints question.points
    recordScore answer.id { outcome, maxPoints := most, gradedAt := now }
    pure (some { earned := outcome.earned, most,
                 needsManual := outcome.needsManual })

/-- Grades answers one after another. -/
def gradeAnswers (variant : Variant (List VariantQuestion)) (now : Instant) :
    List (SavedAnswer Answer) → Transaction AttemptError (List Tally)
  | [] => pure []
  | answer :: rest => do
    let tally ← gradeAnswer variant now answer
    let tallies ← gradeAnswers variant now rest
    pure (tally.toList ++ tallies)

/-- What grading writes into an attempt. -/
def scoreUpdate (totals : Totals) (status : AttemptStatus) (now : Instant) :
    ScoreUpdate :=
  { rawScore := totals.rawScore
    maxScore := totals.maxScore
    percentage := totals.percentage
    status
    gradedAt := now }

/-- Gives each question of an attempt that has no answer yet an empty one. -/
def fillSheet (attempt : Attempt) (questions : List VariantQuestion)
    (now : Instant) : Transaction AttemptError Unit := do
  let missing := unanswered questions (← answersOf attempt.id)
  if missing.isEmpty then pure () else insertUnanswered attempt.id missing now

/-- Grades all answers of an attempt, and writes the totals into it. -/
def gradeSheet (attempt : Attempt) (variant : Variant (List VariantQuestion))
    (now : Instant) : Transaction AttemptError (Option Attempt) := do
  let tallies ← gradeAnswers variant now (← answersOf attempt.id)
  let totals ← Transaction.inRange (totals? tallies)
  recordScores attempt.id .submitted
    (scoreUpdate totals totals.statusAfterAuto now)

/-- Grades an attempt that is locked and submitted. -/
def gradeLocked (attempt : Attempt) (now : Instant) :
    Transaction AttemptError
      (Option (Attempt × Variant (List VariantQuestion))) := do
  let variant ← variant attempt.variantId
  fillSheet attempt variant.questions now
  let graded ← gradeSheet attempt variant now
  pure (graded.map (·, variant))

/-- Grades an attempt if it is submitted, and gives it back with its variant. -/
def gradeTransaction (attemptId : String) (now : Instant) :
    Transaction AttemptError
      (Option (Attempt × Variant (List VariantQuestion))) := do
  match ← attempt? attemptId with
  | none => pure none
  | some attempt =>
    if attempt.status = .submitted then gradeLocked attempt now else pure none

/-- Publishes what has happened to an attempt. -/
def notify (kind : ProgressKind) (attempt : Attempt)
    (variant : Variant (List VariantQuestion)) : Action AttemptError Unit := do
  let counting : Action AttemptError Nat :=
    Action.query (countAnswered attempt.id)
  let answered ← Action.outcome counting
  Action.publish
    { kind, attempt
      answeredCount := match answered with
        | .ok count => count
        | .error _ => 0
      questionCount := variant.questions.length
      occurredAt := (← read).now }

/-- Grades an attempt if it is submitted, and publishes that. -/
def gradeSubmitted (attemptId : String) :
    Action AttemptError (Option Attempt) := do
  match ← Action.commit (gradeTransaction attemptId (← read).now) with
  | none => pure none
  | some (graded, variant) => do
    notify .graded graded variant
    pure (some graded)

/-- Publishes that an attempt has been submitted, if its variant can be
found. -/
def announce (submitted : Attempt) : Action AttemptError Unit := do
  let finding : Action AttemptError (Variant (List VariantQuestion)) :=
    Action.query (variant submitted.variantId)
  match ← Action.outcome finding with
  | .ok variant => notify .submitted submitted variant
  | .error _ => pure ()

/-- Publishes and grades an attempt that has just been submitted. A failure of
either does not matter to the caller: the attempt is then still submitted. -/
def complete (submitted : Attempt) : Action AttemptError Attempt := do
  announce submitted
  match ← Action.outcome (gradeSubmitted submitted.id) with
  | .ok (some graded) => pure graded
  | _ => pure submitted

/-- Submits and grades an attempt that is in progress; nothing if somebody else
was faster. -/
def finalize (attemptId : String) (submittedAt : Instant) :
    Action AttemptError (Option Attempt) := do
  match ← Action.query (markSubmitted attemptId submittedAt (← read).now) with
  | none => pure none
  | some submitted => some <$> complete submitted

/-- The assignment with an id, which the caller has to own or to
administrate. -/
def managedAssignment (caller : Caller) (assignmentId : String) :
    Transaction AttemptError Assignment := do
  let assignment ←
    Transaction.demand (← assignment? assignmentId) .unknownAssignment
  Transaction.require (caller.mayManage assignment.ownerId) .foreignAssignment
  pure assignment

/-- Grades a submitted attempt on request; an attempt with scores is given back
as it is. -/
def grade (caller : Caller) (attemptId : String) :
    Action AttemptError Attempt := do
  let attempt ←
    Action.demand (← Action.query (attempt? attemptId)) .unknownAttempt
  let _ ← Action.commit (managedAssignment caller attempt.assignmentId)
  match attempt.status with
  | .inProgress => Action.refuse .notSubmitted
  | .submitted =>
    match ← (gradeSubmitted attempt.id).mapError fun _ =>
      AttemptError.grading with
    | some graded => pure graded
    | none =>
        Action.demand (← Action.query (attempt? attempt.id)) .unknownAttempt
  | _ => pure attempt

/-- Stores a reviewer's score of an answer and the totals that follow from
it. -/
def reviewTransaction (reviewer : Caller) (attemptId answerId : String)
    (review : Review) (now : Instant) :
    Transaction AttemptError (SavedAnswer Answer × Attempt) := do
  let attempt ← Transaction.demand (← attempt? attemptId) .unknownAttempt
  let _ ← managedAssignment reviewer attempt.assignmentId
  Transaction.require attempt.status.isScored (.notReviewable attempt.status)
  let answer ← Transaction.demand (← answer? answerId) .unknownAnswer
  let outcome ← match manualOutcome answer.maxPoints review.score with
    | .ok outcome => pure outcome
    | .error error => Transaction.refuse (.score error)
  let reviewed ← recordManualScore answer.id
    { outcome, feedback := review.feedback, gradedBy := reviewer.id,
      gradedAt := now }
  let tallies := (← answersOf attempt.id).map fun answer =>
    ({ earned := answer.earnedPoints, most := answer.maxPoints,
       needsManual := answer.needsManual } : Tally)
  let totals ← Transaction.inRange (totals? tallies)
  let regraded ← recordScores attempt.id attempt.status
    (scoreUpdate totals totals.statusAfterManual now)
  pure (reviewed, ← Transaction.demand regraded .changedDuringReview)

/-- A reviewer's score of an answer. -/
def review (reviewer : Caller) (answerId : String) (review : Review) :
    Action AttemptError (SavedAnswer Answer × Attempt) := do
  let attemptId ←
    Action.demand (← Action.query (attemptOfAnswer? answerId)) .unknownAnswer
  Action.commit (reviewTransaction reviewer attemptId answerId review
      (← read).now)

end ExamHall.Exam
