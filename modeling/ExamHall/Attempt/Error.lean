import ExamHall.Attempt.Rules
import ExamHall.Grading.Outcome
import ExamHall.Question.Answer
import ExamHall.Store.Fault

/-!
# Why an operation on an attempt is refused

Each reason has one text; its kind decides how a request is answered.
-/

namespace ExamHall

/-- Why an operation on an assignment, an attempt or an answer is refused. -/
inductive AttemptError where
  | unknownAssignment
  | unknownAttempt
  | unknownAnswer
  | notOnRoster
  | wrongAccessCode
  | foreignAttempt
  | foreignAssignment
  | outsideWindow (state : WindowState)
  | noAttemptsLeft
  | noVariants
  | variantMissing (index : Nat)
  | startedElsewhere
  | notInProgress (status : AttemptStatus)
  | noLongerInProgress
  | alreadySubmitted
  | notSubmitted
  | notReviewable (status : AttemptStatus)
  | changedDuringReview
  | timeExpired
  | foreignQuestion (questionId : String)
  | negativeTime
  | answerShape (error : AnswerShapeError)
  | score (error : ScoreOutOfRange)
  | grading
  | storage (fault : StorageFault)
deriving DecidableEq

namespace AttemptError

/-- What an attempt error says. -/
def message : AttemptError → String
  | .unknownAssignment => "Assignment not found"
  | .unknownAttempt => "Attempt not found"
  | .unknownAnswer => "Answer not found"
  | .notOnRoster => "You are not assigned to this test"
  | .wrongAccessCode => "Invalid access code"
  | .foreignAttempt => "Not your attempt"
  | .foreignAssignment => "Not allowed to access this attempt"
  | .outsideWindow .notOpenYet => "Assignment has not started yet"
  | .outsideWindow .closed => "Assignment window has ended"
  | .outsideWindow _ => "Assignment is not active"
  | .noAttemptsLeft => "Maximum number of attempts reached"
  | .noVariants => "Generated test has no variants"
  | .variantMissing index => "Variant " ++ Text.ofNat index ++ " is missing"
  | .startedElsewhere => "Attempt was started concurrently"
  | .notInProgress status => "Attempt is " ++ status.word ++ ", not in progress"
  | .noLongerInProgress => "Attempt is no longer in progress"
  | .alreadySubmitted => "Attempt was already submitted"
  | .notSubmitted => "Attempt has not been submitted yet"
  | .notReviewable status =>
    "Attempt is " ++ status.word ++ "; only graded attempts can be reviewed"
  | .changedDuringReview => "Attempt changed during review"
  | .timeExpired => "time expired; the attempt was submitted at its deadline"
  | .foreignQuestion questionId =>
      "Question " ++ questionId ++ " is not part of this attempt"
  | .negativeTime => "time_spent_seconds must not be negative"
  | .answerShape error => error.message
  | .score error => error.message
  | .grading => "Attempt operation failed"
  | .storage fault => fault.message

end AttemptError

end ExamHall
