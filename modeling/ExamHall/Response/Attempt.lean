import ExamHall.Attempt.Rules
import ExamHall.Calendar.Instant
import ExamHall.Grading.Outcome
import ExamHall.Question.Content
import ExamHall.Records

/-!
# Responses about attempts

The views of attempts, answers and their questions that callers get. An answer's
score is part of its view only when scores are to be shown and grading has set
them; the time left is part of every view of an attempt and is zero once work on
it has ended.
-/

namespace ExamHall

/-- A written instant. -/
def instantJson (instant : Instant) : Json :=
  .text (Calendar.written instant)

/-- Points as a JSON text, rounded to two digits. -/
def pointsJson (points : Decimal) : Json :=
  .text (roundPoints points).toText

namespace Attempt

/-- The seconds left to work on an attempt. -/
def secondsLeft (attempt : Attempt) (now : Instant) : Int :=
  if attempt.status = .inProgress
    then remainingSeconds attempt.deadlineAt now else 0

/-- The members of the view of an attempt. -/
def viewMembers (attempt : Attempt) (now : Instant) : List (String × Json) :=
  [("id", .text attempt.id), ("assignment_id", .text attempt.assignmentId),
    ("student_id", .text attempt.studentId),
    ("attempt_number", .ofInt attempt.number),
    ("variant_index", .ofInt attempt.variantIndex),
    ("status", .text attempt.status.word),
    ("started_at", instantJson attempt.startedAt),
    ("deadline_at", instantJson attempt.deadlineAt),
    ("submitted_at", .ofOption instantJson attempt.submittedAt),
    ("graded_at", .ofOption instantJson attempt.gradedAt),
    ("remaining_seconds", .ofInt (attempt.secondsLeft now)),
    ("raw_score", .ofOption pointsJson attempt.rawScore),
    ("max_score", pointsJson attempt.maxScore),
    ("percentage", .ofOption pointsJson attempt.percentage),
    ("violation_count", .ofInt attempt.violationCount),
    ("flagged", .bool attempt.flagged),
    ("flag_reason", .ofOption .text attempt.flagReason)]

/-- The view of an attempt at a given time. -/
def view (attempt : Attempt) (now : Instant) : Json :=
  .record (attempt.viewMembers now)

end Attempt

namespace VariantQuestion

/-- What a student sees of a question at a position of the variant. -/
def studentView (position : Nat) (question : VariantQuestion) : Json :=
  .record [("question_id", .text question.questionId),
    ("position", .ofNat position), ("prompt", .text question.prompt),
    ("question_type", .text question.payload.type.word),
    ("points", pointsJson question.points),
    ("content", (QuestionContent.ofPayload question.payload).toJson)]

end VariantQuestion

namespace SavedAnswer

/-- The score of an answer. -/
def scoreView {π : Type} (answer : SavedAnswer π) : Json :=
  .record [("earned_points", pointsJson answer.earnedPoints),
    ("is_correct", .bool answer.isCorrect),
    ("is_partial", .bool answer.isPartial),
    ("needs_manual", .bool answer.needsManual),
    ("feedback", .ofOption .text answer.feedback),
    ("graded_at", .ofOption instantJson answer.gradedAt)]

/-- The view of an answer, with its score if that is to be shown and there is
one. -/
def view (answer : SavedAnswer Answer) (showScores : Bool) : Json :=
  .record ([("id", .text answer.id), ("question_id", .text answer.questionId),
    ("value", .ofOption Answer.toClient answer.value),
    ("time_spent_seconds", .ofOption .ofInt answer.timeSpentSeconds),
    ("bookmarked", .bool answer.bookmarked),
    ("saved_at", instantJson answer.savedAt),
    ("max_points", pointsJson answer.maxPoints)] ++ (if showScores &&
      answer.gradedAt.isSome then [("score", answer.scoreView)] else []))

end SavedAnswer

/-- An attempt with its variant and its answers. -/
structure AttemptSnapshot where
  attempt : Attempt
  variant : Variant (List VariantQuestion)
  answers : List (SavedAnswer Answer)

/-- The view of an attempt with its questions and answers; a start also says
whether it resumed one. -/
def AttemptSnapshot.view (snapshot : AttemptSnapshot) (now : Instant)
    (resumed : Option Bool) :
    Json :=
  .record (snapshot.attempt.viewMembers
      now ++ [("variant_label", .text snapshot.variant.label)] ++
      Json.optionalMember "resumed" .bool resumed ++ [("questions",
        .list (snapshot.variant.questions.mapIdx VariantQuestion.studentView)),
        ("answers", .list (snapshot.answers.map fun answer =>
          answer.view snapshot.attempt.status.isScored))])

/-- An entry of a batch that was not saved. -/
structure BatchFailure where
  questionId : String
  detail : String
deriving DecidableEq, Repr

/-- What became of a batch. -/
structure BatchOutcome where
  saved : List (SavedAnswer Answer)
  failed : List BatchFailure

/-- The view of a batch. -/
def BatchOutcome.view (outcome : BatchOutcome) : Json :=
  .record [("saved_count", .ofNat outcome.saved.length),
    ("failed_count", .ofNat outcome.failed.length),
    ("answers", .list (outcome.saved.map fun answer => answer.view false)),
    ("failures", .list (outcome.failed.map fun failure =>
      .record [("question_id", .text failure.questionId),
        ("detail", .text failure.detail)]))]

/-- What a reported violation led to. -/
structure ViolationOutcome where
  attempt : Attempt
  escalation : Escalation

/-- The view of a reported violation. -/
def ViolationOutcome.view (outcome : ViolationOutcome) (now : Instant) : Json :=
  .record [("violation_count", .ofInt outcome.attempt.violationCount),
    ("action", .text outcome.escalation.word),
    ("auto_submitted", .bool (decide (outcome.attempt.status ≠ .inProgress))),
    ("attempt", outcome.attempt.view now)]

/-- A piece of the list of an assignment's attempts. -/
structure AttemptPage where
  items : List Attempt
  totalCount : Int
  skip : Int
  limit : Int

/-- The view of a piece of a list of attempts. -/
def AttemptPage.view (page : AttemptPage) (now : Instant) : Json :=
  .record [("items", .list (page.items.map fun attempt => attempt.view now)),
    ("total_count", .ofInt page.totalCount), ("skip", .ofInt page.skip),
    ("limit", .ofInt page.limit)]

end ExamHall
