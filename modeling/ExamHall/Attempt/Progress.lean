import ExamHall.Calendar.Instant
import ExamHall.Json.Basic
import ExamHall.Records

/-!
# Progress events

What is published while students work on an assignment, so that a teacher can
follow them. Each assignment has a channel of its own.
-/

namespace ExamHall

/-- What has happened to an attempt. -/
inductive ProgressKind where
  | started
  | answerSaved
  | submitted
  | violation
  | graded
deriving DecidableEq, Repr

namespace ProgressKind

/-- The spelling of a kind of event. -/
def word : ProgressKind → String
  | .started => "started"
  | .answerSaved => "answer_saved"
  | .submitted => "submitted"
  | .violation => "violation"
  | .graded => "graded"

/-- The kind of event with a spelling. -/
def ofWord? (word : String) : Option ProgressKind :=
  [ProgressKind.started, .answerSaved, .submitted, .violation,
    .graded].find? fun kind => kind.word == word

end ProgressKind

/-- Something that happened to an attempt, with the attempt as it is since
then. -/
structure ProgressEvent where
  kind : ProgressKind
  attempt : Attempt
  answeredCount : Int
  questionCount : Int
  occurredAt : Instant
deriving DecidableEq

namespace ProgressEvent

/-- The channel of an assignment. -/
def channelFor (root assignmentId : String) : String :=
  root ++ ":" ++ assignmentId

/-- The published form of an event. -/
def toJson (event : ProgressEvent) : Json :=
  .record [("event", .text event.kind.word),
    ("assignment_id", .text event.attempt.assignmentId),
    ("attempt_id", .text event.attempt.id),
    ("student_id", .text event.attempt.studentId),
    ("answered_count", .ofInt event.answeredCount),
    ("question_count", .ofInt event.questionCount),
    ("violation_count", .ofInt event.attempt.violationCount),
    ("percentage", .ofOption (fun percentage => .text percentage.toText)
      event.attempt.percentage), ("status", .text event.attempt.status.word),
    ("occurred_at", .text (Calendar.written event.occurredAt))]

end ProgressEvent

end ExamHall
