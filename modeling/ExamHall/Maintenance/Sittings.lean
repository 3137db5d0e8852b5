import ExamHall.Maintenance.TableView
import ExamHall.Store.Answers
import ExamHall.Store.Assignments
import ExamHall.Store.Attempts

/-!
# Assignments, attempts and answers by column names
-/

namespace ExamHall.Maintenance

open Store

/-- An optional time as JSON. -/
def timeOrNull (value : Option Instant) : Json :=
  .ofOption instantJson value

/-- The columns of an assignment. -/
def assignmentColumns (assignment : Assignment) : List (String × Json) :=
  [("id", .text assignment.id), ("generated_test_id", .text assignment.testId),
    ("owner_id", .text assignment.ownerId), ("title", .text assignment.title),
    ("status", .text assignment.status.word),
    ("starts_at", instantJson assignment.startsAt),
    ("ends_at", instantJson assignment.endsAt),
    ("duration_minutes", .ofInt assignment.durationMinutes),
    ("max_attempts", .ofInt assignment.maxAttempts),
    ("shuffle_per_student", .bool assignment.shufflePerStudent),
    ("access_code_hash", textOrNull assignment.accessCodeHash),
    ("tab_switch_threshold", .ofInt assignment.tabSwitchThreshold),
    ("tab_switch_action", .text assignment.tabSwitchAction.word),
    ("created_at", instantJson assignment.createdAt),
    ("updated_at", instantJson assignment.updatedAt),
    ("closed_at", timeOrNull assignment.closedAt)]

/-- An assignment from its columns, the others taken from what is there. -/
def assignmentOf (present : Option Assignment) (fields : Json.Fields) :
    Except StorageFault Assignment := do
  let id ← fields.cell "id" (present.map (·.id)) .id
  let testId ← fields.cell "generated_test_id" (present.map (·.testId)) .id
  let ownerId ← fields.cell "owner_id" (present.map (·.ownerId)) .id
  let title ←
    fields.cell "title" (present.map (·.title)) (.bounded Column.titleWidth)
  let status ← fields.cell "status" (present.map (·.status))
    (.word AssignmentStatus.ofWord?)
  let startsAt ← fields.cell "starts_at" (present.map (·.startsAt)) .time
  let endsAt ← fields.cell "ends_at" (present.map (·.endsAt)) .time
  let durationMinutes ← fields.cell "duration_minutes"
    (present.map (·.durationMinutes)) (.integer 32)
  let maxAttempts ←
    fields.cell "max_attempts" (present.map (·.maxAttempts)) (.integer 32)
  let shufflePerStudent ←
    fields.cell "shuffle_per_student" (present.map (·.shufflePerStudent)) .flag
  let accessCodeHash ← fields.cell "access_code_hash"
    (some (present.bind (·.accessCodeHash))) (.optional .id)
  let tabSwitchThreshold ← fields.cell "tab_switch_threshold"
    (some ((present.map (·.tabSwitchThreshold)).getD 0)) (.integer 32)
  let tabSwitchAction ← fields.cell "tab_switch_action"
    (some ((present.map (·.tabSwitchAction)).getD .warn))
    (.word IntegrityAction.ofWord?)
  let createdAt ← fields.cell "created_at" (present.map (·.createdAt)) .time
  let updatedAt ← fields.cell "updated_at" (present.map (·.updatedAt)) .time
  let closedAt ←
    fields.cell "closed_at" (some (present.bind (·.closedAt))) (.optional .time)
  .ok { id, testId, ownerId, title, status, startsAt, endsAt, durationMinutes,
        maxAttempts, shufflePerStudent, accessCodeHash, tabSwitchThreshold,
        tabSwitchAction, createdAt, updatedAt, closedAt }

/-- Adds an assignment. -/
def insertAssignment (fields : Json.Fields) : Statement Unit := do
  Statement.reach [.assignments]
  let row ← Statement.ofExcept (assignmentOf none fields)
  Statement.ensure (isSoundAssignment row) .brokenCheck
  let store ← get
  Statement.ensure (!(store.assignments.map (·.id)).contains row.id)
    .duplicateKey
  Statement.ensure ((store.tests.map (·.id)).contains row.testId)
    .missingReference
  set { store with assignments := store.assignments ++ [row] }

/-- The assignments. -/
def assignmentView : TableView Assignment where
  rows store := store.assignments
  withRows store rows := { store with assignments := rows }
  id assignment := some assignment.id
  columns := assignmentColumns
  revise assignment fields := assignmentOf (some assignment) fields
  insert := insertAssignment

/-- The columns of an entry of a roster. -/
def entryColumns (entry : RosterEntry) : List (String × Json) :=
  [("assignment_id", .text entry.assignmentId),
    ("student_id", .text entry.studentId)]

/-- An entry of a roster from its columns, the others taken from what is
there. -/
def entryOf (present : Option RosterEntry) (fields : Json.Fields) :
    Except StorageFault RosterEntry := do
  let assignmentId ←
    fields.cell "assignment_id" (present.map (·.assignmentId)) .id
  let studentId ← fields.cell "student_id" (present.map (·.studentId)) .id
  .ok { assignmentId, studentId }

/-- Adds an entry to a roster. -/
def insertEntry (fields : Json.Fields) : Statement Unit := do
  Statement.reach [.roster]
  let row ← Statement.ofExcept (entryOf none fields)
  let store ← get
  Statement.ensure (!store.roster.contains row) .duplicateKey
  Statement.ensure ((store.assignments.map (·.id)).contains row.assignmentId)
    .missingReference
  set { store with roster := store.roster ++ [row] }

/-- The rosters; their entries have no ids. -/
def rosterView : TableView RosterEntry where
  rows store := store.roster
  withRows store rows := { store with roster := rows }
  id _ := none
  columns := entryColumns
  revise entry fields := entryOf (some entry) fields
  insert := insertEntry

/-- The columns of an attempt. -/
def attemptColumns (attempt : Attempt) : List (String × Json) :=
  [("id", .text attempt.id), ("assignment_id", .text attempt.assignmentId),
    ("student_id", .text attempt.studentId),
    ("attempt_number", .ofInt attempt.number),
    ("variant_id", .text attempt.variantId),
    ("variant_index", .ofInt attempt.variantIndex),
    ("status", .text attempt.status.word),
    ("started_at", instantJson attempt.startedAt),
    ("deadline_at", instantJson attempt.deadlineAt),
    ("submitted_at", timeOrNull attempt.submittedAt),
    ("graded_at", timeOrNull attempt.gradedAt),
    ("raw_score", .ofOption amountJson attempt.rawScore),
    ("max_score", amountJson attempt.maxScore),
    ("percentage", .ofOption amountJson attempt.percentage),
    ("violation_count", .ofInt attempt.violationCount),
    ("flagged", .bool attempt.flagged),
    ("flag_reason", textOrNull attempt.flagReason),
    ("created_at", instantJson attempt.createdAt),
    ("updated_at", instantJson attempt.updatedAt)]

/-- An attempt from its columns, the others taken from what is there. -/
def attemptOf (present : Option Attempt) (fields : Json.Fields) :
    Except StorageFault Attempt := do
  let id ← fields.cell "id" (present.map (·.id)) .id
  let assignmentId ←
    fields.cell "assignment_id" (present.map (·.assignmentId)) .id
  let studentId ← fields.cell "student_id" (present.map (·.studentId)) .id
  let number ←
    fields.cell "attempt_number" (present.map (·.number)) (.integer 32)
  let variantId ← fields.cell "variant_id" (present.map (·.variantId)) .id
  let variantIndex ←
    fields.cell "variant_index" (present.map (·.variantIndex)) (.integer 32)
  let status ←
    fields.cell "status" (present.map (·.status)) (.word AttemptStatus.ofWord?)
  let startedAt ← fields.cell "started_at" (present.map (·.startedAt)) .time
  let deadlineAt ← fields.cell "deadline_at" (present.map (·.deadlineAt)) .time
  let submittedAt ← fields.cell "submitted_at"
    (some (present.bind (·.submittedAt))) (.optional .time)
  let gradedAt ←
    fields.cell "graded_at" (some (present.bind (·.gradedAt))) (.optional .time)
  let rawScore ← fields.cell "raw_score" (some (present.bind (·.rawScore)))
    (.optional (.amount Column.points))
  let maxScore ← fields.cell "max_score"
    (some ((present.map (·.maxScore)).getD .zero)) (.amount Column.points)
  let percentage ← fields.cell "percentage" (some (present.bind (·.percentage)))
    (.optional (.amount Column.percent))
  let violationCount ← fields.cell "violation_count"
    (some ((present.map (·.violationCount)).getD 0)) (.integer 32)
  let flagged ← fields.cell "flagged" (some (present.any (·.flagged))) .flag
  let flagReason ← fields.cell "flag_reason"
    (some (present.bind (·.flagReason))) (.optional .text)
  let createdAt ← fields.cell "created_at" (present.map (·.createdAt)) .time
  let updatedAt ← fields.cell "updated_at" (present.map (·.updatedAt)) .time
  .ok { id, assignmentId, studentId, number, variantId, variantIndex, status,
        startedAt, deadlineAt, submittedAt, gradedAt, rawScore, maxScore,
        percentage, violationCount, flagged, flagReason, createdAt, updatedAt }

/-- Adds an attempt. -/
def insertAttempt (fields : Json.Fields) : Statement Unit := do
  Statement.reach [.attempts]
  let row ← Statement.ofExcept (attemptOf none fields)
  Statement.ensure (decide (1 ≤ row.number)) .brokenCheck
  let store ← get
  Statement.ensure (!store.attempts.any (conflicts row)) .duplicateKey
  Statement.ensure ((store.assignments.map (·.id)).contains row.assignmentId)
    .missingReference
  Statement.ensure ((store.variants.map (·.id)).contains row.variantId)
    .missingReference
  set { store with attempts := store.attempts ++ [row] }

/-- The attempts. -/
def attemptView : TableView Attempt where
  rows store := store.attempts
  withRows store rows := { store with attempts := rows }
  id attempt := some attempt.id
  columns := attemptColumns
  revise attempt fields := attemptOf (some attempt) fields
  insert := insertAttempt

/-- An answer as it is stored. -/
abbrev StoredAnswer := SavedAnswer (Stored Answer)

/-- The columns of an answer. -/
def answerColumns (answer : StoredAnswer) : List (String × Json) :=
  [("id", .text answer.id), ("attempt_id", .text answer.attemptId),
    ("question_id", .text answer.questionId),
    ("value", .ofOption (fun value => value.toJson Answer.toJson) answer.value),
    ("is_correct", .bool answer.isCorrect),
    ("is_partial", .bool answer.isPartial),
    ("needs_manual", .bool answer.needsManual),
    ("earned_points", amountJson answer.earnedPoints),
    ("max_points", amountJson answer.maxPoints),
    ("time_spent_seconds", .ofOption .ofInt answer.timeSpentSeconds),
    ("bookmarked", .bool answer.bookmarked),
    ("feedback", textOrNull answer.feedback),
    ("graded_by", textOrNull answer.gradedBy),
    ("saved_at", instantJson answer.savedAt),
    ("graded_at", timeOrNull answer.gradedAt)]

/-- An answer from its columns, the others taken from what is there. -/
def answerOf (present : Option StoredAnswer) (fields : Json.Fields) :
    Except StorageFault StoredAnswer := do
  let id ← fields.cell "id" (present.map (·.id)) .id
  let attemptId ← fields.cell "attempt_id" (present.map (·.attemptId)) .id
  let questionId ← fields.cell "question_id" (present.map (·.questionId)) .id
  let value ← fields.cell "value" (some (present.bind (·.value)))
    (.optional (.document Answer.ofJson))
  let isCorrect ←
    fields.cell "is_correct" (some (present.any (·.isCorrect))) .flag
  let isPartial ←
    fields.cell "is_partial" (some (present.any (·.isPartial))) .flag
  let needsManual ←
    fields.cell "needs_manual" (some (present.any (·.needsManual))) .flag
  let earnedPoints ← fields.cell "earned_points"
    (some ((present.map (·.earnedPoints)).getD .zero)) (.amount Column.points)
  let maxPoints ← fields.cell "max_points"
    (some ((present.map (·.maxPoints)).getD .zero)) (.amount Column.points)
  let timeSpentSeconds ← fields.cell "time_spent_seconds"
    (some (present.bind (·.timeSpentSeconds))) (.optional (.integer 32))
  let bookmarked ←
    fields.cell "bookmarked" (some (present.any (·.bookmarked))) .flag
  let feedback ←
    fields.cell "feedback" (some (present.bind (·.feedback))) (.optional .text)
  let gradedBy ←
    fields.cell "graded_by" (some (present.bind (·.gradedBy))) (.optional .id)
  let savedAt ← fields.cell "saved_at" (present.map (·.savedAt)) .time
  let gradedAt ←
    fields.cell "graded_at" (some (present.bind (·.gradedAt))) (.optional .time)
  .ok { id, attemptId, questionId, value, isCorrect, isPartial, needsManual,
        earnedPoints, maxPoints, timeSpentSeconds, bookmarked, feedback,
        gradedBy, savedAt, gradedAt }

/-- Adds an answer. -/
def insertAnswer (fields : Json.Fields) : Statement Unit := do
  Statement.reach [.answers]
  let row ← Statement.ofExcept (answerOf none fields)
  let store ← get
  Statement.ensure (!store.answers.any fun answer => answer.id ==
      row.id || isAnswerTo row.attemptId row.questionId answer) .duplicateKey
  Statement.ensure ((store.attempts.map (·.id)).contains row.attemptId)
    .missingReference
  set { store with answers := store.answers ++ [row] }

/-- The answers. -/
def answerView : TableView StoredAnswer where
  rows store := store.answers
  withRows store rows := { store with answers := rows }
  id answer := some answer.id
  columns := answerColumns
  revise answer fields := answerOf (some answer) fields
  insert := insertAnswer

end ExamHall.Maintenance
