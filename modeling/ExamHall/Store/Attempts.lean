import ExamHall.Store.Basic

/-!
# Statements on attempts

The atomic steps of an attempt's life. A student has at most one attempt in
progress on an assignment, and its attempts have different numbers. Leaving the
state `in_progress` and receiving scores are conditional updates: they look at
the status and change the row in one step, so that only one of several callers
wins.
-/

namespace ExamHall

/-- What a new attempt is made of; its id and the rounding of its times are up
to the store. -/
structure NewAttempt where
  assignmentId : String
  studentId : String
  number : Int
  variantId : String
  variantIndex : Int
  startedAt : Instant
  deadlineAt : Instant
  maxScore : Decimal

/-- What grading writes into an attempt. -/
structure ScoreUpdate where
  rawScore : Decimal
  maxScore : Decimal
  percentage : Decimal
  status : AttemptStatus
  gradedAt : Instant

namespace Store

/-- The row of an attempt as it is stored. -/
def attemptRow (id : String) (attempt : NewAttempt) :
    Except StorageFault Attempt := do
  let assignmentId ← Column.id attempt.assignmentId
  let studentId ← Column.id attempt.studentId
  let variantId ← Column.id attempt.variantId
  let maxScore ← Column.points attempt.maxScore
  let startedAt := Column.time attempt.startedAt
  .ok
    { id, assignmentId, studentId, number := attempt.number, variantId
      variantIndex := attempt.variantIndex
      status := .inProgress
      startedAt
      deadlineAt := Column.time attempt.deadlineAt
      submittedAt := none
      gradedAt := none
      rawScore := none
      maxScore
      percentage := none
      violationCount := 0
      flagged := false
      flagReason := none
      createdAt := startedAt
      updatedAt := startedAt }

/-- Whether two attempts are of one student on one assignment. -/
def isSameSitter (left right : Attempt) : Bool :=
  left.assignmentId == right.assignmentId && left.studentId == right.studentId

/-- Whether an attempt cannot stand beside another one. -/
def conflicts (left right : Attempt) : Bool :=
  left.id == right.id || (isSameSitter left right &&
      (left.number == right.number || (decide (left.status = .inProgress) &&
        decide (right.status = .inProgress))))

/-- Issues the id of a new attempt. -/
def issueAttemptId : Statement String := fun store =>
  let number :=
    freshNumber "attempt" (store.attempts.map (·.id)) store.issued.attempts
  .ok (idOf "attempt" number,
      { store with issued := { store.issued with attempts := number } })

/-- Stores a new attempt unless it conflicts with one that is there. -/
def createAttempt (attempt : NewAttempt) : Statement (Option Attempt) := do
  Statement.plain [attempt.assignmentId, attempt.studentId, attempt.variantId]
  Statement.reach [.attempts]
  let before ← get
  let id ← issueAttemptId
  let row ← Statement.ofExcept (attemptRow id attempt)
  Statement.ensure (decide (1 ≤ row.number)) .brokenCheck
  let store ← get
  if store.attempts.any (conflicts row) then
    set before
    pure none
  else
    Statement.ensure ((store.assignments.map (·.id)).contains row.assignmentId)
      .missingReference
    Statement.ensure ((store.variants.map (·.id)).contains row.variantId)
      .missingReference
    set { store with attempts := store.attempts ++ [row] }
    pure (some row)

/-- The attempt with an id. -/
def attempt? (id : String) : Statement (Option Attempt) := do
  Statement.plain [id]
  Statement.reach [.attempts]
  let store ← get
  pure (store.attempts.find? fun attempt => attempt.id == id)

/-- Waits until no other start of a student on an assignment is under way. -/
def lockSitter (assignmentId studentId : String) : Statement Unit :=
  Statement.plain [assignmentId, studentId]

/-- Whether an attempt is of a student on an assignment. -/
def isOf (assignmentId studentId : String) (attempt : Attempt) : Bool :=
  attempt.assignmentId == assignmentId && attempt.studentId == studentId

/-- The attempt that a student has in progress on an assignment. -/
def attemptInProgress? (assignmentId studentId : String) :
    Statement (Option Attempt) := do
  Statement.plain [assignmentId, studentId]
  Statement.reach [.attempts]
  let store ← get
  pure (store.attempts.find? fun attempt => isOf assignmentId studentId
      attempt && decide (attempt.status = .inProgress))

/-- The attempt with the larger number; the first one of two equal numbers. -/
def later (left right : Attempt) : Attempt :=
  if left.number < right.number then right else left

/-- The attempt of a student on an assignment with the largest number. -/
def latestAttempt? (assignmentId studentId : String) :
    Statement (Option Attempt) := do
  Statement.plain [assignmentId, studentId]
  Statement.reach [.attempts]
  let store ← get
  pure (match store.attempts.filter (isOf assignmentId studentId) with
    | [] => none
    | first :: rest => some (rest.foldl later first))

/-- The number of attempts of a student on an assignment. -/
def countAttempts (assignmentId studentId : String) : Statement Nat := do
  Statement.plain [assignmentId, studentId]
  Statement.reach [.attempts]
  let store ← get
  pure (store.attempts.countP (isOf assignmentId studentId))

/-- Changes the attempts that a condition selects, and gives back the first of
them. -/
def updateAttempts (holds : Attempt → Bool) (change : Attempt → Attempt) :
    Statement (Option Attempt) := fun store =>
  .ok ((store.attempts.find? holds).map change,
    { store with attempts := updateWhere holds change store.attempts })

/-- A submitted attempt. -/
def submitted (submittedAt now : Instant) (attempt : Attempt) : Attempt :=
  { attempt with
    status := .submitted
    submittedAt := some (Column.time submittedAt)
    updatedAt := Column.time now }

/-- Whether an attempt has an id and a status. -/
def hasStatus (id : String) (status : AttemptStatus)
    (attempt : Attempt) : Bool :=
  attempt.id == id && decide (attempt.status = status)

/-- Submits an attempt that is in progress, and gives it back. -/
def markSubmitted (id : String) (submittedAt now : Instant) :
    Statement (Option Attempt) := do
  Statement.plain [id]
  Statement.reach [.attempts]
  updateAttempts (hasStatus id .inProgress) (submitted submittedAt now)

/-- An attempt with scores. -/
def scored (rawScore maxScore percentage : Decimal) (update : ScoreUpdate)
    (attempt : Attempt) :
    Attempt :=
  { attempt with
    rawScore := some rawScore
    maxScore
    percentage := some percentage
    status := update.status
    gradedAt := some (Column.time update.gradedAt)
    updatedAt := Column.time update.gradedAt }

/-- Writes scores into an attempt that has the expected status, and gives it
back. -/
def recordScores (id : String) (expected : AttemptStatus)
    (update : ScoreUpdate) : Statement (Option Attempt) := do
  Statement.plain [id]
  Statement.reach [.attempts]
  let store ← get
  if store.attempts.any (hasStatus id expected) then
    let rawScore ← Statement.ofExcept (Column.points update.rawScore)
    let maxScore ← Statement.ofExcept (Column.points update.maxScore)
    let percentage ← Statement.ofExcept (Column.percent update.percentage)
    updateAttempts (hasStatus id expected)
      (scored rawScore maxScore percentage update)
  else pure none

/-- An attempt with one more violation. -/
def violated (now : Instant) (attempt : Attempt) : Attempt :=
  { attempt with
    violationCount := attempt.violationCount + 1, updatedAt := Column.time now }

/-- Counts a violation of an attempt in progress, and gives the attempt back. -/
def countViolation (id : String) (now : Instant) :
    Statement (Option Attempt) := do
  Statement.plain [id]
  Statement.reach [.attempts]
  let store ← get
  Statement.ensure ((store.attempts.filter (hasStatus id .inProgress)).all
      fun attempt => decide (attempt.violationCount + 1 < twoTo 31))
    .numberOutOfRange
  updateAttempts (hasStatus id .inProgress) (violated now)

/-- A flagged attempt. -/
def marked (reason : String) (now : Instant) (attempt : Attempt) : Attempt :=
  { attempt with
      flagged := true, flagReason := some reason, updatedAt := Column.time now }

/-- Flags an attempt, and gives it back. -/
def flag (id reason : String) (now : Instant) : Statement (Option Attempt) := do
  Statement.plain [reason, id]
  Statement.reach [.attempts]
  updateAttempts (fun attempt => attempt.id == id) (marked reason now)

/-- The attempts in progress whose deadline has passed, oldest deadline
first. -/
def expiredAttempts (now : Instant) (limit : Nat) :
    Statement (List Attempt) := do
  Statement.reach [.attempts]
  let store ← get
  pure (((store.attempts.filter fun attempt => decide (attempt.status =
      .inProgress) && decide (attempt.deadlineAt ≤ Column.time now)).mergeSort
      fun left right => decide (left.deadlineAt ≤ right.deadlineAt)).take limit)

/-- Whether an attempt was submitted at a time or before. -/
def isSubmittedBy (cutoff : Instant) (attempt : Attempt) : Bool :=
  decide (attempt.status = .submitted) &&
    attempt.submittedAt.any fun submittedAt =>
      decide (submittedAt ≤ Column.time cutoff)

/-- The submitted attempts without scores up to a time, oldest submission
first. -/
def stalledAttempts (cutoff : Instant) (limit : Nat) :
    Statement (List Attempt) := do
  Statement.reach [.attempts]
  let store ← get
  pure (((store.attempts.filter (isSubmittedBy cutoff)).mergeSort
      fun left right => decide (left.submittedAt.getD default ≤
        right.submittedAt.getD default)).take limit)

/-- Whether an attempt belongs into a list for an assignment. -/
def isListed (assignmentId : String) (status : Option AttemptStatus)
    (attempt : Attempt) : Bool :=
  attempt.assignmentId == assignmentId && status.all fun status =>
    decide (attempt.status = status)

/-- The order of lists of attempts: the later start first, then by id. -/
def listedBefore (collation : Collation) (left right : Attempt) : Bool :=
  decide (right.startedAt < left.startedAt) ||
    (decide (left.startedAt = right.startedAt) && collation.le left.id right.id)

/-- A piece of the attempts of an assignment. -/
def listAttempts (assignmentId : String) (status : Option AttemptStatus)
    (skip limit : Nat) : Statement (List Attempt) := do
  Statement.plain [assignmentId]
  Statement.reach [.attempts]
  let store ← get
  pure ((((store.attempts.filter (isListed assignmentId status)).mergeSort
    (listedBefore store.collation)).drop skip).take limit)

/-- The number of attempts of an assignment. -/
def countListed (assignmentId : String) (status : Option AttemptStatus) :
    Statement Nat := do
  Statement.plain [assignmentId]
  Statement.reach [.attempts]
  let store ← get
  pure (store.attempts.countP (isListed assignmentId status))

end Store

end ExamHall
