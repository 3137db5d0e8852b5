import ExamHall.Assignment.AccessCode
import ExamHall.Exam.Grading
import ExamHall.Response.Assignment

/-!
# Starting and reading attempts

A student on the roster may start an assignment while its window is open, with
the right access code. An attempt in progress is resumed until its deadline;
after it the attempt is submitted as of its deadline, and a new one is dealt as
long as attempts are left.
-/

namespace ExamHall.Exam

open Store

/-- An attempt with its variant and its answers. -/
def snapshotOf (attempt : Attempt) : Action AttemptError AttemptSnapshot := do
  let variant ← Action.query (variant attempt.variantId)
  let answers ← Action.query (answersOf attempt.id)
  pure { attempt, variant, answers }

/-- What the transaction of a start has found. -/
inductive StartStep where
  | resumed (attempt : Attempt)
  | exhausted (timedOut : Option Attempt)
  | started (timedOut : Option Attempt)
      (attempt : Attempt) (variant : Variant (List VariantQuestion))

/-- The variant for a student's attempt with a given ordinal. -/
def deal (assignment : Assignment) (studentId : String) (ordinal : Nat) :
    Transaction AttemptError (Variant (List VariantQuestion)) := do
  let count ← countVariants assignment.testId
  Transaction.require (decide (0 < count)) .noVariants
  let index := variantIndex studentId assignment.id ordinal count
    assignment.shufflePerStudent
  Transaction.demand (← variantAt? assignment.testId index)
    (.variantMissing index)

/-- The most points that the questions of a variant give. -/
def maxScore? (questions : List VariantQuestion) : Option Decimal :=
  (Decimal.sum? (questions.map (·.points))).map roundPoints

/-- Deals the next attempt, which has a given ordinal. -/
def dealNext (assignment : Assignment) (studentId : String) (ordinal : Nat)
    (now : Instant) :
    Transaction AttemptError (Attempt × Variant (List VariantQuestion)) := do
  let variant ← deal assignment studentId ordinal
  let maxScore ← Transaction.inRange (maxScore? variant.questions)
  let deadlineAt ←
    Transaction.inRange (deadline? now assignment.durationMinutes)
  let created ← createAttempt
    { assignmentId := assignment.id
      studentId
      number := ordinal
      variantId := variant.id
      variantIndex := variant.position
      startedAt := now
      deadlineAt
      maxScore }
  let attempt ← Transaction.demand created .startedElsewhere
  pure (attempt, variant)

/-- Deals the next attempt if one is left. -/
def openNext (assignment : Assignment) (studentId : String)
    (timedOut : Option Attempt) (now : Instant) :
    Transaction AttemptError StartStep := do
  let used ← countAttempts assignment.id studentId
  if assignment.maxAttempts ≤ (used : Int) then pure (.exhausted timedOut)
  else do
    let (attempt, variant) ← dealNext assignment studentId (used + 1) now
    pure (.started timedOut attempt variant)

/-- The transaction of a start. -/
def startTransaction (assignment : Assignment) (studentId : String)
    (now : Instant) : Transaction AttemptError StartStep := do
  lockSitter assignment.id studentId
  match ← attemptInProgress? assignment.id studentId with
  | none => openNext assignment studentId none now
  | some existing =>
    if isExpired existing.deadlineAt now then do
      let timedOut ← markSubmitted existing.id existing.deadlineAt now
      openNext assignment studentId timedOut now
    else pure (.resumed existing)

/-- Completes an attempt that a start has submitted, if there is one. -/
def completeTimedOut : Option Attempt → Action AttemptError Unit
  | none => pure ()
  | some submitted => do
    let _ ← complete submitted

/-- Whether a student may start an assignment now. -/
def admitted (caller : Caller) (assignmentId : String)
    (accessCode : Option String) : Action AttemptError Assignment := do
  let assignment ←
    Action.demand (← Action.query (assignment? assignmentId)) .unknownAssignment
  let state := assignment.window (← read).now
  Action.require (decide (state = .open)) (.outsideWindow state)
  Action.require (← Action.query (isOnRoster assignment.id caller.id))
    .notOnRoster
  Action.require (AccessCode.admits assignment.accessCodeHash accessCode)
    .wrongAccessCode
  pure assignment

/-- Starts or resumes an attempt, and says which of the two. -/
def start (caller : Caller) (assignmentId : String)
    (accessCode : Option String) :
    Action AttemptError (AttemptSnapshot × Bool) := do
  let assignment ← admitted caller assignmentId accessCode
  match ← Action.commit (startTransaction assignment caller.id (← read).now)
      with
  | .resumed attempt => do
    pure (← snapshotOf attempt, true)
  | .exhausted timedOut => do
    completeTimedOut timedOut
    Action.refuse .noAttemptsLeft
  | .started timedOut attempt variant => do
    completeTimedOut timedOut
    Action.publish
      { kind := .started, attempt
        answeredCount := 0
        questionCount := variant.questions.length
        occurredAt := (← read).now }
    pure ({ attempt, variant, answers := [] }, false)

/-- An attempt for its student or for who manages its assignment. -/
def view (caller : Caller) (attemptId : String) :
    Action AttemptError AttemptSnapshot := do
  let attempt ←
    Action.demand (← Action.query (attempt? attemptId)) .unknownAttempt
  if attempt.studentId ≠ caller.id then
    let _ ← Action.commit (managedAssignment caller attempt.assignmentId)
  snapshotOf attempt

/-- How far a student on the roster has come with an assignment. -/
def status (caller : Caller) (assignmentId : String) :
    Action AttemptError StudentStatus := do
  let assignment ←
    Action.demand (← Action.query (assignment? assignmentId)) .unknownAssignment
  Action.require (← Action.query (isOnRoster assignment.id caller.id))
    .notOnRoster
  let used ← Action.query (countAttempts assignment.id caller.id)
  let latest ← Action.query (latestAttempt? assignment.id caller.id)
  pure
    { assignmentId
      remainingAttempts := max (assignment.maxAttempts - used) 0
      latest }

end ExamHall.Exam
