import ExamHall.Assignment.AccessCode
import ExamHall.Distinct
import ExamHall.Exam.Grading
import ExamHall.Request.Assignment
import ExamHall.Response.Assignment
import ExamHall.Text.Pieces

/-!
# Assigning tests

A teacher gives a test of their own to a list of students. Ids are trimmed and
kept once each in alphabetical order; an access code is kept in its canonical
form and shown only once.
-/

namespace ExamHall

/-- What an operation on assignments was doing when the store failed. -/
inductive AssigningStage where
  | fetchTest
  | create
  | storeRoster
  | fetchRoster
  | close
  | list
  | count
deriving DecidableEq, Repr

/-- What a failed stage says. -/
def AssigningStage.message : AssigningStage → String
  | .fetchTest => "Failed to fetch generated test"
  | .create => "Failed to create assignment"
  | .storeRoster => "Failed to store assignment roster"
  | .fetchRoster => "Failed to fetch assignment roster"
  | .close => "Failed to close assignment"
  | .list => "Failed to list attempts"
  | .count => "Failed to count attempts"

/-- Why an operation on assignments is refused. -/
inductive AssigningError where
  | endsBeforeStart
  | unknownTest
  | foreignTest
  | blankRoster
  | alreadyClosed
  | access (error : AttemptError)
  | storage (stage : AssigningStage)
deriving DecidableEq

/-- What an assigning error says. -/
def AssigningError.message : AssigningError → String
  | .endsBeforeStart => "ends_at must be after starts_at"
  | .unknownTest => "Generated test not found"
  | .foreignTest => "Not allowed to assign this test"
  | .blankRoster => "student_ids must not be blank"
  | .alreadyClosed => "Assignment is already closed"
  | .access error => error.message
  | .storage stage => stage.message

namespace Exam

open Store

/-- The ids of a roster: trimmed, without blank ones, once each, in alphabetical
order. -/
def rosterIds (studentIds : List String) : List String :=
  (distinct ((studentIds.map Text.trim).filter fun id => !id.isEmpty)).mergeSort
    fun left right => decide (left ≤ right)

/-- The access code of a new assignment: the given one in its canonical form, or
a drawn one. -/
def newAccessCode (given : Option String) (draw : Bool) (drawn : String) :
    Option String :=
  match given with
  | some code => some (AccessCode.canonical code)
  | none => if draw then some drawn else none

/-- A statement whose failure is reported for a stage. -/
def atStage {α : Type} (stage : AssigningStage) (statement : Statement α) :
    Transaction AssigningError α :=
  Transaction.run (fun _ => .storage stage) statement

/-- A new assignment with its roster, and the access code to show once. -/
structure Assigned where
  assignment : Assignment
  studentIds : List String
  accessCode : Option String

/-- The row that a form makes for a test, in a window in UTC. -/
def newAssignment (author : Caller) (testId : String) (form : AssignmentForm)
    (startsAt endsAt : Instant) (accessCode : Option String) (now : Instant) :
    NewAssignment :=
  { testId
    ownerId := author.id
    title := Text.trim form.title
    status := form.status
    startsAt
    endsAt
    durationMinutes := form.durationMinutes
    maxAttempts := form.maxAttempts
    shufflePerStudent := form.shufflePerStudent
    accessCodeHash := accessCode.map AccessCode.hash
    tabSwitchThreshold := form.tabSwitchThreshold
    tabSwitchAction := form.tabSwitchAction
    createdAt := now }

/-- Stores an assignment with its roster. -/
def assignTransaction (assignment : NewAssignment) (studentIds : List String) :
    Transaction AssigningError Assignment := do
  let created ← atStage .create (createAssignment assignment)
  atStage .storeRoster (addStudents created.id studentIds)
  pure created

/-- Assigns a test to students. -/
def assign (author : Caller) (form : AssignmentForm) :
    Action AssigningError Assigned := do
  let startsAt ← Action.inRange form.startsAt.utc?
  let endsAt ← Action.inRange form.endsAt.utc?
  Action.require (decide (startsAt < endsAt)) .endsBeforeStart
  let found ← Action.commit (atStage .fetchTest (test? form.testId))
  let test ← Action.demand found .unknownTest
  Action.require (author.mayManage test.ownerId) .foreignTest
  let context ← read
  let accessCode :=
    newAccessCode form.accessCode form.generateAccessCode context.drawnCode
  let studentIds := rosterIds form.studentIds
  Action.require (!studentIds.isEmpty) .blankRoster
  let row :=
    newAssignment author test.id form startsAt endsAt accessCode context.now
  let assignment ← Action.commit (assignTransaction row studentIds)
  pure { assignment, studentIds, accessCode }

/-- The assignment with an id, which the caller has to own or to
administrate. -/
def managed (caller : Caller) (assignmentId : String) :
    Action AssigningError Assignment :=
  (Action.commit (managedAssignment caller assignmentId)).mapError .access

/-- An assignment with its roster. -/
def withRoster (assignment : Assignment) : Action AssigningError Assigned := do
  let studentIds ← Action.commit (atStage .fetchRoster (students assignment.id))
  pure { assignment, studentIds, accessCode := none }

/-- An assignment for who manages it. -/
def showAssignment (caller : Caller) (assignmentId : String) :
    Action AssigningError Assigned := do
  withRoster (← managed caller assignmentId)

/-- Closes an assignment. -/
def close (caller : Caller) (assignmentId : String) :
    Action AssigningError Assigned := do
  let _ ← managed caller assignmentId
  let closed ←
    Action.commit (atStage .close (closeAssignment assignmentId (← read).now))
  withRoster (← Action.demand closed .alreadyClosed)

/-- A piece of the list of an assignment's attempts. -/
def attemptPage (caller : Caller) (assignmentId : String)
    (query : AttemptQuery) : Action AssigningError AttemptPage := do
  let assignment ← managed caller assignmentId
  let piece := query.clamped
  let items ← Action.commit (atStage .list (listAttempts assignment.id
      piece.status piece.skip.toNat piece.limit.toNat))
  let totalCount ←
    Action.commit (atStage .count (countListed assignment.id piece.status))
  pure { items, totalCount, skip := piece.skip, limit := piece.limit }

end Exam

end ExamHall
