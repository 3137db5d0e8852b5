import ExamHall.Store.Basic

/-!
# Statements on assignments and rosters

An assignment belongs to a test that is there, ends after it starts, and is
closed at most once. Its roster holds each student once.
-/

namespace ExamHall

/-- What a new assignment is made of; its id and the rounding of its times are
up to the store. -/
structure NewAssignment where
  testId : String
  ownerId : String
  title : String
  status : AssignmentStatus
  startsAt : Instant
  endsAt : Instant
  durationMinutes : Int
  maxAttempts : Int
  shufflePerStudent : Bool
  accessCodeHash : Option String
  tabSwitchThreshold : Int
  tabSwitchAction : IntegrityAction
  createdAt : Instant

namespace Store

/-- The row of an assignment as it is stored. -/
def assignmentRow (id : String) (assignment : NewAssignment) :
    Except StorageFault Assignment := do
  let testId ← Column.id assignment.testId
  let ownerId ← Column.id assignment.ownerId
  let title ← Column.bounded Column.titleWidth assignment.title
  let startsAt ← Column.timestamp assignment.startsAt
  let endsAt ← Column.timestamp assignment.endsAt
  let accessCodeHash ← Column.id? assignment.accessCodeHash
  .ok
    { id, testId, ownerId, title
      status := assignment.status
      startsAt
      endsAt
      durationMinutes := assignment.durationMinutes
      maxAttempts := assignment.maxAttempts
      shufflePerStudent := assignment.shufflePerStudent
      accessCodeHash
      tabSwitchThreshold := assignment.tabSwitchThreshold
      tabSwitchAction := assignment.tabSwitchAction
      createdAt := Column.time assignment.createdAt
      updatedAt := Column.time assignment.createdAt
      closedAt := none }

/-- The checks on the row of an assignment. -/
def isSoundAssignment (assignment : Assignment) : Bool :=
  decide (0 < assignment.durationMinutes) &&
    decide (0 < assignment.maxAttempts) &&
      decide (0 ≤ assignment.tabSwitchThreshold) &&
        decide (assignment.startsAt < assignment.endsAt)

/-- Issues the id of a new assignment. -/
def issueAssignmentId : Statement String := fun store =>
  let number :=
    freshNumber "assignment" (store.assignments.map (·.id))
      store.issued.assignments
  .ok (idOf "assignment" number,
    { store with issued := { store.issued with assignments := number } })

/-- Stores a new assignment. -/
def createAssignment (assignment : NewAssignment) : Statement Assignment := do
  Statement.plain ([assignment.testId, assignment.ownerId, assignment.title] ++
    assignment.accessCodeHash.toList)
  Statement.reach [.assignments]
  let id ← issueAssignmentId
  let row ← Statement.ofExcept (assignmentRow id assignment)
  Statement.ensure (isSoundAssignment row) .brokenCheck
  let store ← get
  Statement.ensure ((store.tests.map (·.id)).contains row.testId)
    .missingReference
  set { store with assignments := store.assignments ++ [row] }
  pure row

/-- The entries of a roster that are not there yet. -/
def newEntries (known : List RosterEntry) : List RosterEntry → List RosterEntry
  | [] => []
  | entry :: rest =>
    if known.contains entry then newEntries known rest
    else entry :: newEntries (entry :: known) rest

/-- Puts students on the roster of an assignment; those already on it stay. -/
def addStudents (assignmentId : String) (studentIds : List String) :
    Statement Unit := do
  Statement.plain (assignmentId :: studentIds)
  Statement.reach [.roster]
  let ids ← Statement.ofExcept (studentIds.mapM Column.id)
  let store ← get
  let entries := newEntries store.roster (ids.map fun id => ⟨assignmentId, id⟩)
  Statement.ensure (entries.isEmpty ||
      (store.assignments.map (·.id)).contains assignmentId) .missingReference
  set { store with roster := store.roster ++ entries }

/-- The assignment with an id. -/
def assignment? (id : String) : Statement (Option Assignment) := do
  Statement.plain [id]
  Statement.reach [.assignments]
  let store ← get
  pure (store.assignments.find? fun assignment => assignment.id == id)

/-- The assignment with an id, which has to be there. -/
def assignment (id : String) : Statement Assignment := do
  match ← assignment? id with
  | some assignment => pure assignment
  | none => Statement.fail .rowNotFound

/-- The students on the roster of an assignment, sorted by their ids. -/
def students (assignmentId : String) : Statement (List String) := do
  Statement.plain [assignmentId]
  Statement.reach [.roster]
  let store ← get
  pure (store.collation.sort ((store.roster.filter fun entry =>
    entry.assignmentId == assignmentId).map (·.studentId)))

/-- Whether a student is on the roster of an assignment. -/
def isOnRoster (assignmentId studentId : String) : Statement Bool := do
  Statement.plain [assignmentId, studentId]
  Statement.reach [.roster]
  let store ← get
  pure (store.roster.contains ⟨assignmentId, studentId⟩)

/-- A closed assignment. -/
def closed (now : Instant) (assignment : Assignment) : Assignment :=
  { assignment with
    status := .closed, closedAt := some (Column.time now),
    updatedAt := Column.time now }

/-- Closes an assignment that is not closed yet, and gives it back. -/
def closeAssignment (id : String) (now : Instant) :
    Statement (Option Assignment) := do
  Statement.plain [id]
  Statement.reach [.assignments]
  let isOpen := fun (assignment : Assignment) =>
    assignment.id == id && decide (assignment.status ≠ .closed)
  let store ← get
  set { store with
      assignments := updateWhere isOpen (closed now) store.assignments }
  pure ((store.assignments.find? isOpen).map (closed now))

end Store

end ExamHall
