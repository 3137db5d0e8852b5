import ExamHall.Calendar.Accepted
import ExamHall.Json.Shape
import ExamHall.Request.Fault
import ExamHall.Vocabulary

/-!
# Requests for assignments

The form of a new assignment, the form of a start, and the query of a list of
attempts. The bounds of an assignment apply to its fields as they are sent.
-/

namespace ExamHall

open Json

/-- The fields of a new assignment as they are sent. -/
structure AssignmentForm where
  testId : String
  title : String
  studentIds : List String
  startsAt : Calendar.OffsetTime
  endsAt : Calendar.OffsetTime
  durationMinutes : Int
  maxAttempts : Int
  shufflePerStudent : Bool
  accessCode : Option String
  generateAccessCode : Bool
  tabSwitchThreshold : Int
  tabSwitchAction : IntegrityAction
  status : AssignmentStatus
deriving DecidableEq

/-- Reads a time in one of the accepted forms. -/
def timeOfJson : Decoder Calendar.OffsetTime := fun json => do
  let text ← asText json
  match Calendar.accepted? text with
  | some time => pure time
  | none => .error .mismatch

/-- What a time in one of the accepted forms looks like. -/
def timeShape : Shape :=
  .text fun written => (Calendar.accepted? written).isSome

/-- Whether an integer lies between two bounds, both included. -/
def isWithin (low high value : Int) : Bool :=
  decide (low ≤ value) && decide (value ≤ high)

/-- Whether a number of items lies between two bounds, both included. -/
def isCountWithin (low high count : Nat) : Bool :=
  decide (low ≤ count) && decide (count ≤ high)

namespace AssignmentForm

/-- Reads a form. -/
def ofJson : Decoder AssignmentForm := fun json => do
  let fields ← asRecord ["generated_test_id", "title", "student_ids",
    "starts_at", "ends_at", "duration_minutes", "max_attempts",
    "shuffle_per_student", "access_code", "generate_access_code",
    "tab_switch_threshold", "tab_switch_action", "status"] json
  let testId ← fields.required "generated_test_id" asText
  let title ← fields.required "title" asText
  let studentIds ← fields.required "student_ids" (asList asText)
  let startsAt ← fields.required "starts_at" timeOfJson
  let endsAt ← fields.required "ends_at" timeOfJson
  let durationMinutes ← fields.required "duration_minutes" (asSigned 32)
  let maxAttempts ← fields.withDefault "max_attempts" 1 (asSigned 32)
  let shufflePerStudent ← fields.withDefault "shuffle_per_student" true asBool
  let accessCode ← fields.optional "access_code" asText
  let generateAccessCode ←
    fields.withDefault "generate_access_code" false asBool
  let tabSwitchThreshold ←
    fields.withDefault "tab_switch_threshold" 0 (asSigned 32)
  let tabSwitchAction ← fields.withDefault "tab_switch_action" .warn
    (asWord IntegrityAction.ofWord?)
  let status ←
    fields.withDefault "status" .active (asWord AssignmentStatus.ofWord?)
  pure { testId, title, studentIds, startsAt, endsAt, durationMinutes,
         maxAttempts, shufflePerStudent, accessCode, generateAccessCode,
         tabSwitchThreshold, tabSwitchAction, status }

/-- A form in the body of a request. -/
def form : Form AssignmentForm where
  shape := .record [ ("generated_test_id", .always, .anyText),
    ("title", .always, .anyText), ("student_ids", .always, .list .anyText),
    ("starts_at", .always, timeShape),
    ("ends_at", .always, timeShape), ("duration_minutes", .always, .signed 32),
    ("max_attempts", .never, .signed 32),
    ("shuffle_per_student", .never, .truth),
    ("access_code", .never, .option .anyText),
    ("generate_access_code", .never, .truth),
    ("tab_switch_threshold", .never, .signed 32), ("tab_switch_action", .never,
      .word fun written => (IntegrityAction.ofWord? written).isSome), ("status",
        .never, .word fun written => (AssignmentStatus.ofWord? written).isSome)]
  decode := ofJson

/-- The broken bounds of a form. -/
def faults (form : AssignmentForm) : List RangeFault :=
  RangeFault.require (!form.testId.isEmpty)
    "generated_test_id" "generated_test_id must not be empty" ++
  RangeFault.require (isCountWithin 1 255 form.title.length)
    "title" "title must be 1..=255 characters" ++
  RangeFault.require (isCountWithin 1 1000 form.studentIds.length)
    "student_ids" "student_ids must hold 1..=1000 ids" ++
  RangeFault.require (isWithin 1 1440 form.durationMinutes)
    "duration_minutes" "duration_minutes must be 1..=1440" ++
  RangeFault.require (isWithin 1 50 form.maxAttempts)
    "max_attempts" "max_attempts must be 1..=50" ++
  RangeFault.require (form.accessCode.all fun code => isCountWithin 4 64
      code.length) "access_code" "access_code must be 4..=64 characters" ++
  RangeFault.require (isWithin 0 100 form.tabSwitchThreshold)
    "tab_switch_threshold" "tab_switch_threshold must be 0..=100"

end AssignmentForm

/-- Reads the access code that a student gives at a start. -/
def accessCodeOfJson : Decoder (Option String) := fun json => do
  let fields ← asRecord ["access_code"] json
  fields.optional "access_code" asText

/-- The access code in the body of a request. -/
def accessCodeForm : Form (Option String) where
  shape := .record [("access_code", .never, .option .anyText)]
  decode := accessCodeOfJson

/-- A piece of the list of an assignment's attempts. -/
structure AttemptQuery where
  status : Option AttemptStatus
  skip : Int
  limit : Int
deriving DecidableEq, Repr

namespace AttemptQuery

/-- The size of a piece when none is asked for. -/
def defaultLimit : Int := 100

/-- The largest size of a piece. -/
def maxLimit : Int := 1000

/-- Reads a query. -/
def ofJson : Decoder AttemptQuery := fun json => do
  let fields ← asRecord ["status", "skip", "limit"] json
  let status ← fields.optional "status" (asWord AttemptStatus.ofWord?)
  let skip ← fields.withDefault "skip" 0 (asSigned 64)
  let limit ← fields.withDefault "limit" defaultLimit (asSigned 64)
  pure { status, skip, limit }

/-- The query with its piece brought into bounds. -/
def clamped (query : AttemptQuery) : AttemptQuery :=
  { query with
      skip := max query.skip 0, limit := min (max query.limit 1) maxLimit }

end AttemptQuery

end ExamHall
