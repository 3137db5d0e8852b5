import ExamHall.Attempt.Error
import ExamHall.Generation.Error
import ExamHall.Json.Basic

/-!
# Error responses

A refused request is answered with a status and a body that repeats the status
beside a text. Faults of the store are answered with a general text for the
operation.
-/

namespace ExamHall

/-- A refused request. -/
inductive ApiError where
  | unauthorized (detail : String)
  | forbidden (detail : String)
  | badRequest (detail : String)
  | notFound (detail : String)
  | conflict (detail : String)
  | gone (detail : String)
  | internal (detail : String)
deriving DecidableEq, Repr

namespace ApiError

/-- The status of the answer. -/
def status : ApiError → Nat
  | .badRequest _ => 400
  | .unauthorized _ => 401
  | .forbidden _ => 403
  | .notFound _ => 404
  | .conflict _ => 409
  | .gone _ => 410
  | .internal _ => 500

/-- The text of the answer. -/
def detail : ApiError → String
  | .unauthorized detail | .forbidden detail | .badRequest detail
    | .notFound detail
  | .conflict detail | .gone detail | .internal detail => detail

/-- The body of the answer. -/
def body (error : ApiError) : Json :=
  .record [("status", .ofNat error.status), ("detail", .text error.detail)]

/-- The scheme that a caller without a valid token is asked to use. -/
def challenge? : ApiError → Option String
  | .unauthorized _ => some "Bearer"
  | _ => none

/-- The answer to a request for a test that is not generated. -/
def ofGeneration (error : GenerationError) : ApiError :=
  match error with
  | .foreignIds _ | .foreignTest => .forbidden error.message
  | .unknownTest => .notFound error.message
  | .storage _ => .internal "Failed to generate test"
  | _ => .badRequest error.message

/-- The answer to a refused operation on an attempt. -/
def ofAttempt (error : AttemptError) : ApiError :=
  match error with
  | .unknownAssignment | .unknownAttempt | .unknownAnswer =>
      .notFound error.message
  | .notOnRoster | .wrongAccessCode | .foreignAttempt | .foreignAssignment =>
    .forbidden error.message
  | .foreignQuestion _ | .negativeTime | .answerShape _ | .score _ =>
      .badRequest error.message
  | .timeExpired => .gone error.message
  | .grading | .storage _ => .internal "Attempt operation failed"
  | _ => .conflict error.message

end ApiError

end ExamHall
