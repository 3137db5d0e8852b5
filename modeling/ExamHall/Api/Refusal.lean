import ExamHall.Api.Error
import ExamHall.Exam.Assigning
import ExamHall.Http.Body
import ExamHall.Http.Message
import ExamHall.Request.Fault
import ExamHall.Request.Generation
import ExamHall.Token

/-!
# Access and refusals

A caller is known by a bearer token. Only teachers and administrators write
tests and assignments and grade. A request is refused with an explanation, or,
when it cannot be read at all, with a status alone.
-/

namespace ExamHall.Access

/-- The answer to a request without a valid token. -/
def unknownCaller : ApiError :=
  .unauthorized "Invalid authentication credentials"

/-- The answer to a request that only authors may make. -/
def authorsOnly : ApiError := .forbidden "Teacher access required"

/-- The token that a list of characters hands over. -/
def bearerToken? : List Char → Option String
  | 'B' :: 'e' :: 'a' :: 'r' :: 'e' :: 'r' :: ' ' :: token =>
      some (String.ofList token)
  | _ => none

/-- The token of a request. -/
def tokenOf? (request : HttpRequest) : Option String :=
  (request.headers.visible? "authorization").bind fun value =>
    bearerToken? value.toList

/-- The caller of a request, if the clock allows to tell. -/
def caller? (settings : Settings) (now : Instant) (request : HttpRequest) :
    Option (Except ApiError Caller) :=
  match tokenOf? request with
  | none => some (.error unknownCaller)
  | some token =>
    (Token.verify? settings now token).map fun
      | .ok claims => .ok claims.caller
      | .error _ => .error unknownCaller

/-- A caller who is an author. -/
def author (caller : Caller) : Except ApiError Caller :=
  if caller.role.canAuthor then .ok caller else .error authorsOnly

end ExamHall.Access

namespace ExamHall

/-- A refused request. -/
inductive Refusal where
  | explained (error : ApiError)
  | bare (status : Nat)
deriving DecidableEq, Repr

namespace Refusal

/-- The refusal of a body that is not taken. -/
def ofBody (fault : BodyFault) : Refusal := .bare fault.status

/-- The refusal of a request for a test. -/
def ofGeneration (error : GenerationError) : Refusal :=
  .explained (.ofGeneration error)

/-- The refusal of a request about an attempt. -/
def ofAttempt (error : AttemptError) : Refusal := .explained (.ofAttempt error)

/-- The answer to a refused operation on an assignment. -/
def assigningError (error : AssigningError) : ApiError :=
  match error with
  | .endsBeforeStart | .blankRoster => .badRequest error.message
  | .unknownTest => .notFound error.message
  | .foreignTest => .forbidden error.message
  | .alreadyClosed => .conflict error.message
  | .access cause => .ofAttempt cause
  | .storage _ => .internal error.message

/-- The refusal of a request about an assignment. -/
def ofAssigning (error : AssigningError) : Refusal :=
  .explained (assigningError error)

/-- The refusal of a request that breaks bounds. -/
def ofFaults (faults : List RangeFault) : Refusal :=
  .explained (.badRequest (RangeFault.report faults))

/-- The reply to a refused request. -/
def reply : Refusal → HttpReply
  | .explained error =>
    { status := error.status
      headers :=
        (error.challenge?.map fun scheme => ("www-authenticate", scheme)).toList
      body := some error.body }
  | .bare status => { status, headers := [], body := none }

end Refusal

end ExamHall
