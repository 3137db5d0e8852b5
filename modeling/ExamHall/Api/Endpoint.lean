import ExamHall.Http.Message
import ExamHall.Http.Query
import ExamHall.Text.Pieces

/-!
# Endpoints

What can be called, and at which address. The endpoints for exams stand below a
configurable path. An address has one method; where it is read with `GET`,
`HEAD` asks for the same without the body. Ids in an address are in percent
notation and are not empty; an address that ends in a slash is another address.
-/

namespace ExamHall

/-- What can be called. -/
inductive Endpoint where
  | welcome
  | health
  | generateTest
  | showTest (testId : String)
  | assign
  | showAssignment (assignmentId : String)
  | closeAssignment (assignmentId : String)
  | listAttempts (assignmentId : String)
  | studentStatus (assignmentId : String)
  | startAttempt (assignmentId : String)
  | showAttempt (attemptId : String)
  | saveAnswers (attemptId : String)
  | saveAnswer (attemptId questionId : String)
  | reportViolation (attemptId : String)
  | submitAttempt (attemptId : String)
  | gradeAttempt (attemptId : String)
  | reviewAnswer (answerId : String)
deriving DecidableEq, Repr

namespace Endpoint

/-- An address with the method that it answers, and its endpoint unless an id in
it cannot be read. -/
structure Route where
  method : HttpMethod
  endpoint : Option Endpoint

/-- The route of an address with one id. -/
def withId? (method : HttpMethod) (endpoint : String → Endpoint)
    (piece : String) : Option Route :=
  if piece.isEmpty then none
  else some ⟨method, (Percent.decode? piece.toList).map endpoint⟩

/-- The route of an address with two ids. -/
def withIds? (method : HttpMethod) (endpoint : String → String → Endpoint)
    (first second : String) : Option Route :=
  if first.isEmpty || second.isEmpty then none
  else some ⟨method, do
    let first ← Percent.decode? first.toList
    let second ← Percent.decode? second.toList
    some (endpoint first second)⟩

/-- The route of the pieces of an address below the path for exams. -/
def examRoute? : List String → Option Route
  | ["generation", "tests"] => some ⟨.post, some .generateTest⟩
  | ["generation", "tests", testId] => withId? .get showTest testId
  | ["assignments"] => some ⟨.post, some .assign⟩
  | ["assignments", id] => withId? .get showAssignment id
  | ["assignments", id, "close"] => withId? .post closeAssignment id
  | ["assignments", id, "attempts"] => withId? .get listAttempts id
  | ["assignments", id, "my-status"] => withId? .get studentStatus id
  | ["assignments", id, "start"] => withId? .post startAttempt id
  | ["attempts", id] => withId? .get showAttempt id
  | ["attempts", id, "answers"] => withId? .post saveAnswers id
  | ["attempts", id, "answers", questionId] =>
      withIds? .put saveAnswer id questionId
  | ["attempts", id, "violations"] => withId? .post reportViolation id
  | ["attempts", id, "submit"] => withId? .post submitAttempt id
  | ["attempts", id, "grade"] => withId? .post gradeAttempt id
  | ["answers", id, "grade"] => withId? .post reviewAnswer id
  | _ => none

/-- The path for exams without a slash at its end. -/
def root (apiPath : String) : List Char :=
  match apiPath.toList.reverse with
  | '/' :: rest => rest.reverse
  | _ => apiPath.toList

/-- What follows a beginning of a list of characters. -/
def dropStart? : List Char → List Char → Option (List Char)
  | [], rest => some rest
  | expected :: start, c :: rest =>
      if c = expected then dropStart? start rest else none
  | _ :: _, [] => none

/-- Whether the endpoints for exams can stand below a path. -/
def canStandBelow (apiPath : String) : Bool :=
  apiPath.isEmpty || apiPath.toList.head? == some '/'

/-- The route of an address. -/
def route? (apiPath path : String) : Option Route :=
  if path = "/" then some ⟨.get, some .welcome⟩
  else if path = "/healthz" then some ⟨.get, some .health⟩
  else do
    let rest ← dropStart? (root apiPath) path.toList
    match Text.pieces '/' rest with
    | [] :: pieces => examRoute? (pieces.map String.ofList)
    | _ => none

/-- Whether a request with a method may call at a route. -/
def Route.allows (route : Route) (method : HttpMethod) : Bool :=
  decide (method = route.method) ||
    (decide (method = .head) && decide (route.method = .get))

end Endpoint

end ExamHall
