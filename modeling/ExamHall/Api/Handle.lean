import ExamHall.Api.Endpoint
import ExamHall.Api.Refusal
import ExamHall.Exam.Answering
import ExamHall.Exam.Assigning
import ExamHall.Exam.Generating
import ExamHall.Exam.Starting
import ExamHall.Http.Query

/-!
# Handling requests

What each endpoint does: it learns who calls, reads what the request brings,
lets the exam act, and shows the result. A request is refused for the first of
these that fails, in this order; only a query is read before the caller is
known.
-/

namespace ExamHall

/-- The version that the service gives. -/
def serviceVersion : String := "0.1.0"

/-- The name that the service gives in reports on its health. -/
def serviceName : String := "examforge-api"

namespace Handle

/-- The value that a reader of the request found, or its refusal. -/
def orRefuse {ε α : Type} (report : ε → Refusal) : Except ε α → Action Refusal α
  | .ok value => pure value
  | .error error => Action.refuse (report error)

/-- The caller of a request. -/
def caller (request : HttpRequest) : Action Refusal Caller := do
  let context ← read
  let found ←
    Action.inRange (Access.caller? context.settings context.now request)
  orRefuse .explained found

/-- The author who makes a request. -/
def author (request : HttpRequest) : Action Refusal Caller := do
  let caller ← caller request
  orRefuse .explained (Access.author caller)

/-- The decoded body of a request. -/
def body {α : Type} (request : HttpRequest) (form : Json.Form α) :
    Action Refusal α :=
  orRefuse Refusal.ofBody (HttpBody.read request form)

/-- The decoded body of a request, which keeps its bounds. -/
def bounded {α : Type} (request : HttpRequest) (form : Json.Form α)
    (faults : α → List RangeFault) : Action Refusal α := do
  let value ← body request form
  match faults value with
  | [] => pure value
  | broken => Action.refuse (.ofFaults broken)

/-- The piece of a list that a query asks for. -/
def attemptQuery (request : HttpRequest) : Except DecodeFault AttemptQuery := do
  let fields := QueryField.ofText request.query
  let status ← QueryField.read fields "status" none fun word =>
    (AttemptStatus.ofWord? word).map some
  let skip ← QueryField.read fields "skip" 0 (Text.readSigned? 64)
  let limit ← QueryField.read fields "limit" AttemptQuery.defaultLimit
    (Text.readSigned? 64)
  pure { status, skip, limit }

/-- Greets a visitor. -/
def welcome : Action Refusal Json := do
  let settings := (← read).settings
  pure (.record [("message", .text settings.projectName),
    ("version", .text serviceVersion),
    ("docs_url", .text (settings.apiPath ++ "/docs"))])

/-- Reports on the health of the service. -/
def health : Action Refusal Json := do
  let broker := if (← read).canPublish then "healthy" else "disconnected"
  pure (.record [("service", .text serviceName), ("status", .text "healthy"),
    ("components", .record [("redis", .text broker),
      ("database", .text "healthy")])])

/-- Generates a test. -/
def generateTest (request : HttpRequest) : Action Refusal Json := do
  let author ← author request
  let form ← bounded request GenerationForm.form GenerationForm.faults
  let wanted ←
    orRefuse (fun fault : SourceFault => .explained (.badRequest fault.message))
      form.request
  let sheet ← (Exam.generate author wanted).mapError .ofGeneration
  pure sheet.view

/-- Shows a test. -/
def showTest (request : HttpRequest) (testId : String) :
    Action Refusal Json := do
  let author ← author request
  let sheet ← (Exam.showTest author testId).mapError .ofGeneration
  pure sheet.view

/-- An assignment with its roster as it is shown. -/
def assignedView (assigned : Exam.Assigned) : Json :=
  assigned.assignment.view assigned.studentIds assigned.accessCode

/-- Assigns a test. -/
def assign (request : HttpRequest) : Action Refusal Json := do
  let author ← author request
  let form ← bounded request AssignmentForm.form AssignmentForm.faults
  let assigned ← (Exam.assign author form).mapError .ofAssigning
  pure (assignedView assigned)

/-- Shows an assignment. -/
def showAssignment (request : HttpRequest) (assignmentId : String) :
    Action Refusal Json := do
  let author ← author request
  let assigned ← (Exam.showAssignment author assignmentId).mapError .ofAssigning
  pure (assignedView assigned)

/-- Closes an assignment. -/
def closeAssignment (request : HttpRequest) (assignmentId : String) :
    Action Refusal Json := do
  let author ← author request
  let assigned ← (Exam.close author assignmentId).mapError .ofAssigning
  pure (assignedView assigned)

/-- Lists attempts on an assignment. -/
def listAttempts (request : HttpRequest) (assignmentId : String) :
    Action Refusal Json := do
  let query ← orRefuse (fun _ => .bare 400) (attemptQuery request)
  let author ← author request
  let page ← (Exam.attemptPage author assignmentId query).mapError .ofAssigning
  pure (page.view (← read).now)

/-- Shows a student how far they have come with an assignment. -/
def studentStatus (request : HttpRequest) (assignmentId : String) :
    Action Refusal Json := do
  let caller ← caller request
  let status ← (Exam.status caller assignmentId).mapError .ofAttempt
  pure (status.view (← read).now)

/-- The access code that a request brings; a body that is not taken brings
none. -/
def accessCode (request : HttpRequest) : Option String :=
  match HttpBody.read request accessCodeForm with
  | .ok code => code
  | .error _ => none

/-- Starts or resumes an attempt. -/
def startAttempt (request : HttpRequest) (assignmentId : String) :
    Action Refusal Json := do
  let caller ← caller request
  let (snapshot, resumed) ←
    (Exam.start caller assignmentId (accessCode request)).mapError .ofAttempt
  pure (snapshot.view (← read).now (some resumed))

/-- Shows an attempt. -/
def showAttempt (request : HttpRequest) (attemptId : String) :
    Action Refusal Json := do
  let caller ← caller request
  let snapshot ← (Exam.view caller attemptId).mapError .ofAttempt
  pure (snapshot.view (← read).now none)

/-- Saves one answer. -/
def saveAnswer (request : HttpRequest) (attemptId questionId : String) :
    Action Refusal Json := do
  let caller ← caller request
  let input ← bounded request (AnswerInput.form questionId) AnswerInput.faults
  let saved ← (Exam.save caller attemptId input).mapError .ofAttempt
  pure (saved.view false)

/-- Saves a batch of answers. -/
def saveAnswers (request : HttpRequest) (attemptId : String) :
    Action Refusal Json := do
  let caller ← caller request
  let inputs ← bounded request AnswerInput.batchForm AnswerInput.batchFaults
  let outcome ← (Exam.saveBatch caller attemptId inputs).mapError .ofAttempt
  pure outcome.view

/-- Takes note of a violation. -/
def reportViolation (request : HttpRequest) (attemptId : String) :
    Action Refusal Json := do
  let caller ← caller request
  let outcome ← (Exam.reportViolation caller attemptId).mapError .ofAttempt
  pure (outcome.view (← read).now)

/-- Submits an attempt. -/
def submitAttempt (request : HttpRequest) (attemptId : String) :
    Action Refusal Json := do
  let caller ← caller request
  let submitted ← (Exam.submit caller attemptId).mapError .ofAttempt
  let snapshot ← (Exam.snapshotOf submitted).mapError .ofAttempt
  pure (snapshot.view (← read).now none)

/-- Grades an attempt. -/
def gradeAttempt (request : HttpRequest) (attemptId : String) :
    Action Refusal Json := do
  let author ← author request
  let graded ← (Exam.grade author attemptId).mapError .ofAttempt
  pure (graded.view (← read).now)

/-- Takes a reviewer's score of an answer. -/
def reviewAnswer (request : HttpRequest) (answerId : String) :
    Action Refusal Json := do
  let author ← author request
  let review ← bounded request Review.form Review.faults
  let (answer, attempt) ←
    (Exam.review author answerId review).mapError .ofAttempt
  pure (.record [("answer", answer.view true),
    ("attempt", attempt.view (← read).now)])

/-- What an endpoint does with a request. -/
def endpoint (request : HttpRequest) : Endpoint → Action Refusal Json
  | .welcome => welcome
  | .health => health
  | .generateTest => generateTest request
  | .showTest testId => showTest request testId
  | .assign => assign request
  | .showAssignment assignmentId => showAssignment request assignmentId
  | .closeAssignment assignmentId => closeAssignment request assignmentId
  | .listAttempts assignmentId => listAttempts request assignmentId
  | .studentStatus assignmentId => studentStatus request assignmentId
  | .startAttempt assignmentId => startAttempt request assignmentId
  | .showAttempt attemptId => showAttempt request attemptId
  | .saveAnswers attemptId => saveAnswers request attemptId
  | .saveAnswer attemptId questionId => saveAnswer request attemptId questionId
  | .reportViolation attemptId => reportViolation request attemptId
  | .submitAttempt attemptId => submitAttempt request attemptId
  | .gradeAttempt attemptId => gradeAttempt request attemptId
  | .reviewAnswer answerId => reviewAnswer request answerId

end Handle

end ExamHall
