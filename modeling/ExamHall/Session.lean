import ExamHall.Api.Server
import ExamHall.Exam.Upkeep
import ExamHall.Maintenance.Tables

/-!
# Sessions

A session runs a service step by step: requests, the two upkeep tasks, changes
of the clock and of the connections, and the work of a maintainer on the tables.
Each step has a result and the events that it published. A step whose
calculation leaves the range of its numbers keeps what it had committed until
then.
-/

namespace ExamHall

/-- How a request says who calls. -/
inductive Credential where
  | anonymous
  | header (value : String)
  | token (subject : String) (role : Role) (expiresIn : Int)
deriving DecidableEq, Repr

/-- A step of a session. -/
inductive Step where
  | call (request : HttpRequest) (credential : Credential)
  | sweep
  | recover
  | setClock (now : Instant)
  | connectBroker (connected : Bool)
  | loseTables (tables : List Table)
  | insert (table : Table) (row : List (String × Json))
  | change (table : Table) (id : String) (row : List (String × Json))
  | remove (table : Table) (id : String)
  | look (table : Table)

/-- The result of a step. -/
inductive StepResult where
  | done
  | replied (reply : HttpReply)
  | swept (report : SweepReport)
  | recovered (count : Nat)
  | changed (count : Nat)
  | seen (rows : List Json)
  | upkeepFailed (error : UpkeepError)
  | refused (fault : StorageFault)
  | outOfRange

/-- The result of a step with the events that it published. -/
structure StepOutcome where
  result : StepResult
  events : List ProgressEvent

/-- A running service. -/
structure Session where
  settings : Settings
  now : Instant
  brokerConnected : Bool
  drawnCode : String
  store : Store

namespace Session

/-- The session of a service that can run under its settings. -/
def start? (settings : Settings) (now : Instant) (brokerConnected : Bool)
    (drawnCode : String) (store : Store) : Option Session :=
  if Server.canRun settings
    then some { settings, now, brokerConnected, drawnCode, store } else none

/-- What actions of a session work under. -/
def context (session : Session) : Context :=
  { settings := session.settings
    now := session.now
    canPublish := session.brokerConnected
    drawnCode := session.drawnCode }

/-- The outcome of a step that publishes nothing. -/
def quietly (result : StepResult) : StepOutcome := ⟨result, []⟩

/-- Runs an action as a step. -/
def act {ε α : Type} (session : Session) (action : Action ε α)
    (onValue : α → StepResult) (onError : ε → StepResult) :
    StepOutcome × Session :=
  let (ended, world) := action session.context ⟨session.store, []⟩
  let result := match ended with
    | .ok value => onValue value
    | .error (.refused error) => onError error
    | .error .outOfRange => .outOfRange
  (⟨result, world.published⟩, { session with store := world.store })

/-- Runs a statement as a step. -/
def maintain {α : Type} (session : Session) (statement : Statement α)
    (onValue : α → StepResult) : StepOutcome × Session :=
  match statement session.store with
  | .ok (value, store) => (quietly (onValue value), { session with store })
  | .error fault => (quietly (.refused fault), session)

/-- The header that names the caller of a request. -/
def authorization (session : Session) : Credential → Headers
  | .anonymous => []
  | .header value => [("authorization", value)]
  | .token subject role expiresIn =>
    let claims : Claims :=
      { subject, role, expiresAt := session.now.epochSeconds + expiresIn }
    [("authorization",
      "Bearer " ++ Token.issue session.settings.secretKey claims)]

/-- A request with the header that names its caller. -/
def signed (session : Session) (request : HttpRequest)
    (credential : Credential) : HttpRequest :=
  { request with
      headers := session.authorization credential ++ request.headers }

/-- Runs a step. -/
def run (session : Session) : Step → StepOutcome × Session
  | .call request credential =>
    session.act (Server.respond (session.signed request credential)) .replied
      fun refusal => .replied refusal.reply
  | .sweep => session.act Exam.sweep .swept .upkeepFailed
  | .recover => session.act Exam.recoverStalled .recovered .upkeepFailed
  | .setClock now => (quietly .done, { session with now })
  | .connectBroker connected =>
      (quietly .done, { session with brokerConnected := connected })
  | .loseTables tables =>
    (quietly .done,
      { session with store := { session.store with outages := tables } })
  | .insert table row =>
      session.maintain (Maintenance.insert table row) fun _ => .changed 1
  | .change table id row =>
      session.maintain (Maintenance.change table id row) .changed
  | .remove table id => session.maintain (Maintenance.remove table id) .changed
  | .look table =>
      (quietly (.seen (Maintenance.rows table session.store)), session)

/-- Runs steps one after another. -/
def runAll (session : Session) : List Step → List StepOutcome
  | [] => []
  | step :: rest =>
    let (outcome, session) := session.run step
    outcome :: session.runAll rest

end Session

end ExamHall
