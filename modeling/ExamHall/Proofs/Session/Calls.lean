import ExamHall.Proofs.Api.Responding
import ExamHall.Proofs.Session.Serving

/-!
# Calls

A step that calls the service leaves the tables alone, or it has an effect of
the endpoint for the caller that its token names.  The saves that the service
has accepted are known from the session and the step.
-/

namespace ExamHall.Session

open Store ExamHall.Action

/-- The saves that a step gets accepted. -/
def accepted (session : Session) : Step → List AcceptedSave
  | .call request credential =>
    let sent := session.signed request credential
    match Server.called? session.settings sent with
    | some endpoint =>
        Handle.acceptedSaves session.context session.store sent endpoint
    | none => []
  | _ => []

/-- The result of a call. -/
def resultOf : Except (Halt Refusal) HttpReply → StepResult
  | .ok reply => .replied reply
  | .error (.refused refusal) => .replied refusal.reply
  | .error .outOfRange => .outOfRange

/-- A service that has answered a call can wait until a later time. -/
theorem exists_serves_until (session : Session) (request : HttpRequest)
    (credential : Credential) {now : Instant} (order : session.now ≤ now) :
    ∃ later : Session, (∀ failing, Serves failing session later) ∧
      later.settings = session.settings ∧ later.now = now ∧
      later.store = (session.run (.call request credential)).2.store :=
  ⟨{ (session.run (.call request credential)).2 with now },
    fun _ => .tail (.single ⟨.call request credential, trivial, rfl⟩)
      ⟨.setClock now, order, rfl⟩,
    rfl, rfl, rfl⟩

/-- A session comes out of another one by steps of the service, of which a log
is kept. -/
inductive Logs {α : Type} (log : Session → Step → List α) (failing : Bool)
    (opening : Session) : List α → Session → Prop where
  | refl : Logs log failing opening [] opening
  | tail {logged : List α} {session : Session} {step : Step}
      (early : Logs log failing opening logged session)
      (service : step.IsService failing session.now) :
      Logs log failing opening (logged ++ log session step) (session.run step).2

theorem Logs.serves {α : Type} {failing : Bool} {opening session : Session}
    {log : Session → Step → List α} {logged : List α}
    (logs : Logs log failing opening logged session) :
    Serves failing opening session := by
  induction logs with
  | refl => exact .refl
  | tail _ service ih => exact ih.tail ⟨_, service, rfl⟩

/-- How a request is signed is up to the settings and the time. -/
theorem signed_congr {session other : Session}
    (settings : session.settings = other.settings)
    (now : session.now = other.now) (request : HttpRequest)
    (credential : Credential) :
    session.signed request credential = other.signed request credential := by
  cases credential <;> simp only [signed, authorization, settings, now]

/-- A call changes the tables of a session, and nothing else of it. -/
theorem run_call_session (session : Session) (request : HttpRequest)
    (credential : Credential) : (session.run (.call request credential)).2 =
      { session with
          store := (session.run (.call request credential)).2.store } :=
  rfl

/-- The result of a call is how it has been answered. -/
theorem run_result (session : Session) (request : HttpRequest)
    (credential : Credential) :
    (session.run (.call request credential)).1.result =
      resultOf (Server.respond (session.signed request credential)
        session.context ⟨session.store, []⟩).1 := by
  change (session.act (Server.respond (session.signed request credential))
      StepResult.replied fun refusal =>
        StepResult.replied refusal.reply).1.result = _
  unfold act
  rcases Server.respond (session.signed request credential) session.context
      ⟨session.store, []⟩ with
    ⟨(_ | _) | _, _⟩ <;> rfl

/-- Which endpoint a request calls does not depend on who it is from. -/
theorem called?_signed (session : Session) (request : HttpRequest)
    (credential : Credential) :
    Server.called? session.settings (session.signed request credential) =
      Server.called? session.settings request := by
  unfold Server.called? Server.routedTo?
  rfl

/-- Where a request goes is up to its method and its path. -/
theorem called?_congr {settings : Settings} {left right : HttpRequest}
    (method : left.method = right.method) (path : left.path = right.path) :
    Server.called? settings left = Server.called? settings right := by
  unfold Server.called? Server.routedTo?
  rw [method, path]

/-- A call of an endpoint does what the endpoint does, and its result is
sent. -/
theorem run_of_called {session : Session} {request : HttpRequest}
    {credential : Credential} {endpoint : Endpoint}
    (called : Server.called? session.settings
      (session.signed request credential) = some endpoint) :
    let sent := session.signed request credential
    let ended :=
      Handle.endpoint sent endpoint session.context ⟨session.store, []⟩
    (session.run (.call request credential)).1.result =
        resultOf (Server.told (Server.sent session.settings sent) ended.1) ∧
      (session.run (.call request credential)).2.store = ended.2.store := by
  have ends := @Server.respond_of_called session.context _ endpoint called
    ⟨session.store, []⟩
  refine ⟨?_, ?_⟩
  · rw [run_result, ends]
    rfl
  · change (Server.respond (session.signed request credential) session.context
      ⟨session.store, []⟩).2.store = _
    rw [ends]

/-- What a call has done: nothing, or what its caller may do at its endpoint. -/
theorem run_call {session : Session} (lawful : session.store.Lawful)
    (request : HttpRequest) (credential : Credential) :
    let sent := session.signed request credential
    let step := Step.call request credential
    ((session.run step).2.store = session.store ∧ session.accepted step = []) ∨
      ∃ endpoint caller failed ended,
        Server.called? session.settings sent = some endpoint ∧
        Access.caller? session.settings session.now sent = some (.ok caller) ∧
        Server.Tells (Server.sent session.settings sent) failed ended ∧
        (session.run step).1.result = resultOf ended ∧
        Effect session.now session.store caller endpoint (session.accepted step)
          failed (session.run step).2.store := by
  intro sent step
  have replies : Server.Replies session.context session.store sent
      (Server.sent session.settings sent) (Server.called? session.settings sent)
      (Server.respond sent session.context ⟨session.store, []⟩).1
      (session.run step).2.store :=
    @Server.respond_ends session.context session.store sent lawful
      ⟨session.store, []⟩ rfl
  have result := run_result session request credential
  have saves :
      session.accepted step = match Server.called? session.settings sent with
      | some endpoint =>
          Handle.acceptedSaves session.context session.store sent endpoint
      | none => [] := rfl
  cases called : Server.called? session.settings sent with
  | none =>
      rw [called] at replies saves
      exact .inl ⟨replies.1, saves⟩
  | some endpoint =>
      rw [called] at replies saves
      obtain ⟨failed, tells, effect⟩ := replies
      rw [← show session.accepted step = Handle.acceptedSaves session.context
        session.store sent endpoint from saves] at effect
      generalize session.accepted step = accepted at effect
      generalize (session.run step).2.store = after at effect
      cases effect with
      | nothing => exact .inl ⟨rfl, rfl⟩
      | made known effect =>
          exact .inr ⟨endpoint, _, failed, _, rfl, known, tells, result, effect⟩

end ExamHall.Session
