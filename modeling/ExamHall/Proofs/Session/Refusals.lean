import ExamHall.Proofs.Session.Calls
import ExamHall.Proofs.Session.Issuing
import ExamHall.Proofs.Session.Serving

/-!
# What refused requests leave

A request that is not answered with success leaves the tables as they were.
There are two exceptions by design: who works on an attempt after its deadline,
and who starts again when no attempts are left, has the own attempt closed as of
its deadline.  While tables are out of reach, there is a third one: what reads
the tables again after its change can fail then, and the change stays.
-/

namespace ExamHall

open Store

/-- The status of the reply that a step has got. -/
def StepResult.status? : StepResult → Option Nat
  | .replied reply => some reply.status
  | _ => none

/-- A request has been answered with success. -/
def StepResult.IsSuccess (result : StepResult) : Prop :=
  ∃ status, result.status? = some status ∧ 200 ≤ status ∧ status < 300

theorem StepResult.not_isSuccess {result : StepResult} {status : Nat}
    (is : result.status? = some status)
    (outside : ¬(200 ≤ status ∧ status < 300)) : ¬result.IsSuccess := by
  rintro ⟨other, same, range⟩
  obtain rfl : status = other := Option.some.inj (is.symm.trans same)
  exact outside range

/-- An attempt has been closed as of its deadline, and nothing else has been
done: it has been submitted and graded. Only if tables are out of reach it may
be left without scores. -/
structure ClosesLate (now : Instant) (store : Store) (attempt : Attempt)
    (after : Store) : Prop where
  touches : Touches attempt.id store after
  savesNothing : store.SavesNothing after
  submitted : ∃ later ∈ after.attempts, Attempt.Kept attempt later ∧
    later.submittedAt = some attempt.deadlineAt ∧
    (later.status.isScored = true ∨ store.outages ≠ [] ∧
      later.status = .submitted)
  grades : store.outages = [] → ∃ graded,
    GradesInto now (store.submitting attempt.id attempt.deadlineAt now)
      (Store.submitted attempt.deadlineAt now attempt) graded after

/-- What a caller's request leaves that has changed the tables and has not been
answered with success. -/
inductive LeavesRefused (now : Instant) (store : Store) (caller : Caller) :
    Endpoint → Halt Refusal → Store → Prop where
  | late {endpoint : Endpoint} {attemptId : String} {attempt : Attempt}
      {halt : Halt Refusal}
      {after : Store} (on : endpoint.worksOn? = some attemptId)
      (own : IsOwn store caller.id attemptId attempt)
      (passed : attempt.deadlineAt ≤ now)
      (closes : ClosesLate now store attempt after)
      (answer : halt = .refused (.ofAttempt .timeExpired) ∨ store.outages ≠ [] ∧
        halt = .outOfRange) : LeavesRefused now store caller endpoint halt after
  | exhausted {assignmentId : String} {attempt : Attempt} {halt : Halt Refusal}
      {after : Store} (listed : attempt ∈ store.attempts)
      (running : IsRunning assignmentId caller.id attempt)
      (passed : attempt.deadlineAt ≤ now)
      (closes : ClosesLate now store attempt after)
      (answer : halt = .refused (.ofAttempt .noAttemptsLeft) ∨
        store.outages ≠ [] ∧ halt = .outOfRange) :
      LeavesRefused now store caller (.startAttempt assignmentId) halt after
  | fault {endpoint : Endpoint} {halt : Halt Refusal}
      {after : Store} (lost : store.outages ≠ [])
      (done : Effect now store caller endpoint [] none after)
      (answer : halt = .outOfRange ∨
        (∃ id, endpoint = .closeAssignment id ∨ endpoint = .reportViolation id ∨
          endpoint = .submitAttempt id) ∧ halt.IsFault) :
      LeavesRefused now store caller endpoint halt after

variable {now : Instant} {store after : Store} {caller : Caller}
  {endpoint : Endpoint}

/-- Finishing an attempt as of its deadline closes it late. -/
theorem Finishes.closesLate {attempt : Attempt}
    (finishes : Finishes now store attempt attempt.deadlineAt after)
    (lawful : store.Lawful) (orderly : store.IsOrderly now)
    (listed : attempt ∈ store.attempts) (running : attempt.status = .inProgress)
    (passed : attempt.deadlineAt ≤ now)
    (reliable : store.outages = [] → store.IsReliable) :
    ClosesLate now store attempt after := by
  have closes : Closes now store attempt attempt.deadlineAt :=
    ⟨listed, running, .inl ⟨rfl, .inl passed⟩⟩
  have due := (orderly.regular attempt listed).due
  have here : Store.submitted attempt.deadlineAt now attempt ∈
      (store.submitting attempt.id attempt.deadlineAt now).attempts :=
    mem_submitting listed running _ _
  have touches := finishes.touches
  have savesNothing := finishes.savesNothing
  have kept := Attempt.Kept.submitted attempt.deadlineAt now attempt
  have lawful' := closes.submitting.lawful lawful
  cases finishes with
  | passed idle =>
      have lost : store.outages ≠ [] := by
        intro reach
        have quiet := idle (closes.submitting.reliable (reliable reach)) _ here
        have waits : hasStatus attempt.id .submitted
          (Store.submitted attempt.deadlineAt now attempt) =
          true := hasStatus_eq_true.mpr ⟨rfl, rfl⟩
        exact Bool.false_ne_true (quiet.symm.trans waits)
      exact ⟨touches, savesNothing, ⟨_, here, kept, congrArg some due,
        .inr ⟨lost, rfl⟩⟩, fun reach => (lost reach).elim⟩
  | @graded row graded _ same into =>
      obtain rfl := eq_of_key lawful'.sittings.ids into.mem here same
      refine ⟨touches, savesNothing, ?_, fun _ => ⟨graded, into⟩⟩
      obtain ⟨_, _, totals, _, _, _, _, grades, -, -, rfl⟩ := into
      exact ⟨_,
        mem_updateWhere_of_holds here (hasStatus_eq_true.mpr ⟨rfl, rfl⟩),
        kept.trans (.scored _ _ _ _ _), congrArg some due,
        .inl totals.isScored_statusAfterAuto⟩

/-- A request that has not ended well leaves the tables alone, or what the
exceptions allow for. -/
theorem Effect.leavesRefused {halt : Halt Refusal} {saves : List AcceptedSave}
    (effect : Effect now store caller endpoint saves (some halt) after)
    (lawful : store.Lawful) (orderly : store.IsOrderly now)
    (reliable : store.outages = [] → store.IsReliable) :
    after = store ∨ LeavesRefused now store caller endpoint halt after := by
  generalize ended : some halt = failed at effect
  cases effect with
  | nothing => exact .inl rfl
  | generated | assigned | saved | graded | reviewed => cases ended
  | closed author manages ending =>
      cases ending with
      | intended => cases ended
      | fault unreliable is =>
          cases ended
          exact .inr (.fault (mt reliable unreliable)
              (.closed author manages .intended) (.inr ⟨⟨_, .inl rfl⟩, is⟩))
  | @late endpoint attemptId attempt _ _ on own passed finishes ending =>
      have closes := finishes.closesLate lawful orderly own.listed own.running
        passed reliable
      refine .inr (.late on own passed closes ?_)
      cases ending with
      | intended =>
          cases ended
          exact .inl rfl
      | fault unreliable is =>
          cases ended
          exact .inr ⟨mt reliable unreliable, is⟩
  | violated own inTime touches savesNothing ending =>
      cases ending with
      | intended => cases ended
      | fault unreliable is =>
          cases ended
          exact .inr (.fault (mt reliable unreliable) (.violated own inTime
              touches savesNothing .intended) (.inr ⟨⟨_, .inr (.inl rfl)⟩, is⟩))
  | submitted own closes finishes ending =>
      cases ending with
      | intended => cases ended
      | fault unreliable is =>
          cases ended
          exact .inr (.fault (mt reliable unreliable) (.submitted own closes
              finishes .intended) (.inr ⟨⟨_, .inr (.inr rfl)⟩, is⟩))
  | exhausted listed running passed finishes ending =>
      have closes :=
        finishes.closesLate lawful orderly listed running.2 passed reliable
      refine .inr (.exhausted listed running passed closes ?_)
      cases ending with
      | intended =>
          cases ended
          exact .inl rfl
      | fault unreliable is =>
          cases ended
          exact .inr ⟨mt reliable unreliable, is⟩
  | started expires student completes ending =>
      cases ending with
      | intended => cases ended
      | fault unreliable is =>
          cases ended
          obtain rfl : halt = .outOfRange := is
          exact .inr (.fault (mt reliable unreliable)
              (.started expires student completes .intended) (.inl rfl))

namespace Session

variable {opening session : Session}

/-- What a call gets whose request has been refused, or whose calculation has
left its range. -/
def haltedBy (session : Session) (request : HttpRequest) :
    Halt Refusal → StepResult
  | .refused refusal =>
      .replied (Server.sent session.settings request refusal.reply)
  | .outOfRange => .outOfRange

/-- In every state that a service reaches, a request that is not answered with
success leaves the tables as they were, except for the own attempt that is
closed late, and for changes after which the service has failed.  Who comes late
is answered with 410, and who has no attempts left with 409. -/
theorem refused_request_leaves (lawful : opening.store.Lawful)
    (unused : opening.store.attempts = [])
    (papers : ∀ variant ∈ opening.store.variants, ∃ questions,
      variant.questions.value? = some questions ∧ IsPaper questions)
    (run : Serves true opening session) (request : HttpRequest)
    (credential : Credential)
    (unsuccessful :
      ¬(session.run (.call request credential)).1.result.IsSuccess) :
    let sent := session.signed request credential
    let answered := session.run (.call request credential)
    (answered.2.store = session.store ∨ ∃ endpoint caller halt,
      Server.called? session.settings sent = some endpoint ∧
      Access.caller? session.settings session.now sent = some (.ok caller) ∧
      answered.1.result = session.haltedBy sent halt ∧ LeavesRefused session.now
        session.store caller endpoint halt answered.2.store) ∧
      (Refusal.ofAttempt .timeExpired).reply.status = 410 ∧
      (Refusal.ofAttempt .noAttemptsLeft).reply.status = 409 := by
  intro sent answered
  refine ⟨?_, rfl, rfl⟩
  obtain ⟨lawful', orderly⟩ :=
    (Serves.sound run (isSound_of_no_attempts lawful unused)).1
  rcases run_call lawful' request credential with ⟨same, -⟩ |
    ⟨endpoint, caller, failed, ended, called, known, tells, result, effect⟩
  · exact .inl same
  · have leaves : ∀ halt, failed = some halt → _ := fun halt is =>
      (is ▸ effect).leavesRefused lawful' orderly
        (Serves.reliable run lawful unused papers)
    cases tells with
    | @done json =>
        refine (unsuccessful ⟨200, ?_, Nat.le_refl _, by decide⟩).elim
        rw [result]
        exact congrArg some (Server.status_sent _ _ (Server.replyOf (.ok json)))
    | @refused refusal =>
        exact (leaves (.refused refusal) rfl).imp_right fun left =>
          ⟨endpoint, caller, .refused refusal, called, known, result, left⟩
    | broken =>
        exact (leaves .outOfRange rfl).imp_right fun left =>
          ⟨endpoint, caller, .outOfRange, called, known, result, left⟩

/-! ## A failure after the change -/

/-- The service with one student has lost its roster. -/
def losingRoster : Session :=
  ((withOneStudent Column.origin).run (.loseTables [.roster])).2

theorem losingRoster_serves :
    Serves true (withOneStudent Column.origin) losingRoster :=
  .single ⟨.loseTables [.roster], rfl, rfl⟩

/-- The request of the owner of the test to close it. -/
def closeRequest : HttpRequest :=
  ⟨.post, "/assignments/a/close", "", [], ""⟩

/-- The owner of the test. -/
def owner : Credential :=
  .token "o" .teacher 60

/-- The small service knows the owner of the test. -/
theorem owner_known {session : Session} (request : HttpRequest)
    (settings : session.settings = (withOneStudent Column.origin).settings)
    (now : session.now = Column.origin) :
    Access.caller? session.settings session.now (session.signed request owner) =
      some (.ok ⟨"o", .teacher⟩) := by
  refine caller?_token request ⟨true, true, false⟩ 946684740 ?_ ?_ rfl ?_ ?_
  · rw [settings]
    rfl
  · rw [claimsOf, now]
    decide +kernel
  · rw [now]
    decide
  · rw [now]
    decide

/-- The assignment is closed, and then it cannot be shown. -/
theorem losingRoster_fails_to_close :
    (losingRoster.run (.call closeRequest owner)).1.result.status? = some 500 ∧
    (losingRoster.run (.call closeRequest owner)).2.store.assignments.map
      (·.status) ≠ losingRoster.store.assignments.map (·.status) := by
  have called : Server.called? losingRoster.settings
      (losingRoster.signed closeRequest owner) =
      some (.closeAssignment "a") := by
    rw [called?_signed]
    decide +kernel
  have known : Access.caller? losingRoster.context.settings
      losingRoster.context.now (losingRoster.signed closeRequest owner) =
      some (.ok ⟨"o", .teacher⟩) :=
    owner_known closeRequest rfl rfl
  have handled : Handle.endpoint (losingRoster.signed closeRequest owner)
      (.closeAssignment "a") losingRoster.context ⟨losingRoster.store, []⟩ =
      ((Exam.close ⟨"o", .teacher⟩ "a").mapError Refusal.ofAssigning >>=
        fun closed => pure (Handle.assignedView closed)) losingRoster.context
        ⟨losingRoster.store, []⟩ :=
    Action.bind_apply_of_ok (Handle.author_eq_ok known rfl)
  obtain ⟨result, left⟩ := run_of_called called
  rw [handled] at result left
  rw [result, left]
  decide +kernel

/-- What the failed request to close the assignment leaves is one of the
exceptions. -/
theorem losingRoster_refused_request_leaves :
    let opening := withOneStudent Column.origin
    let sent := losingRoster.signed closeRequest owner
    let answered := losingRoster.run (.call closeRequest owner)
    opening.store.Lawful ∧ opening.store.attempts = [] ∧
      Serves true opening losingRoster ∧ ¬answered.1.result.IsSuccess ∧
      (answered.2.store = losingRoster.store ∨ ∃ endpoint caller halt,
        Server.called? losingRoster.settings sent = some endpoint ∧
        Access.caller? losingRoster.settings losingRoster.now sent =
          some (.ok caller) ∧
        answered.1.result = losingRoster.haltedBy sent halt ∧
        LeavesRefused losingRoster.now losingRoster.store caller endpoint halt
          answered.2.store) := by
  have unsuccessful :
      ¬(losingRoster.run (.call closeRequest owner)).1.result.IsSuccess :=
    StepResult.not_isSuccess losingRoster_fails_to_close.1 (by decide)
  exact ⟨withOneStudent_lawful _, rfl, losingRoster_serves, unsuccessful,
    (refused_request_leaves (withOneStudent_lawful _) rfl (withOneStudent_papers
      _) losingRoster_serves closeRequest owner unsuccessful).1⟩

/-- A request whose reply is neither success nor one of the two refusals may
have changed the tables. -/
theorem failed_request_may_leave_a_change :
    ¬∀ (opening session : Session) (request : HttpRequest)
      (credential : Credential),
      opening.store.Lawful → opening.store.attempts = [] →
      (∀ variant ∈ opening.store.variants, ∃ questions,
        variant.questions.value? = some questions ∧ IsPaper questions) →
      Serves true opening session →
      (∃ status, (session.run (.call request credential)).1.result.status? =
        some status ∧
        ¬(200 ≤ status ∧ status < 300) ∧ status ≠ 410 ∧ status ≠ 409) →
      (session.run (.call request credential)).2.store = session.store := by
  intro claimed
  obtain ⟨failed, differs⟩ := losingRoster_fails_to_close
  have same := claimed _ losingRoster closeRequest owner
    (withOneStudent_lawful _) rfl (withOneStudent_papers _) losingRoster_serves
    ⟨500, failed, by decide, by decide, by decide⟩
  exact differs (congrArg (fun store => store.assignments.map (·.status)) same)

end Session

end ExamHall
