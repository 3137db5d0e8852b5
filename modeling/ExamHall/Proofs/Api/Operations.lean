import ExamHall.Proofs.Api.Responding
import ExamHall.Proofs.Exam.Deadline

/-!
# What students' requests amount to

A request that works on an attempt or submits it learns who calls and what is
brought, and then performs one operation. The result of the operation is shown,
and its refusals are explained.
-/

namespace ExamHall

open Store ExamHall.Action

variable {context : Context} {request : HttpRequest} {endpoint : Endpoint}
  {caller : Caller} {attemptId : String}

/-- The status that the end of an operation on attempts is answered with. -/
def Action.statusOf {α : Type} : Except (Halt AttemptError) α → Option Nat
  | .ok _ => some 200
  | .error (.refused error) => some (ApiError.ofAttempt error).status
  | .error .outOfRange => none

/-- Nothing else is answered with the status for what is gone. -/
theorem status_ofAttempt_eq_gone {error : AttemptError} :
    (ApiError.ofAttempt error).status = 410 ↔ error = .timeExpired := by
  cases error <;> simp [ApiError.ofAttempt, ApiError.status]

theorem statusOf_ne_gone {α : Type} {ended : Except (Halt AttemptError) α}
    (other : ended ≠ .error (.refused .timeExpired)) :
    Action.statusOf ended ≠ some 410 := by
  cases ended with
  | ok value => simp [Action.statusOf]
  | error halt =>
      cases halt with
      | outOfRange => exact nofun
      | refused error =>
          intro same
          obtain rfl := status_ofAttempt_eq_gone.mp (Option.some.inj same)
          exact other rfl

namespace Handle

/-- A request to an endpoint performs an operation on attempts, whose result is
then shown. -/
def Performs {α : Type} (context : Context) (request : HttpRequest)
    (endpoint : Endpoint) (operation : Action AttemptError α) : Prop :=
  ∃ shown, Shows context shown ∧ ∀ world,
    Handle.endpoint request endpoint context world =
      (operation.mapError Refusal.ofAttempt >>= shown) context world

/-- A request works on an attempt: it brings answers that can be taken, or
reports a violation. -/
inductive WorksOn (request : HttpRequest) (attemptId : String) :
    Endpoint → Prop where
  | saves {endpoint : Endpoint} {inputs : List AnswerInput}
      (brings : entries? request endpoint = some (attemptId, inputs)) :
      WorksOn request attemptId endpoint
  | reports : WorksOn request attemptId (.reportViolation attemptId)

section

variable (context)
  (known : Access.caller? context.settings context.now request =
    some (.ok caller))

include known

/-- The request of a known caller to save an answer that can be taken saves
it. -/
theorem saveAnswer_performs {questionId : String} {input : AnswerInput}
    (taken : taken? request (AnswerInput.form questionId) AnswerInput.faults =
      some input) :
    Performs context request (.saveAnswer attemptId questionId)
      (Exam.save caller attemptId input) :=
  ⟨fun answer => pure (answer.view false), fun _ _ => ⟨_, rfl⟩,
    fun world => (bind_apply_of_ok (caller_eq_ok known)).trans
      (bind_apply_of_ok (bounded_of_taken taken world))⟩

theorem saveAnswers_performs {inputs : List AnswerInput}
    (taken : taken? request AnswerInput.batchForm AnswerInput.batchFaults =
      some inputs) :
    Performs context request (.saveAnswers attemptId)
      (Exam.saveBatch caller attemptId inputs) :=
  ⟨fun outcome => pure outcome.view, fun _ _ => ⟨_, rfl⟩,
    fun world => (bind_apply_of_ok (caller_eq_ok known)).trans
      (bind_apply_of_ok (bounded_of_taken taken world))⟩

theorem reportViolation_performs :
    Performs context request (.reportViolation attemptId)
      (Exam.reportViolation caller attemptId) :=
  ⟨_, fun _ _ => ⟨_, rfl⟩, fun _ => bind_apply_of_ok (caller_eq_ok known)⟩

end

/-- The request of a known caller that works on an attempt performs such
work. -/
theorem WorksOn.performs (works : WorksOn request attemptId endpoint)
    (context : Context)
    (known : Access.caller? context.settings context.now request =
      some (.ok caller)) :
    ∃ (α : Type) (operation : Action AttemptError α),
      Exam.IsWork caller attemptId operation ∧
      Performs context request endpoint operation := by
  cases works with
  | reports => exact ⟨_, _, Exam.reportViolation_isWork,
    reportViolation_performs context known⟩
  | saves brings =>
      cases endpoint with
      | saveAnswer id questionId =>
          obtain ⟨input, taken, same⟩ := Option.map_eq_some_iff.mp brings
          cases same
          exact ⟨_, _, Exam.save_isWork,
            saveAnswer_performs context known taken⟩
      | saveAnswers id =>
          obtain ⟨inputs, taken, same⟩ := Option.map_eq_some_iff.mp brings
          cases same
          exact ⟨_, _, Exam.saveBatch_isWork,
            saveAnswers_performs context known taken⟩
      | _ => cases brings

/-- The request of a known caller to submit an attempt submits it and reads it
to be shown. -/
theorem submitAttempt_performs (context : Context)
    (known : Access.caller? context.settings context.now request =
      some (.ok caller)) :
    Performs context request (.submitAttempt attemptId)
      (Exam.submit caller attemptId >>= Exam.snapshotOf) := by
  refine ⟨fun snapshot => do pure (snapshot.view (← read).now none), fun _ _ =>
      ⟨_, rfl⟩, fun world => (bind_apply_of_ok (caller_eq_ok known)).trans ?_⟩
  rw [mapError_bind, bind_assoc]

/-- The request of a known caller to start an attempt starts it with the access
code that it brings. -/
theorem startAttempt_performs {assignmentId : String} (context : Context)
    (known : Access.caller? context.settings context.now request =
      some (.ok caller)) :
    Performs context request (.startAttempt assignmentId)
      (Exam.start caller assignmentId (accessCode request)) :=
  ⟨fun started => do pure (started.1.view (← read).now (some started.2)),
    fun _ _ => ⟨_, rfl⟩, fun _ => bind_apply_of_ok (caller_eq_ok known)⟩

/-- The request of a known author to grade an attempt grades it. -/
theorem gradeAttempt_performs (context : Context)
    (known : Access.caller? context.settings context.now request =
      some (.ok caller)) (author : caller.role.canAuthor = true) :
    Performs context request (.gradeAttempt attemptId)
      (Exam.grade caller attemptId) :=
  ⟨fun graded => do pure (graded.view (← read).now), fun _ _ => ⟨_, rfl⟩,
    fun _ => bind_apply_of_ok (author_eq_ok known author)⟩

/-- Who scores an answer with a request, and what the request brings for it. -/
def scoreGiven? (context : Context) (request : HttpRequest) :
    Option (Caller × Review) :=
  match Access.caller? context.settings context.now request with
  | some (.ok caller) =>
    if caller.role.canAuthor
      then (taken? request Review.form Review.faults).map (caller, ·) else none
  | _ => none

/-- The request of an author who scores an answer stores the score. -/
theorem reviewAnswer_performs {answerId : String} {review : Review}
    (context : Context)
    (given : scoreGiven? context request = some (caller, review)) :
    Performs context request (.reviewAnswer answerId)
      (Exam.review caller answerId review) := by
  refine ⟨fun reviewed => do
    pure (.record [("answer", reviewed.1.view true),
      ("attempt", reviewed.2.view (← read).now)]),
    fun _ _ => ⟨_, rfl⟩, fun world => ?_⟩
  unfold scoreGiven? at given
  split at given
  · next found known =>
      split at given
      · next may =>
          obtain ⟨_, taken, same⟩ := Option.map_eq_some_iff.mp given
          cases same
          exact (bind_apply_of_ok (author_eq_ok known may)).trans
            (bind_apply_of_ok (bounded_of_taken taken world))
      · cases given
  · cases given

/-- What a request leaves and is answered with is up to the operation that it
performs. -/
theorem Performs.ends {α : Type} {operation : Action AttemptError α}
    (performs : Performs context request endpoint operation) (world : World) :
    (Handle.endpoint request endpoint context world).2 =
      (operation context world).2 ∧ match (operation context world).1 with
      | .ok _ =>
          ∃ json, (Handle.endpoint request endpoint context world).1 = .ok json
      | .error halt => (Handle.endpoint request endpoint context world).1 =
        .error (halt.map Refusal.ofAttempt) := by
  obtain ⟨shown, shows, same⟩ := performs
  rw [same, bind_apply]
  unfold mapError
  rcases operation context world with ⟨(error | _) | value, after⟩
  · exact ⟨rfl, rfl⟩
  · exact ⟨rfl, rfl⟩
  · obtain ⟨json, ended⟩ := shows value after
    exact ⟨congrArg Prod.snd ended, json, congrArg Prod.fst ended⟩

end Handle

end ExamHall
