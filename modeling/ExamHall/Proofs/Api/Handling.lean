import ExamHall.Api.Server
import ExamHall.Proofs.Exam.Authoring
import ExamHall.Proofs.Exam.Sitting

/-!
# Handling requests

An endpoint learns who calls and what the request brings, and then runs one
operation.  So does an answered request, whatever it asks for: it leaves the
world settled.
-/

namespace ExamHall

open Store ExamHall.Action

variable {context : Context} {start : Store} {kept : World → Prop}
  {request : HttpRequest}

namespace Handle

theorem orRefuse_keeps {ε α : Type} {report : ε → Refusal}
    (result : Except ε α) : Keeps context kept (orRefuse report result) := by
  cases result with
  | ok value => exact Keeps.pure value
  | error error => exact Keeps.refuse (report error)

/-- A caller who is known is the caller of the request. -/
theorem caller_eq_ok {found : Caller} {world : World}
    (known : Access.caller? context.settings context.now request =
      some (.ok found)) :
    caller request context world = (.ok found, world) := by
  change (inRange (Access.caller? context.settings context.now request) >>= _)
    context world = _
  rw [known]
  rfl

theorem author_eq_ok {found : Caller} {world : World}
    (known : Access.caller? context.settings context.now request =
      some (.ok found)) (may : found.role.canAuthor = true) :
    author request context world = (.ok found, world) := by
  refine (bind_apply_of_ok (caller_eq_ok known)).trans ?_
  rw [Access.author, if_pos may]
  rfl

theorem caller_keeps : Keeps context kept (caller request) :=
  .reading (.bind (.inRange _) fun _ => orRefuse_keeps _)

theorem author_keeps : Keeps context kept (author request) :=
  .bind caller_keeps fun _ => orRefuse_keeps _

theorem bounded_keeps {α : Type} {form : Json.Form α}
    {faults : α → List RangeFault} :
    Keeps context kept (bounded request form faults) := by
  unfold bounded
  refine .bind (orRefuse_keeps _) fun value => ?_
  split
  · exact Keeps.pure value
  · exact Keeps.refuse _

/-- An operation for a caller, with its result shown. -/
theorem shown_keeps {ε α β γ : Type} {named : Action Refusal γ}
    {operation : γ → Action ε α} {report : ε → Refusal}
    {shown : α → Action Refusal β} (namedKeeps : Keeps context kept named)
    (operationKeeps : ∀ value, Keeps context kept (operation value))
    (shownKeeps : ∀ value, Keeps context kept (shown value)) :
    Keeps context kept
      (named >>= fun value => (operation value).mapError report >>= shown) :=
  .bind namedKeeps fun value =>
    .bind (.mapError (operationKeeps value)) shownKeeps

/-- The operation of an endpoint keeps a property of the world, whoever calls
and whatever is brought.  Where an endpoint only looks, nothing is asked. -/
def KeepsOperation (context : Context) (kept : World → Prop) : Endpoint → Prop
  | .generateTest =>
      ∀ author wanted, Keeps context kept (Exam.generate author wanted)
  | .assign => ∀ author form, Keeps context kept (Exam.assign author form)
  | .closeAssignment assignmentId =>
      ∀ author, Keeps context kept (Exam.close author assignmentId)
  | .startAttempt assignmentId =>
      ∀ caller code, Keeps context kept (Exam.start caller assignmentId code)
  | .saveAnswers attemptId =>
      ∀ caller inputs,
        Keeps context kept (Exam.saveBatch caller attemptId inputs)
  | .saveAnswer attemptId _ =>
      ∀ caller input, Keeps context kept (Exam.save caller attemptId input)
  | .reportViolation attemptId =>
      ∀ caller, Keeps context kept (Exam.reportViolation caller attemptId)
  | .submitAttempt attemptId =>
      ∀ caller, Keeps context kept (Exam.submit caller attemptId)
  | .gradeAttempt attemptId =>
      ∀ author, Keeps context kept (Exam.grade author attemptId)
  | .reviewAnswer answerId =>
      ∀ author review, Keeps context kept (Exam.review author answerId review)
  | .welcome | .health | .showTest _ | .showAssignment _ | .listAttempts _
    | .studentStatus _ | .showAttempt _ => True

theorem endpoint_keeps {endpoint : Endpoint}
    (keeps : KeepsOperation context kept endpoint) :
    Keeps context kept (Handle.endpoint request endpoint) := by
  cases endpoint with
  | welcome => exact Keeps.reading (Keeps.pure _)
  | health => exact Keeps.reading (Keeps.pure _)
  | generateTest =>
      exact Keeps.bind author_keeps fun author =>
        Keeps.bind bounded_keeps fun form =>
        shown_keeps (orRefuse_keeps _) (keeps author) fun _ => Keeps.pure _
  | showTest testId =>
      exact shown_keeps author_keeps (fun _ => Exam.showTest_keeps) fun _ =>
        Keeps.pure _
  | assign =>
      exact Keeps.bind author_keeps fun author =>
        shown_keeps bounded_keeps (keeps author) fun _ => Keeps.pure _
  | showAssignment assignmentId =>
      exact shown_keeps author_keeps
        (fun _ => Exam.showAssignment_keeps) fun _ => Keeps.pure _
  | closeAssignment assignmentId =>
      exact shown_keeps author_keeps keeps fun _ => Keeps.pure _
  | listAttempts assignmentId =>
      exact Keeps.bind (orRefuse_keeps _) fun query =>
        shown_keeps author_keeps (fun _ => Exam.attemptPage_keeps) fun _ =>
        Keeps.reading (Keeps.pure _)
  | studentStatus assignmentId =>
      exact shown_keeps caller_keeps (fun _ => Exam.status_keeps) fun _ =>
        Keeps.reading (Keeps.pure _)
  | startAttempt assignmentId =>
      exact shown_keeps caller_keeps (fun caller => keeps caller _) fun _ =>
        Keeps.reading (Keeps.pure _)
  | showAttempt attemptId =>
      exact shown_keeps caller_keeps (fun _ => Exam.view_keeps) fun _ =>
        Keeps.reading (Keeps.pure _)
  | saveAnswers attemptId =>
      exact Keeps.bind caller_keeps fun caller =>
        shown_keeps bounded_keeps (keeps caller) fun _ => Keeps.pure _
  | saveAnswer attemptId questionId =>
      exact Keeps.bind caller_keeps fun caller =>
        shown_keeps bounded_keeps (keeps caller) fun _ => Keeps.pure _
  | reportViolation attemptId =>
      exact shown_keeps caller_keeps keeps fun _ => Keeps.reading (Keeps.pure _)
  | submitAttempt attemptId =>
      exact shown_keeps caller_keeps keeps fun _ =>
        Keeps.bind (.mapError Exam.snapshotOf_keeps) fun _ =>
        Keeps.reading (Keeps.pure _)
  | gradeAttempt attemptId =>
      exact shown_keeps author_keeps keeps fun _ => Keeps.reading (Keeps.pure _)
  | reviewAnswer answerId =>
      exact Keeps.bind author_keeps fun author =>
        shown_keeps bounded_keeps (keeps author) fun _ =>
        Keeps.reading (Keeps.pure _)

theorem endpoint_settles {endpoint : Endpoint} (lawful : start.Lawful) :
    Keeps context (World.IsSettled context.now start)
      (Handle.endpoint request endpoint) := by
  apply endpoint_keeps
  cases endpoint with
  | generateTest => exact fun _ _ => Exam.generate_settles lawful
  | assign => exact fun _ _ => Exam.assign_settles lawful
  | closeAssignment => exact fun _ => Exam.close_settles lawful
  | startAttempt => exact fun _ _ => Exam.start_settles lawful
  | saveAnswers => exact fun _ _ => Exam.saveBatch_settles lawful
  | saveAnswer => exact fun _ _ => Exam.save_settles lawful
  | reportViolation => exact fun _ => Exam.reportViolation_settles lawful
  | submitAttempt => exact fun _ => Exam.submit_settles lawful
  | gradeAttempt => exact fun _ => Exam.grade_settles lawful
  | reviewAnswer => exact fun _ _ => Exam.review_settles lawful
  | _ => trivial

end Handle

namespace Server

theorem routed_settles (lawful : start.Lawful) :
    Keeps context (World.IsSettled context.now start) (routed request) := by
  unfold routed
  apply Keeps.reading
  split
  · exact Keeps.pure _
  · split
    · split
      · exact Keeps.pure _
      · exact Keeps.bind (.outcome (Handle.endpoint_settles lawful)) fun _ =>
          Keeps.pure _
    · exact Keeps.pure _

/-- An answered request leaves the world settled. -/
theorem respond_settles (lawful : start.Lawful) :
    Keeps context (World.IsSettled context.now start) (respond request) := by
  unfold respond
  apply Keeps.reading
  dsimp only
  split
  · exact Keeps.pure _
  · split
    · exact Keeps.pure _
    · exact Keeps.bind (routed_settles lawful) fun _ => Keeps.pure _

end Server

end ExamHall
