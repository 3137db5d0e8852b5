import ExamHall.Proofs.Exam.Frozen
import ExamHall.Proofs.Session.History
import ExamHall.Proofs.Session.StoredTests

/-!
# Generated tests are frozen

A test is generated once, and whoever edits the question bank afterwards changes
nothing about it.  Two services whose question banks are edited in different
ways answer the same requests in the same way, as long as nobody wants a test to
be generated, and their tables stay equal but for the bank.
-/

namespace ExamHall

open Store

/-! ## Requests -/

namespace Handle

variable {request : HttpRequest}

theorem ignoresBank_orRefuse {ε α : Type} {report : ε → Refusal}
    (result : Except ε α) : (orRefuse report result).IgnoresBank := by
  cases result with
  | ok value => exact .pure value
  | error error => exact .refuse _

theorem ignoresBank_caller : (caller request).IgnoresBank :=
  .reading fun _ => .bind (.inRange _) fun _ => ignoresBank_orRefuse _

theorem ignoresBank_author : (author request).IgnoresBank :=
  .bind ignoresBank_caller fun _ => ignoresBank_orRefuse _

theorem ignoresBank_bounded {α : Type} {form : Json.Form α}
    {faults : α → List RangeFault} :
    (bounded request form faults).IgnoresBank := by
  apply Action.IgnoresBank.bind (ignoresBank_orRefuse _)
  intro value
  split
  · exact .pure value
  · exact .refuse _

/-- An operation whose result is shown. -/
theorem ignoresBank_shown {ε α : Type} {operation : Action ε α}
    {report : ε → Refusal} {shown : α → Action Refusal Json}
    (ignores : operation.IgnoresBank)
    (shows : ∀ value, (shown value).IgnoresBank) :
    (operation.mapError report >>= shown).IgnoresBank :=
  .bind (.mapError ignores) shows

/-- All endpoints but the one that generates tests ignore the question bank. -/
theorem ignoresBank_endpoint {endpoint : Endpoint}
    (other : endpoint ≠ .generateTest) :
    (Handle.endpoint request endpoint).IgnoresBank := by
  cases endpoint with
  | welcome => exact .reading fun _ => .pure _
  | health => exact .reading fun _ => .pure _
  | generateTest => exact (other rfl).elim
  | showTest testId =>
      exact .bind ignoresBank_author fun _ =>
        ignoresBank_shown (Exam.ignoresBank_showTest _) fun _ => .pure _
  | assign =>
      exact .bind ignoresBank_author fun _ => .bind ignoresBank_bounded fun _ =>
        ignoresBank_shown (Exam.ignoresBank_assign _) fun _ => .pure _
  | showAssignment assignmentId =>
      exact .bind ignoresBank_author fun _ =>
        ignoresBank_shown (Exam.ignoresBank_showAssignment _) fun _ => .pure _
  | closeAssignment assignmentId =>
      exact .bind ignoresBank_author fun _ =>
        ignoresBank_shown (Exam.ignoresBank_close _) fun _ => .pure _
  | listAttempts assignmentId =>
      exact .bind (ignoresBank_orRefuse _) fun _ =>
        .bind ignoresBank_author fun _ =>
        ignoresBank_shown (Exam.ignoresBank_attemptPage _ _) fun _ =>
        .reading fun _ => .pure _
  | studentStatus assignmentId =>
      exact .bind ignoresBank_caller fun _ =>
        ignoresBank_shown (Exam.ignoresBank_status _) fun _ =>
        .reading fun _ => .pure _
  | startAttempt assignmentId =>
      exact .bind ignoresBank_caller fun _ =>
        ignoresBank_shown (Exam.ignoresBank_start _ _) fun _ =>
        .reading fun _ => .pure _
  | showAttempt attemptId =>
      exact .bind ignoresBank_caller fun _ =>
        ignoresBank_shown (Exam.ignoresBank_view _) fun _ =>
        .reading fun _ => .pure _
  | saveAnswers attemptId =>
      exact .bind ignoresBank_caller fun _ => .bind ignoresBank_bounded fun _ =>
        ignoresBank_shown (Exam.ignoresBank_saveBatch _ _) fun _ => .pure _
  | saveAnswer attemptId questionId =>
      exact .bind ignoresBank_caller fun _ => .bind ignoresBank_bounded fun _ =>
        ignoresBank_shown (Exam.ignoresBank_save _ _) fun _ => .pure _
  | reportViolation attemptId =>
      exact .bind ignoresBank_caller fun _ =>
        ignoresBank_shown (Exam.ignoresBank_reportViolation _) fun _ =>
        .reading fun _ => .pure _
  | submitAttempt attemptId =>
      exact .bind ignoresBank_caller fun _ =>
        ignoresBank_shown (Exam.ignoresBank_submit _) fun _ =>
        ignoresBank_shown (Exam.ignoresBank_snapshotOf _) fun _ =>
        .reading fun _ => .pure _
  | gradeAttempt attemptId =>
      exact .bind ignoresBank_author fun _ =>
        ignoresBank_shown (Exam.ignoresBank_grade _) fun _ =>
        .reading fun _ => .pure _
  | reviewAnswer answerId =>
      exact .bind ignoresBank_author fun _ => .bind ignoresBank_bounded fun _ =>
        ignoresBank_shown (Exam.ignoresBank_review _ _) fun _ =>
        .reading fun _ => .pure _

end Handle

namespace Server

/-- A request that calls no endpoint is answered without a look at the
tables. -/
theorem exists_reply_of_uncalled {context : Context} {request : HttpRequest}
    (uncalled : called? context.settings request = none) :
    ∃ reply, ∀ world, respond request context world = (.ok reply, world) := by
  unfold called? at uncalled
  unfold respond
  split at uncalled
  · next metered =>
      refine ⟨metricsReply request, fun world => ?_⟩
      rw [Action.read_bind_apply, if_pos metered]
      rfl
  · next unmetered =>
      split at uncalled
      · next asked =>
          refine ⟨(OriginPolicy.ofSettings context.settings).preflight request,
            fun world => ?_⟩
          rw [Action.read_bind_apply, if_neg unmetered, if_pos asked]
          rfl
      · next unasked =>
          have routes : ∃ reply, ∀ world,
              routed request context world = (.ok reply, world) := by
            unfold routedTo? at uncalled
            unfold routed
            cases found :
                Endpoint.route? context.settings.apiPath request.path with
            | none =>
                refine ⟨bareReply 404, fun world => ?_⟩
                rw [Action.read_bind_apply, found]
                rfl
            | some route =>
                rw [found] at uncalled
                dsimp only at uncalled
                split at uncalled
                · next allowed =>
                    refine ⟨bareReply 400, fun world => ?_⟩
                    rw [Action.read_bind_apply, found]
                    dsimp only
                    rw [if_pos allowed, uncalled]
                    rfl
                · next refused =>
                    refine ⟨bareReply 405, fun world => ?_⟩
                    rw [Action.read_bind_apply, found]
                    dsimp only
                    rw [if_neg refused]
                    rfl
          obtain ⟨reply, routes⟩ := routes
          refine ⟨sent context.settings request reply, fun world => ?_⟩
          rw [Action.read_bind_apply, if_neg unmetered, if_neg unasked,
            Action.bind_apply_of_ok (routes world)]
          rfl

/-- The question bank does not matter to a request that is not for a test to be
generated. -/
theorem respond_withBank {context : Context} {request : HttpRequest}
    (other : called? context.settings request ≠ some .generateTest)
    (bank : Bank) (world : World) :
    respond request context (world.withBank bank) =
      ((respond request context world).1,
        (respond request context world).2.withBank bank) := by
  cases called : called? context.settings request with
  | none =>
      obtain ⟨reply, answers⟩ := exists_reply_of_uncalled called
      rw [answers, answers]
  | some endpoint =>
      have ignores : (Handle.endpoint request endpoint).IgnoresBank :=
        Handle.ignoresBank_endpoint fun same =>
          other (called.trans (congrArg some same))
      rw [respond_of_called called, respond_of_called called,
        ignores context bank world]

end Server

/-! ## Steps -/

/-- Whether a step neither generates a test nor looks at the question bank;
maintainers leave the other tables alone. -/
def Step.SparesBank (settings : Settings) : Step → Prop
  | .call request _ => Server.called? settings request ≠ some .generateTest
  | .sweep | .recover | .setClock _ | .connectBroker _ | .loseTables _ => True
  | .look table => table ≠ .questions
  | .insert _ _ | .change _ _ _ | .remove _ _ => False

/-- Whether a step is the work of a maintainer on the question bank. -/
def Step.EditsBank : Step → Prop
  | .insert table _ | .change table _ _ | .remove table _ => table = .questions
  | _ => False

namespace Session

/-- The session with another question bank. -/
def withBank (bank : Bank) (session : Session) : Session :=
  { session with store := session.store.withBank bank }

/-- Runs steps one after another, each of them with the question bank as it has
been edited by then, and gives what each step ends with and leaves. -/
def runEdited (session : Session) :
    List (Bank × Step) → List (StepOutcome × Session)
  | [] => []
  | (bank, step) :: rest =>
    let ended := (session.withBank bank).run step
    ended :: ended.2.runEdited rest

variable {session : Session} {bank : Bank}

@[simp] theorem withBank_withBank {other : Bank} :
    (session.withBank other).withBank bank = session.withBank bank := rfl

theorem act_withBank {ε α : Type} {action : Action ε α}
    {onValue : α → StepResult} {onError : ε → StepResult}
    (ignores : ∀ world, action session.context (World.withBank bank world) =
      ((action session.context world).1,
        (action session.context world).2.withBank bank)) :
    (session.withBank bank).act action onValue onError =
      ((session.act action onValue onError).1,
        (session.act action onValue onError).2.withBank bank) := by
  unfold act
  rw [show (session.withBank bank).context = session.context from rfl,
    show (⟨(session.withBank bank).store, []⟩ : World) =
      World.withBank bank ⟨session.store, []⟩ from rfl,
    ignores]
  rfl

/-- The question bank does not matter to a step that spares it. -/
theorem run_withBank (bank : Bank) {step : Step}
    (spares : step.SparesBank session.settings) :
    (session.withBank bank).run step =
      ((session.run step).1, (session.run step).2.withBank bank) := by
  cases step with
  | call request credential =>
      have other :
          Server.called? session.settings (session.signed request credential) ≠
            some .generateTest := by
        rw [called?_signed]
        exact spares
      exact act_withBank (Server.respond_withBank other bank)
  | sweep => exact act_withBank (Exam.ignoresBank_sweep _ bank)
  | recover => exact act_withBank (Exam.ignoresBank_recoverStalled _ bank)
  | look table =>
      cases table with
      | questions => exact (spares rfl).elim
      | _ => rfl
  | setClock | connectBroker | loseTables => rfl
  | insert | change | remove => exact spares.elim

theorem settings_run {step : Step} (spares : step.SparesBank session.settings) :
    (session.run step).2.settings = session.settings := by
  cases step with
  | insert | change | remove => exact spares.elim
  | _ => rfl

/-- What maintainers do to the question bank is an edit of it. -/
theorem exists_bank_of_editsBank (session : Session) {step : Step}
    (edits : step.EditsBank) :
    ∃ bank, (session.run step).2 = session.withBank bank := by
  cases step with
  | insert table row =>
      obtain rfl : table = .questions := edits
      change ∃ bank,
        (session.maintain (Maintenance.insert .questions row) _).2 = _
      unfold maintain
      split
      · next ended =>
          change Maintenance.questionView.insert _ _ = _ at ended
          simp only [Maintenance.questionView, insertQuestion, bind_eq_ok,
            Statement.ofExcept_eq_ok, Statement.plain_eq_ok,
            Statement.reach_eq_ok, Statement.ensure_eq_ok, get_eq_ok,
            set_eq_ok] at ended
          obtain ⟨_, _, ⟨-, rfl⟩, _, _, ⟨-, rfl⟩, _, _, ⟨-, rfl⟩, _, _,
            ⟨-, rfl⟩, _, _, ⟨-, rfl⟩, _, _, ⟨rfl, rfl⟩, _, _, ⟨-, rfl⟩, rfl⟩ :=
            ended
          exact ⟨_, rfl⟩
      · exact ⟨session.store.questions, rfl⟩
  | change table id row =>
      obtain rfl : table = .questions := edits
      change ∃ bank,
        (session.maintain (Maintenance.questionView.change id _) _).2 = _
      unfold maintain TableView.change
      cases Maintenance.questionView.reviseRows id (Maintenance.fieldsOf row)
          (Maintenance.questionView.rows session.store) with
      | ok rows => exact ⟨rows, rfl⟩
      | error fault => exact ⟨session.store.questions, rfl⟩
  | remove table id =>
      obtain rfl : table = .questions := edits
      exact ⟨_, rfl⟩
  | _ => exact edits.elim

/-- Two runs of the same steps, none of which looks at the question bank, have
the same outcomes and leave the same but for the bank at every step, however the
banks are edited. -/
theorem runEdited_forall₂ (session : Session) (bank : Bank)
    {edits others : List (Bank × Step)}
    (same : edits.map Prod.snd = others.map Prod.snd)
    (spares : ∀ step ∈ edits.map Prod.snd, step.SparesBank session.settings) :
    List.Forall₂ (fun first second => first.1 = second.1 ∧
      ∃ bank, second.2 = first.2.withBank bank)
      (session.runEdited edits) ((session.withBank bank).runEdited others) := by
  induction edits generalizing session bank others with
  | nil =>
      obtain rfl := List.map_eq_nil_iff.mp same.symm
      exact .nil
  | cons edit edits ih =>
      obtain ⟨other, others, rfl, sameStep, sameSteps⟩ :=
        List.map_eq_cons_iff.mp same.symm
      obtain ⟨here, step⟩ := edit
      obtain ⟨there, step'⟩ := other
      obtain rfl : step' = step := sameStep
      obtain ⟨sparesNow, sparesLater⟩ := List.forall_mem_cons.mp spares
      have first := run_withBank here sparesNow
      have second := run_withBank there sparesNow
      have settings := settings_run sparesNow
      unfold runEdited
      rw [withBank_withBank]
      dsimp only
      rw [first, second]
      refine .cons ⟨rfl, there, rfl⟩ ?_
      exact ih ((session.run step').2.withBank here) there sameSteps.symm
          fun later inside => by
        rw [show ((session.run step').2.withBank here).settings =
          (session.run step').2.settings from rfl, settings]
        exact sparesLater later inside

/-- Generated tests are frozen.  Two services that differ in their question
banks at most take the same steps, none of which wants a test to be generated,
while their banks are edited before each step in different ways.  Then the steps
have the same outcomes in both, replies and events, and after each of them the
services differ in their banks at most again.  Whatever maintainers do to a
question bank is such an edit. -/
theorem generated_tests_are_frozen (session : Session) (bank : Bank)
    (edits others : List (Bank × Step))
    (same : edits.map Prod.snd = others.map Prod.snd)
    (spares : ∀ step ∈ edits.map Prod.snd, step.SparesBank session.settings) :
    List.Forall₂ (fun first second => first.1 = second.1 ∧
        ∃ bank, second.2 = first.2.withBank bank)
      (session.runEdited edits) ((session.withBank bank).runEdited others) ∧
    ∀ (session : Session) (step : Step), step.EditsBank →
      ∃ bank, (session.run step).2 = session.withBank bank :=
  ⟨runEdited_forall₂ session bank same spares,
    fun session _ => exists_bank_of_editsBank session⟩

/-- The student takes and submits the test while the question bank is emptied,
and while a question is put into it. -/
theorem withOneStudent_generated_tests_are_frozen :
    let steps := [startsTest, savesAnswer, submitsTest]
    let opening := withOneStudent Column.origin
    (∀ step ∈ steps, step.SparesBank opening.settings) ∧
      List.Forall₂ (fun first second => first.1 = second.1 ∧
          ∃ bank, second.2 = first.2.withBank bank)
        (opening.runEdited (steps.map ([], ·)))
        ((opening.withBank withPublicQuestion.store.questions).runEdited
          (steps.map (withPublicQuestion.store.questions, ·))) := by
  intro steps opening
  have spares : ∀ step ∈ steps, step.SparesBank opening.settings := by
    have starts : startsTest.SparesBank opening.settings :=
      show Server.called? opening.settings _ ≠ _ by decide +kernel
    have saves : savesAnswer.SparesBank opening.settings :=
      show Server.called? opening.settings _ ≠ _ by decide +kernel
    have submits : submitsTest.SparesBank opening.settings :=
      show Server.called? opening.settings _ ≠ _ by decide +kernel
    simp [steps, starts, saves, submits]
  exact ⟨spares, (generated_tests_are_frozen opening _ (steps.map ([], ·))
      (steps.map (withPublicQuestion.store.questions, ·)) (by simp)
      (by simpa using spares)).1⟩

end Session

end ExamHall
