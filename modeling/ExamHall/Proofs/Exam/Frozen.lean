import ExamHall.Exam.Answering
import ExamHall.Exam.Assigning
import ExamHall.Exam.Starting
import ExamHall.Exam.Upkeep
import ExamHall.Proofs.Exam.Action
import ExamHall.Proofs.Store.Bank

/-!
# What the exam does without the question bank

Only generating a test looks at the question bank.  Everything that happens to
the test afterwards goes by the variants that have been stored with it, so it is
the same whatever the bank says by then.
-/

namespace ExamHall

open Store

namespace World

/-- The world with another question bank. -/
def withBank (bank : Bank) (world : World) : World :=
  { world with store := world.store.withBank bank }

end World

/-- The question bank does not matter to an action, wherever it comes to its
end. -/
def Action.IgnoresBank {ε α : Type} (action : Action ε α) : Prop :=
  ∀ context bank world, action context (World.withBank bank world) =
    ((action context world).1, (action context world).2.withBank bank)

namespace Action.IgnoresBank

variable {ε δ α β : Type}

theorem bind {first : Action ε α} {next : α → Action ε β}
    (ignores : IgnoresBank first)
    (continued : ∀ value, IgnoresBank (next value)) :
    IgnoresBank (first >>= next) := by
  intro context bank world
  rw [bind_apply, bind_apply, ignores context bank world]
  rcases first context world with ⟨halt | value, middle⟩
  · rfl
  · exact continued value context bank middle

theorem pure (value : α) : IgnoresBank (Pure.pure value : Action ε α) :=
  fun _ _ _ => rfl

theorem reading {next : Context → Action ε β}
    (continued : ∀ context, IgnoresBank (next context)) :
    IgnoresBank (read >>= next) :=
  fun context bank world => continued context context bank world

theorem map {change : α → β} {action : Action ε α}
    (ignores : IgnoresBank action) : IgnoresBank (change <$> action) := by
  rw [← bind_pure_comp]
  exact bind ignores fun _ => pure _

theorem ite {holds : Prop} [Decidable holds] {first second : Action ε α}
    (ignores : IgnoresBank first) (ignores' : IgnoresBank second) :
    IgnoresBank (if holds then first else second) := by
  split
  · exact ignores
  · exact ignores'

theorem refuse (error : ε) : IgnoresBank (Action.refuse error : Action ε α) :=
  fun _ _ _ => rfl

theorem require (holds : Bool) (error : ε) :
    IgnoresBank (Action.require holds error) := by
  intro context bank world
  cases holds <;> rfl

theorem demand (found : Option α) (error : ε) :
    IgnoresBank (Action.demand found error) := by
  intro context bank world
  cases found <;> rfl

theorem inRange (found : Option α) :
    IgnoresBank (Action.inRange found : Action ε α) := by
  intro context bank world
  cases found <;> rfl

theorem commit {transaction : Transaction ε α}
    (ignores : ExamHall.IgnoresBank transaction) :
    IgnoresBank (Action.commit transaction) := by
  intro context bank world
  unfold Action.commit
  rw [show (World.withBank bank world).store = world.store.withBank bank
    from rfl, ignores bank world.store]
  cases transaction world.store <;> rfl

theorem query [ReportsFaults ε] {statement : Statement α}
    (ignores : ExamHall.IgnoresBank statement) :
    IgnoresBank (Action.query statement : Action ε α) :=
  commit (.run ignores)

theorem outcome {action : Action ε α} (ignores : IgnoresBank action) :
    IgnoresBank (Action.outcome action) := by
  intro context bank world
  unfold Action.outcome
  rw [ignores context bank world]
  rcases action context world with ⟨(_ | _) | _, _⟩ <;> rfl

theorem publish (event : ProgressEvent) :
    IgnoresBank (Action.publish event : Action ε Unit) := by
  intro context bank world
  unfold Action.publish
  split <;> rfl

theorem mapError {report : ε → δ} {action : Action ε α}
    (ignores : IgnoresBank action) : IgnoresBank (action.mapError report) := by
  intro context bank world
  unfold Action.mapError
  rw [ignores context bank world]
  rcases action context world with ⟨(_ | _) | _, _⟩ <;> rfl

end Action.IgnoresBank

namespace Exam

variable {now : Instant} {caller : Caller}

/-! ## Grading -/

theorem ignoresBank_gradeAnswer (variant : Variant (List VariantQuestion))
    (answer : SavedAnswer Answer) :
    IgnoresBank (gradeAnswer variant now answer) := by
  unfold gradeAnswer
  cases variant.question? answer.questionId with
  | none => exact .pure none
  | some question =>
      exact .bind (.inRange _) fun _ =>
        .bind (.run (ignoresBank_recordScore _ _)) fun _ => .pure _

theorem ignoresBank_gradeAnswers (variant : Variant (List VariantQuestion))
    (answers : List (SavedAnswer Answer)) :
    IgnoresBank (gradeAnswers variant now answers) := by
  induction answers with
  | nil => exact .pure []
  | cons answer rest ih =>
      exact .bind (ignoresBank_gradeAnswer _ _) fun _ =>
        .bind ih fun _ => .pure _

theorem ignoresBank_gradeTransaction (attemptId : String) :
    IgnoresBank (gradeTransaction attemptId now) := by
  apply IgnoresBank.bind (.run (ignoresBank_attempt? _))
  intro found
  cases found with
  | none => exact .pure none
  | some attempt =>
      apply IgnoresBank.ite _ (.pure none)
      apply IgnoresBank.bind (.run (ignoresBank_variant _))
      intro variant
      apply IgnoresBank.bind
      · apply IgnoresBank.bind (.run (ignoresBank_answersOf _))
        exact fun _ =>
          .ite (.pure _) (.run (ignoresBank_insertUnanswered _ _ _))
      · intro _
        apply IgnoresBank.bind _ fun _ => .pure _
        apply IgnoresBank.bind (.run (ignoresBank_answersOf _))
        intro answers
        apply IgnoresBank.bind (ignoresBank_gradeAnswers _ _)
        exact fun _ => .bind (.inRange _) fun _ =>
          .run (ignoresBank_recordScores _ _ _)

theorem ignoresBank_notify (kind : ProgressKind) (attempt : Attempt)
    (variant : Variant (List VariantQuestion)) :
    (notify kind attempt variant).IgnoresBank :=
  .bind (.outcome (.query (ignoresBank_countAnswered _))) fun _ =>
    .reading fun _ => .publish _

theorem ignoresBank_gradeSubmitted (attemptId : String) :
    (gradeSubmitted attemptId).IgnoresBank := by
  apply Action.IgnoresBank.reading
  intro context
  apply Action.IgnoresBank.bind (.commit (ignoresBank_gradeTransaction _))
  intro graded
  cases graded with
  | none => exact .pure none
  | some graded => exact .bind (ignoresBank_notify _ _ _) fun _ => .pure _

theorem ignoresBank_announce (attempt : Attempt) :
    (announce attempt).IgnoresBank := by
  apply Action.IgnoresBank.bind (.outcome (.query (ignoresBank_variant _)))
  intro found
  cases found with
  | error error => exact .pure ()
  | ok variant => exact ignoresBank_notify _ _ _

theorem ignoresBank_complete (attempt : Attempt) :
    (complete attempt).IgnoresBank := by
  apply Action.IgnoresBank.bind (ignoresBank_announce _)
  intro _
  apply Action.IgnoresBank.bind (.outcome (ignoresBank_gradeSubmitted _))
  rintro (error | _ | graded)
  · exact .pure attempt
  · exact .pure attempt
  · exact .pure graded

theorem ignoresBank_finalize (attemptId : String) (submittedAt : Instant) :
    (finalize attemptId submittedAt).IgnoresBank := by
  apply Action.IgnoresBank.reading
  intro context
  apply Action.IgnoresBank.bind (.query (ignoresBank_markSubmitted _ _ _))
  intro submitted
  cases submitted with
  | none => exact .pure none
  | some submitted => exact .map (ignoresBank_complete _)

theorem ignoresBank_managedAssignment (assignmentId : String) :
    IgnoresBank (managedAssignment caller assignmentId) :=
  .bind (.run (ignoresBank_assignment? _)) fun _ => .bind (.demand _ _) fun _ =>
    .bind (.require _ _) fun _ => .pure _

theorem ignoresBank_grade (attemptId : String) :
    (grade caller attemptId).IgnoresBank := by
  apply Action.IgnoresBank.bind (.query (ignoresBank_attempt? _))
  intro found
  apply Action.IgnoresBank.bind (.demand _ _)
  intro attempt
  apply Action.IgnoresBank.bind (.commit (ignoresBank_managedAssignment _))
  intro _
  split
  · exact .refuse _
  · apply Action.IgnoresBank.bind (.mapError (ignoresBank_gradeSubmitted _))
    intro graded
    cases graded with
    | some graded => exact .pure graded
    | none => exact .bind (.query (ignoresBank_attempt? _)) fun _ => .demand _ _
  · exact .pure attempt

theorem ignoresBank_reviewTransaction (attemptId answerId : String)
    (review : Review) :
    IgnoresBank (reviewTransaction caller attemptId answerId review now) := by
  apply IgnoresBank.bind (.run (ignoresBank_attempt? _))
  intro _
  apply IgnoresBank.bind (.demand _ _)
  intro attempt
  apply IgnoresBank.bind (ignoresBank_managedAssignment _)
  intro _
  apply IgnoresBank.bind (.require _ _)
  intro _
  apply IgnoresBank.bind (.run (ignoresBank_answer? _))
  intro _
  apply IgnoresBank.bind (.demand _ _)
  intro answer
  have scores : ∀ outcome, IgnoresBank (do
      let reviewed ← recordManualScore answer.id
        { outcome, feedback := review.feedback, gradedBy := caller.id,
          gradedAt := now }
      let tallies := (← answersOf attempt.id).map fun answer =>
        ({ earned := answer.earnedPoints, most := answer.maxPoints,
           needsManual := answer.needsManual } : Tally)
      let totals ← Transaction.inRange (totals? tallies)
      let regraded ← recordScores attempt.id attempt.status
        (scoreUpdate totals totals.statusAfterManual now)
      pure (reviewed, ← Transaction.demand regraded .changedDuringReview) :
        Transaction AttemptError (SavedAnswer Answer × Attempt)) := by
    intro outcome
    apply IgnoresBank.bind (.run (ignoresBank_recordManualScore _ _))
    intro reviewed
    apply IgnoresBank.bind (.run (ignoresBank_answersOf _))
    intro answers
    apply IgnoresBank.bind (.inRange _)
    intro totals
    apply IgnoresBank.bind (.run (ignoresBank_recordScores _ _ _))
    exact fun _ => .bind (.demand _ _) fun _ => .pure _
  cases manualOutcome answer.maxPoints review.score with
  | ok outcome => exact .bind (.pure outcome) scores
  | error error => exact .bind (.refuse _) scores

theorem ignoresBank_review (answerId : String) (given : Review) :
    (review caller answerId given).IgnoresBank :=
  .bind (.query (ignoresBank_attemptOfAnswer? _)) fun _ =>
    .bind (.demand _ _) fun _ =>
    .reading fun _ => .commit (ignoresBank_reviewTransaction _ _ _)

/-! ## Working -/

theorem ignoresBank_whileOpen {α : Type} {attemptId : String}
    {work : Attempt → Transaction AttemptError α}
    (ignores : ∀ attempt, IgnoresBank (work attempt)) :
    IgnoresBank (whileOpen caller attemptId now work) := by
  apply IgnoresBank.bind (.run (ignoresBank_attempt? _))
  intro _
  apply IgnoresBank.bind (.demand _ _)
  intro attempt
  apply IgnoresBank.bind (.require _ _)
  intro _
  apply IgnoresBank.bind (.require _ _)
  intro _
  apply IgnoresBank.ite
  · exact .bind (.run (ignoresBank_markSubmitted _ _ _)) fun _ => .pure _
  · exact .bind (ignores attempt) fun _ => .pure _

theorem ignoresBank_settleEntry {α : Type} (entry : Entry α) :
    (settleEntry entry).IgnoresBank := by
  cases entry with
  | inTime value => exact .pure value
  | late submitted =>
      cases submitted with
      | none => exact .bind (.pure ()) fun _ => .refuse _
      | some submitted =>
          exact .bind (ignoresBank_complete _) fun _ => .refuse _

theorem ignoresBank_saveOne (attempt : Attempt)
    (variant : Variant (List VariantQuestion)) (input : AnswerInput) :
    IgnoresBank (saveOne attempt variant now input) := by
  apply IgnoresBank.bind (.demand _ _)
  intro question
  apply IgnoresBank.bind (.require _ _)
  intro _
  have saves :
    ∀ value, IgnoresBank (Transaction.run ReportsFaults.ofFault (saveAnswer
      { attemptId := attempt.id, questionId := question.questionId, value,
        maxPoints := question.points
        timeSpentSeconds := input.timeSpentSeconds,
        bookmarked := input.bookmarked, savedAt := now }) :
      Transaction AttemptError (SavedAnswer Answer)) :=
    fun value => .run (ignoresBank_saveAnswer _)
  cases Answer.ofClient? question.payload.type input.value with
  | ok value => exact .bind (.pure value) saves
  | error error => exact .bind (.refuse _) saves

theorem ignoresBank_save (attemptId : String) (input : AnswerInput) :
    (save caller attemptId input).IgnoresBank := by
  apply Action.IgnoresBank.reading
  intro context
  apply Action.IgnoresBank.bind
    (.commit (ignoresBank_whileOpen fun attempt => ?_))
  · intro entry
    exact .bind (ignoresBank_settleEntry _) fun _ =>
      .bind (ignoresBank_notify _ _ _) fun _ => .pure _
  · exact .bind (.run (ignoresBank_variant _)) fun _ =>
      .bind (ignoresBank_saveOne _ _ _) fun _ => .pure _

theorem ignoresBank_saveEach (attempt : Attempt)
    (variant : Variant (List VariantQuestion)) (inputs : List AnswerInput) :
    IgnoresBank (saveEach attempt variant now inputs) := by
  induction inputs with
  | nil => exact .pure _
  | cons input rest ih =>
      exact .bind (.attempt (ignoresBank_saveOne _ _ _)) fun _ =>
        .bind ih fun _ => .pure _

theorem ignoresBank_saveBatch (attemptId : String) (inputs : List AnswerInput) :
    (saveBatch caller attemptId inputs).IgnoresBank := by
  apply Action.IgnoresBank.reading
  intro context
  apply Action.IgnoresBank.bind
    (.commit (ignoresBank_whileOpen fun attempt => ?_))
  · intro entry
    apply Action.IgnoresBank.bind (ignoresBank_settleEntry _)
    intro worked
    exact .ite (.bind (.pure ()) fun _ => .pure _)
      (.bind (ignoresBank_notify _ _ _) fun _ => .pure _)
  · exact .bind (.run (ignoresBank_variant _)) fun _ =>
      .bind (ignoresBank_saveEach _ _ _) fun _ => .pure _

theorem ignoresBank_escalate (counted : Attempt) (assignment : Assignment) :
    IgnoresBank (escalate counted assignment now) := by
  unfold escalate
  dsimp only
  split
  · exact .pure _
  · exact .pure _
  · exact .bind (.run (ignoresBank_flag _ _ _)) fun _ => .pure _
  · exact .bind (.run (ignoresBank_flag _ _ _)) fun _ =>
      .bind (.run (ignoresBank_markSubmitted _ _ _)) fun _ => .pure _

theorem ignoresBank_reportViolation (attemptId : String) :
    (reportViolation caller attemptId).IgnoresBank := by
  apply Action.IgnoresBank.reading
  intro context
  apply Action.IgnoresBank.bind
    (.commit (ignoresBank_whileOpen fun attempt => ?_))
  · intro entry
    apply Action.IgnoresBank.bind (ignoresBank_settleEntry _)
    intro violation
    apply Action.IgnoresBank.bind (.query (ignoresBank_variant _))
    intro variant
    cases violation.submitted with
    | none => exact .bind (ignoresBank_notify _ _ _) fun _ => .pure _
    | some submitted =>
        exact .bind (ignoresBank_notify _ _ _) fun _ =>
          .bind (ignoresBank_complete _) fun _ => .pure _
  · apply IgnoresBank.bind (.run (ignoresBank_assignment _))
    intro assignment
    apply IgnoresBank.bind (.run (ignoresBank_countViolation _ _))
    intro _
    exact .bind (.demand _ _) fun _ => ignoresBank_escalate _ _

theorem ignoresBank_submit (attemptId : String) :
    (submit caller attemptId).IgnoresBank := by
  apply Action.IgnoresBank.bind (.query (ignoresBank_attempt? _))
  intro _
  apply Action.IgnoresBank.bind (.demand _ _)
  intro attempt
  apply Action.IgnoresBank.bind (.require _ _)
  intro _
  apply Action.IgnoresBank.bind (.require _ _)
  intro _
  apply Action.IgnoresBank.reading
  intro context
  exact .bind (ignoresBank_finalize _ _) fun _ => .demand _ _

/-! ## Starting and showing -/

theorem ignoresBank_snapshotOf (attempt : Attempt) :
    (snapshotOf attempt).IgnoresBank :=
  .bind (.query (ignoresBank_variant _)) fun _ =>
    .bind (.query (ignoresBank_answersOf _)) fun _ => .pure _

theorem ignoresBank_deal (assignment : Assignment) (studentId : String)
    (ordinal : Nat) : IgnoresBank (deal assignment studentId ordinal) :=
  .bind (.run (ignoresBank_countVariants _)) fun _ =>
    .bind (.require _ _) fun _ =>
    .bind (.run (ignoresBank_variantAt? _ _)) fun _ => .demand _ _

theorem ignoresBank_openNext (assignment : Assignment) (studentId : String)
    (timedOut : Option Attempt) :
    IgnoresBank (openNext assignment studentId timedOut now) := by
  apply IgnoresBank.bind (.run (ignoresBank_countAttempts _ _))
  intro used
  apply IgnoresBank.ite (.pure _)
  apply IgnoresBank.bind
  · apply IgnoresBank.bind (ignoresBank_deal _ _ _)
    intro variant
    apply IgnoresBank.bind (.inRange _)
    intro maxScore
    apply IgnoresBank.bind (.inRange _)
    intro deadlineAt
    exact .bind (.run (ignoresBank_createAttempt _)) fun _ =>
      .bind (.demand _ _) fun _ => .pure _
  · rintro ⟨attempt, variant⟩
    exact .pure _

theorem ignoresBank_startTransaction (assignment : Assignment)
    (studentId : String) :
    IgnoresBank (startTransaction assignment studentId now) := by
  apply IgnoresBank.bind (.run (ignoresBank_lockSitter _ _))
  intro _
  apply IgnoresBank.bind (.run (ignoresBank_attemptInProgress? _ _))
  intro found
  cases found with
  | none => exact ignoresBank_openNext _ _ _
  | some existing =>
      exact .ite (.bind (.run (ignoresBank_markSubmitted _ _ _)) fun _ =>
          ignoresBank_openNext _ _ _) (.pure _)

theorem ignoresBank_completeTimedOut (timedOut : Option Attempt) :
    (completeTimedOut timedOut).IgnoresBank := by
  cases timedOut with
  | none => exact .pure ()
  | some submitted => exact .bind (ignoresBank_complete _) fun _ => .pure _

theorem ignoresBank_admitted (assignmentId : String)
    (accessCode : Option String) :
    (admitted caller assignmentId accessCode).IgnoresBank :=
  .bind (.query (ignoresBank_assignment? _)) fun _ =>
    .bind (.demand _ _) fun _ => .reading fun _ => .bind (.require _ _) fun _ =>
    .bind (.query (ignoresBank_isOnRoster _ _)) fun _ =>
    .bind (.require _ _) fun _ => .bind (.require _ _) fun _ => .pure _

theorem ignoresBank_start (assignmentId : String) (accessCode : Option String) :
    (start caller assignmentId accessCode).IgnoresBank := by
  apply Action.IgnoresBank.bind (ignoresBank_admitted _ _)
  intro assignment
  apply Action.IgnoresBank.reading
  intro context
  apply Action.IgnoresBank.bind (.commit (ignoresBank_startTransaction _ _))
  intro step
  cases step with
  | resumed attempt => exact .bind (ignoresBank_snapshotOf _) fun _ => .pure _
  | exhausted timedOut =>
      exact .bind (ignoresBank_completeTimedOut _) fun _ => .refuse _
  | started timedOut attempt variant =>
      exact .bind (ignoresBank_completeTimedOut _) fun _ => .reading fun _ =>
        .bind (.publish _) fun _ => .pure _

theorem ignoresBank_view (attemptId : String) :
    (view caller attemptId).IgnoresBank := by
  apply Action.IgnoresBank.bind (.query (ignoresBank_attempt? _))
  intro _
  apply Action.IgnoresBank.bind (.demand _ _)
  intro attempt
  exact .ite (.bind (.commit (ignoresBank_managedAssignment _)) fun _ =>
      ignoresBank_snapshotOf _) (ignoresBank_snapshotOf _)

theorem ignoresBank_status (assignmentId : String) :
    (status caller assignmentId).IgnoresBank :=
  .bind (.query (ignoresBank_assignment? _)) fun _ =>
    .bind (.demand _ _) fun _ =>
    .bind (.query (ignoresBank_isOnRoster _ _)) fun _ =>
    .bind (.require _ _) fun _ =>
    .bind (.query (ignoresBank_countAttempts _ _)) fun _ =>
    .bind (.query (ignoresBank_latestAttempt? _ _)) fun _ => .pure _

theorem ignoresBank_showTest (testId : String) :
    (showTest caller testId).IgnoresBank :=
  .bind (.query (ignoresBank_test? _)) fun _ => .bind (.demand _ _) fun _ =>
    .bind (.require _ _) fun _ =>
    .bind (.query (ignoresBank_variantsOf _)) fun _ => .pure _

/-! ## Assigning -/

theorem ignoresBank_managed (assignmentId : String) :
    (managed caller assignmentId).IgnoresBank :=
  .mapError (.commit (ignoresBank_managedAssignment _))

theorem ignoresBank_withRoster (assignment : Assignment) :
    (withRoster assignment).IgnoresBank :=
  .bind (.commit (.run (ignoresBank_students _))) fun _ => .pure _

theorem ignoresBank_showAssignment (assignmentId : String) :
    (showAssignment caller assignmentId).IgnoresBank :=
  .bind (ignoresBank_managed _) fun _ => ignoresBank_withRoster _

theorem ignoresBank_close (assignmentId : String) :
    (close caller assignmentId).IgnoresBank :=
  .bind (ignoresBank_managed _) fun _ => .reading fun _ =>
    .bind (.commit (.run (ignoresBank_closeAssignment _ _))) fun _ =>
    .bind (.demand _ _) fun _ => ignoresBank_withRoster _

theorem ignoresBank_assign (form : AssignmentForm) :
    (assign caller form).IgnoresBank := by
  apply Action.IgnoresBank.bind (.inRange _)
  intro startsAt
  apply Action.IgnoresBank.bind (.inRange _)
  intro endsAt
  apply Action.IgnoresBank.bind (.require _ _)
  intro _
  apply Action.IgnoresBank.bind (.commit (.run (ignoresBank_test? _)))
  intro _
  apply Action.IgnoresBank.bind (.demand _ _)
  intro test
  apply Action.IgnoresBank.bind (.require _ _)
  intro _
  apply Action.IgnoresBank.reading
  intro context
  apply Action.IgnoresBank.bind (.require _ _)
  intro _
  apply Action.IgnoresBank.bind (.commit _) fun _ => .pure _
  exact .bind (.run (ignoresBank_createAssignment _)) fun _ =>
    .bind (.run (ignoresBank_addStudents _ _)) fun _ => .pure _

theorem ignoresBank_attemptPage (assignmentId : String) (query : AttemptQuery) :
    (attemptPage caller assignmentId query).IgnoresBank :=
  .bind (ignoresBank_managed _) fun _ =>
    .bind (.commit (.run (ignoresBank_listAttempts _ _ _ _))) fun _ =>
      .bind (.commit (.run (ignoresBank_countListed _ _))) fun _ => .pure _

/-! ## Upkeep -/

theorem ignoresBank_sweepEach (attempts : List Attempt) (report : SweepReport) :
    (sweepEach attempts report).IgnoresBank := by
  induction attempts generalizing report with
  | nil => exact .pure report
  | cons attempt rest ih =>
      apply Action.IgnoresBank.bind (.outcome (ignoresBank_finalize _ _))
      rintro (error | _ | closed)
      · exact ih _
      · exact ih _
      · exact ih _

theorem ignoresBank_sweep : sweep.IgnoresBank :=
  .reading fun _ =>
    .bind (.commit (.run (ignoresBank_expiredAttempts _ _))) fun _ =>
    .mapError (ignoresBank_sweepEach _ _)

theorem ignoresBank_recoverEach (attempts : List Attempt) (recovered : Nat) :
    (recoverEach attempts recovered).IgnoresBank := by
  induction attempts generalizing recovered with
  | nil => exact .pure recovered
  | cons attempt rest ih =>
      apply Action.IgnoresBank.bind (.outcome (ignoresBank_gradeSubmitted _))
      rintro (error | _ | graded)
      · exact ih _
      · exact ih _
      · exact ih _

theorem ignoresBank_recoverStalled : recoverStalled.IgnoresBank :=
  .reading fun _ => .bind (.inRange _) fun _ =>
    .bind (.commit (.run (ignoresBank_stalledAttempts _ _))) fun _ =>
    .mapError (ignoresBank_recoverEach _ _)

end Exam

end ExamHall
