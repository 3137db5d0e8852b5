import ExamHall.Proofs.Api.Operations
import ExamHall.Proofs.Session.Refusals

/-!
# The deadline is exact

From the deadline of an attempt on, whatever its student asks for closes the
attempt as of the deadline, once: work is refused as too late, submitting
succeeds, and both leave the same.  Before the deadline nothing is refused as
too late.
-/

namespace ExamHall

open Store

/-! ## Closed attempts -/

/-- A row shows what grading its answer has found. -/
def SavedAnswer.IsMarked (questions : List VariantQuestion)
    (row : SavedAnswer (Stored Answer)) :
    Prop :=
  ∃ question ∈ questions, ∃ answer outcome,
    question.questionId = row.questionId ∧ row.read? = some answer ∧
    Grading.grade? question.payload question.points answer.value =
      some outcome ∧
    row.earnedPoints.toRat = outcome.earned.toRat ∧
    row.isCorrect = outcome.isCorrect ∧
    row.isPartial = outcome.isPartial ∧ row.needsManual = outcome.needsManual

/-- An attempt has been submitted as of a time and scored from the answers that
it has. -/
structure Attempt.IsConcluded (questions : List VariantQuestion)
    (rows : List (SavedAnswer (Stored Answer))) (submittedAt : Instant)
    (before after : Attempt) : Prop where
  kept : Attempt.Kept before after
  submittedAt : after.submittedAt = some submittedAt
  scored : after.status.isScored = true
  violationCount : after.violationCount = before.violationCount
  flagged : after.flagged = before.flagged
  flagReason : after.flagReason = before.flagReason
  sheet : after.HasScoreSheet questions rows
  marked : ∀ row ∈ rows, row.IsMarked questions

/-- An attempt has been submitted as of a time and scored from the answers that
had been saved, and nothing else has been done: no answer has been saved and no
violation counted. -/
structure Concludes (store : Store) (attempt : Attempt) (submittedAt : Instant)
    (after : Store) : Prop where
  touches : Touches attempt.id store after
  savesNothing : store.SavesNothing after
  concluded : ∃ questions, HasVariant store attempt.variantId questions ∧
    ∃ later ∈ after.attempts,
      attempt.IsConcluded questions (rowsOf attempt.id after.answers)
        submittedAt later

variable {now submittedAt : Instant} {store after : Store} {attempt : Attempt}
  {questions : List VariantQuestion}

/-- A graded row of a sheet is marked. -/
theorem RowGraded.isMarked {row graded : SavedAnswer (Stored Answer)}
    (paper : IsPaper questions)
    (fits : totalPoints questions < Column.pointsBound)
    (shown : IsSheetRow questions row)
    (change : RowGraded questions now row graded) :
    graded.IsMarked questions := by
  obtain ⟨-, tally, tallied⟩ := change.tallied paper fits shown
  cases change with
  | passedOver foreign =>
      obtain ⟨question, inside, same, -⟩ := shown.question
      rw [find?_question paper inside same] at foreign
      cases foreign
  | @scored question answer outcome earned most found read graded earnedPoints
      maxPoints =>
      have counted := tallied.found
      rw [tally?_of_graded found read graded] at counted
      obtain rfl := Option.some.inj counted
      obtain ⟨inside, same⟩ := mem_and_key_of_find? found
      obtain ⟨value, rfl⟩ := exists_value_of_read? read
      exact ⟨question, inside, _, outcome, same, read?_congr (by rfl) read,
        graded, tallied.earned.symm, rfl, rfl, rfl⟩

/-- An attempt that has been finished where nothing stood in the way has been
concluded. -/
theorem Finishes.concludes
    (finishes : Finishes now store attempt submittedAt after)
    (closes : Closes now store attempt submittedAt)
    (reliable : store.IsReliable) (orderly : store.IsOrderly now) :
    Concludes store attempt (Column.time submittedAt) after := by
  have reached := finishes.reaches closes
  have reliable' := closes.submitting.reliable reliable
  have here := mem_submitting closes.listed closes.running submittedAt now
  obtain ⟨graded, into⟩ := finishes.gradesInto closes reliable
  obtain ⟨listed, -, -, scored⟩ := into.listed
  obtain ⟨questions, shown, sheet⟩ := (reached.reliable reliable).hasScoreSheet
    (reached.orderly reliable.lawful orderly).1 listed scored
  obtain ⟨asked, dealt, paper, sitting⟩ := reliable'.exists_sitting here
  obtain ⟨added, answers, totals, _, _, _, issued, grades, -, rfl, rfl⟩ := into
  obtain ⟨found, shown', fills, changes, -⟩ := grades.rows
  have ids := reliable.lawful.tests.variantIds
  obtain rfl : questions = found := HasVariant.unique ids shown shown'
  obtain rfl : questions = asked := HasVariant.unique ids shown dealt
  refine ⟨finishes.touches, finishes.savesNothing, questions, shown, _,
    listed, ?_⟩
  exact
    { kept := (Attempt.Kept.submitted _ _ attempt).trans (.scored _ _ _ _ _)
      submittedAt := rfl
      scored
      violationCount := rfl
      flagged := rfl
      flagReason := rfl
      sheet
      marked := by
        intro row inside
        obtain ⟨present, same⟩ := mem_rowsOf.mp inside
        obtain ⟨old, before, change⟩ :=
          exists_mem_left_of_forall₂ changes present
        split at change
        · next here =>
            exact change.isMarked paper sitting.fits
              ((fills.sheet paper sitting.rows).1 old
                (mem_rowsOf.mpr ⟨before, here⟩))
        · next other =>
            subst change
            exact (other same).elim }

namespace Session

/-! ## What a student asks for -/

/-- A request is one of a student about an attempt: the service knows the
student, and the request brings work on the attempt that can be taken, or
submits the attempt. -/
structure ActsOn (session : Session) (studentId attemptId : String)
    (request : HttpRequest) (credential : Credential) (endpoint : Endpoint) :
    Prop where
  called : Server.called? session.settings (session.signed request credential) =
    some endpoint
  known : ∃ caller : Caller, caller.id = studentId ∧
    Access.caller? session.settings session.now
      (session.signed request credential) = some (.ok caller)
  acts : Handle.WorksOn (session.signed request credential) attemptId endpoint ∨
    endpoint = .submitAttempt attemptId

/-- A request is answered as an operation ends, and leaves what that leaves. -/
def AnswersAs {α : Type} (session : Session) (request : HttpRequest)
    (credential : Credential) (operation : Action AttemptError α) : Prop :=
  (session.run (.call request credential)).1.result.status? =
      Action.statusOf (operation session.context ⟨session.store, []⟩).1 ∧
    (session.run (.call request credential)).2.store =
      (operation session.context ⟨session.store, []⟩).2.store

theorem answersAs_of_performs {α : Type} {session : Session}
    {request : HttpRequest} {credential : Credential} {endpoint : Endpoint}
    {operation : Action AttemptError α}
    (called : Server.called? session.settings
      (session.signed request credential) = some endpoint)
    (performs : Handle.Performs session.context
      (session.signed request credential) endpoint operation) :
    session.AnswersAs request credential operation := by
  obtain ⟨result, left⟩ := run_of_called called
  obtain ⟨after, ended⟩ := performs.ends ⟨session.store, []⟩
  refine ⟨?_, left.trans (congrArg World.store after)⟩
  rw [result]
  rcases kind : (operation session.context ⟨session.store, []⟩).1
    with (error | _) | value
  · rw [kind] at ended
    rw [ended]
    exact congrArg some (Server.status_sent _ _ (Refusal.ofAttempt error).reply)
  · rw [kind] at ended
    rw [ended]
    rfl
  · rw [kind] at ended
    obtain ⟨json, same⟩ := ended
    rw [same]
    exact congrArg some (Server.status_sent _ _ (Server.replyOf (.ok json)))

/-- What a student's request about an attempt amounts to: work on it, or
submitting it. -/
inductive ActsAs (session : Session) (studentId attemptId : String)
    (request : HttpRequest) (credential : Credential) : Endpoint → Prop where
  | works {caller : Caller} {endpoint : Endpoint} {α : Type}
      {operation : Action AttemptError α} (student : caller.id = studentId)
      (other : endpoint ≠ .submitAttempt attemptId)
      (isWork : Exam.IsWork caller attemptId operation)
      (answers : session.AnswersAs request credential operation) :
      ActsAs session studentId attemptId request credential endpoint
  | submits {caller : Caller} (student : caller.id = studentId)
      (answers : session.AnswersAs request credential
        (Exam.submit caller attemptId >>= Exam.snapshotOf)) : ActsAs session
      studentId attemptId request credential (.submitAttempt attemptId)

variable {opening session next later : Session} {studentId attemptId : String}
  {request : HttpRequest} {credential : Credential} {endpoint : Endpoint}
  {attempt : Attempt}

theorem ActsOn.actsAs
    (acts : session.ActsOn studentId attemptId request credential endpoint) :
    session.ActsAs studentId attemptId request credential endpoint := by
  obtain ⟨called, ⟨caller, student, known⟩, works | rfl⟩ := acts
  · obtain ⟨_, operation, isWork, performs⟩ :=
      works.performs session.context known
    have other : endpoint ≠ .submitAttempt attemptId := by
      rintro rfl
      cases works with
      | saves brings => cases brings
    exact .works student other isWork (answersAs_of_performs called performs)
  · exact .submits student (answersAs_of_performs called
      (Handle.submitAttempt_performs session.context known))

/-- Whatever a student asks for on an attempt that is not in progress is
answered with 409. -/
theorem ActsOn.closed
    (acts : session.ActsOn studentId attemptId request credential endpoint)
    (reliable : session.store.IsReliable)
    (listed : attempt ∈ session.store.attempts) (same : attempt.id = attemptId)
    (student : attempt.studentId = studentId)
    (left : attempt.status ≠ .inProgress) :
    (session.run (.call request credential)).1.result.status? = some 409 := by
  cases acts.actsAs with
  | works caller _ isWork answers =>
      have own := student.trans caller.symm
      rw [answers.1,
        isWork.closed session.context reliable listed same own left]
      rfl
  | submits caller answers =>
      have own := student.trans caller.symm
      rw [answers.1,
        Exam.submit_closed session.context reliable listed same own left]
      rfl

/-! ## Before and after the deadline -/

theorem concludes_closing {submittedAt : Instant}
    (reliable : session.store.IsReliable)
    (orderly : session.store.IsOrderly session.now)
    (closes : Closes session.now session.store attempt submittedAt) :
    Concludes session.store attempt (Column.time submittedAt)
      (Exam.closing session.context session.store attempt submittedAt) := by
  obtain ⟨_, _, -, -, finishes⟩ :=
    Exam.exists_completed session.context reliable closes
  exact finishes.concludes closes reliable orderly

/-- From the deadline on, whatever a student asks for on an own attempt leaves
the same. -/
theorem ActsOn.late
    (acts : session.ActsOn studentId attemptId request credential endpoint)
    (reliable : session.store.IsReliable)
    (own : IsOwn session.store studentId attemptId attempt)
    (passed : attempt.deadlineAt ≤ session.now) :
    (session.run (.call request credential)).1.result.status? =
      some (if endpoint = .submitAttempt attemptId then 200 else 410) ∧
    (session.run (.call request credential)).2.store =
      Exam.closing session.context session.store attempt
        attempt.deadlineAt := by
  cases acts.actsAs with
  | works caller other isWork answers =>
      subst caller
      obtain ⟨refused, left⟩ := isWork.late session.context reliable own passed
      rw [answers.1, answers.2, refused, if_neg other]
      exact ⟨rfl, left⟩
  | submits caller answers =>
      subst caller
      obtain ⟨⟨snapshot, shown⟩, left⟩ :=
        Exam.submit_ends session.context reliable own
      have time : attempt.closingTime session.now = attempt.deadlineAt :=
        if_pos (isExpired_eq_true.mpr passed)
      rw [answers.1, answers.2, shown, if_pos rfl, left]
      exact ⟨rfl, congrArg _ time⟩

/-- Before the deadline nothing is refused as too late, and submitting
succeeds. -/
theorem ActsOn.inTime
    (acts : session.ActsOn studentId attemptId request credential endpoint)
    (reliable : session.store.IsReliable)
    (own : IsOwn session.store studentId attemptId attempt)
    (inTime : session.now < attempt.deadlineAt) :
    (session.run (.call request credential)).1.result.status? ≠ some 410 ∧
    (endpoint = .submitAttempt attemptId →
      (session.run (.call request credential)).1.result.status? = some 200 ∧
      (session.run (.call request credential)).2.store =
        Exam.closing session.context session.store attempt session.now) := by
  cases acts.actsAs with
  | works caller other isWork answers =>
      subst caller
      refine ⟨?_, fun same => absurd same other⟩
      rw [answers.1]
      exact statusOf_ne_gone (isWork.inTime session.context reliable own inTime)
  | submits caller answers =>
      subst caller
      obtain ⟨⟨snapshot, shown⟩, left⟩ :=
        Exam.submit_ends session.context reliable own
      have time : attempt.closingTime session.now = session.now :=
        if_neg fun passed => Int.not_le.mpr inTime (isExpired_eq_true.mp passed)
      rw [answers.1, answers.2, shown, left]
      exact ⟨by simp [Action.statusOf], fun _ => ⟨rfl, congrArg _ time⟩⟩

/-- An attempt that has been concluded stays closed to its student. -/
theorem closed_of_concludes {closedAt : Instant} {failing : Bool}
    (concludes : Concludes session.store attempt closedAt next.store)
    (own : IsOwn session.store studentId attemptId attempt)
    (sound : next.IsSound) (run : Serves failing next later)
    (reliable : later.store.IsReliable)
    (acts : later.ActsOn studentId attemptId request credential endpoint) :
    (later.run (.call request credential)).1.result.status? = some 409 := by
  obtain ⟨questions, -, closed, present, concluded⟩ := concludes.concluded
  obtain ⟨last, listed, evolves⟩ := (Serves.sound run sound).2.2 closed present
  have kept := concluded.kept.trans evolves.kept
  refine acts.closed reliable listed (kept.id.trans own.id)
    (kept.studentId.trans own.student) ?_
  intro running
  have path := evolves.status
  rw [running] at path
  exact AttemptStatus.ne_inProgress_of_isScored concluded.scored
    (AttemptStatus.eq_inProgress_of_moves path)

/-- In every state that a service has reached, the deadline of an attempt in
progress is exact.  From the deadline on, the student's work is answered with
410, submitting is answered with success, and each of them closes the attempt as
of the deadline and leaves the same.  Before the deadline nothing is answered
with 410, and submitting closes the attempt as of now, as the column tells the
time.  A closed attempt stays closed: whatever the student asks for is answered
with
409. -/
theorem deadline_is_exact (lawful : opening.store.Lawful)
    (unused : opening.store.attempts = [])
    (papers : ∀ variant ∈ opening.store.variants, ∃ questions,
      variant.questions.value? = some questions ∧ IsPaper questions)
    (run : Serves true opening session) (reach : session.store.outages = [])
    (own : IsOwn session.store studentId attemptId attempt) :
    (attempt.deadlineAt ≤ session.now →
      ∃ closed, Concludes session.store attempt attempt.deadlineAt closed ∧
        ∀ request credential endpoint,
          session.ActsOn studentId attemptId request credential endpoint →
          let answered := session.run (.call request credential)
          answered.1.result.status? =
              some (if endpoint = .submitAttempt attemptId then 200 else 410) ∧
            answered.2.store = closed) ∧
      (session.now < attempt.deadlineAt → ∀ request credential endpoint,
        session.ActsOn studentId attemptId request credential endpoint →
        let answered := session.run (.call request credential)
        answered.1.result.status? ≠ some 410 ∧
          (endpoint = .submitAttempt attemptId →
            answered.1.result.status? = some 200 ∧ Concludes session.store
              attempt (Column.time session.now) answered.2.store)) ∧
      ∀ request credential endpoint,
        session.ActsOn studentId attemptId request credential endpoint →
        attempt.deadlineAt ≤ session.now ∨ endpoint = .submitAttempt attemptId →
        ∀ later, Serves true (session.run (.call request credential)).2 later →
          later.store.outages = [] → ∀ request credential endpoint,
            later.ActsOn studentId attemptId request credential endpoint →
            (later.run (.call request credential)).1.result.status? =
              some 409 := by
  have begins := isSound_of_no_attempts lawful unused
  have sound := (Serves.sound run begins).1
  have reliable := Serves.reliable run lawful unused papers reach
  have due := (sound.orderly.regular attempt own.listed).due
  have late : attempt.deadlineAt ≤ session.now →
      Concludes session.store attempt attempt.deadlineAt (Exam.closing
        session.context session.store attempt attempt.deadlineAt) := by
    intro passed
    have concludes := concludes_closing reliable sound.orderly
      ⟨own.listed, own.running, .inl ⟨rfl, .inl passed⟩⟩
    rwa [due] at concludes
  have inTime : session.now < attempt.deadlineAt →
    Concludes session.store attempt (Column.time session.now)
      (Exam.closing session.context session.store attempt session.now) :=
    fun left => concludes_closing reliable sound.orderly ⟨own.listed,
      own.running, .inr ⟨rfl, left⟩⟩
  refine ⟨fun passed => ⟨_, late passed,
    fun _ _ _ acts => acts.late reliable own passed⟩,
    fun left request credential endpoint acts => ?_, ?_⟩
  · obtain ⟨status, submits⟩ := acts.inTime reliable own left
    refine ⟨status, fun same => ?_⟩
    obtain ⟨succeeds, after⟩ := submits same
    exact ⟨succeeds, after ▸ inTime left⟩
  · intro request credential endpoint acts closing later run' reach' request'
      credential' endpoint' acts'
    have follows :
        Serves true opening (session.run (.call request credential)).2 :=
      .tail run ⟨.call request credential, trivial, rfl⟩
    have sound' := (Serves.sound follows begins).1
    have reliable' :=
      Serves.reliable (follows.trans run') lawful unused papers reach'
    by_cases passed : attempt.deadlineAt ≤ session.now
    · have after := (acts.late reliable own passed).2
      exact closed_of_concludes (after ▸ late passed) own sound' run'
        reliable' acts'
    · have left : session.now < attempt.deadlineAt := Int.not_le.mp passed
      have after :=
        ((acts.inTime reliable own left).2 (closing.resolve_left passed)).2
      exact closed_of_concludes (after ▸ inTime left) own sound' run'
        reliable' acts'

/-! ## Between two microseconds -/

/-- The first instant after the start. -/
def justStarted : Instant := ⟨Column.origin.nanos + 1⟩

/-- The request of the student to submit the test. -/
def submitRequest : HttpRequest :=
  ⟨.post, "/attempts/attempt-1/submit", "", [], ""⟩

/-- The student has started the test, and an instant later asks to submit it. -/
structure IsSubmitting (session : Session) (attempt : Attempt) : Prop where
  serves : ∀ failing, Serves failing (withOneStudent Column.origin) session
  reach : session.store.outages = []
  own : IsOwn session.store "s" "attempt-1" attempt
  now : session.now = justStarted
  inTime : session.now < attempt.deadlineAt
  acts : session.ActsOn "s" "attempt-1" submitRequest (.token "s" .student 60)
    (.submitAttempt "attempt-1")

/-- What the tables hold once the student has started the test. -/
theorem store_startsTest :
    ((withOneStudent Column.origin).run startsTest).2.store =
      (Exam.start ⟨"s", .student⟩ "a" none
        (withOneStudent Column.origin).context
        ⟨(withOneStudent Column.origin).store, []⟩).2.store := by
  let request : HttpRequest := ⟨.post, "/assignments/a/start", "", [], ""⟩
  have called : Server.called? (withOneStudent Column.origin).settings
      ((withOneStudent Column.origin).signed request student) =
      some (.startAttempt "a") := by
    rw [called?_signed]
    decide +kernel
  have noCode : Handle.accessCode
      ((withOneStudent Column.origin).signed request student) = none := by
    decide +kernel
  have starts := (answersAs_of_performs called (Handle.startAttempt_performs
    (withOneStudent Column.origin).context (student_known request rfl rfl))).2
  rw [noCode] at starts
  rw [show startsTest = .call request student from rfl, starts]

theorem withOneStudent_starts :
    (((withOneStudent Column.origin).run startsTest).2.store.attempts.any
      fun attempt =>
        decide (attempt.id = "attempt-1" ∧ attempt.studentId = "s" ∧
          attempt.status = .inProgress ∧ justStarted < attempt.deadlineAt)) =
      true := by
  rw [store_startsTest]
  decide +kernel

theorem exists_isSubmitting :
    ∃ session attempt, IsSubmitting session attempt := by
  obtain ⟨session, serves, settings, now, store⟩ := exists_serves_until
    (withOneStudent Column.origin) ⟨.post, "/assignments/a/start", "", [], ""⟩
    (.token "s" .student 60) (show Column.origin ≤ justStarted by decide)
  obtain ⟨attempt, listed, started⟩ := List.any_eq_true.mp withOneStudent_starts
  obtain ⟨id, student, running, inTime⟩ := of_decide_eq_true started
  have reach := (Serves.current (serves false)
    (isSound_of_no_attempts (withOneStudent_lawful _) rfl)
    (isCurrent_of_no_attempts (withOneStudent_lawful _) rfl rfl
      (withOneStudent_papers _))).reliable.reach
  have signed : session.signed submitRequest (.token "s" .student 60) =
      (withOneStudent justStarted).signed submitRequest
        (.token "s" .student 60) :=
    @signed_congr session (withOneStudent justStarted) settings now _ _
  have called :
      Server.called? (withOneStudent justStarted).settings submitRequest =
        some (.submitAttempt "attempt-1") := by
    decide +kernel
  have known : Access.caller? (withOneStudent justStarted).settings justStarted
      ((withOneStudent justStarted).signed submitRequest
        (.token "s" .student 60)) = some (.ok ⟨"s", .student⟩) := by
    refine caller?_token submitRequest ⟨true, true, false⟩ 946684740
      rfl ?_ rfl ?_ ?_
    · decide +kernel
    · decide +kernel
    · decide +kernel
  refine ⟨session, attempt, serves, reach, ⟨?_, id, student, running⟩, now,
    now ▸ inTime, ?_, ⟨⟨"s", .student⟩, rfl, ?_⟩, .inr rfl⟩
  · rw [store]
    exact listed
  · rw [signed, settings]
    exact called
  · rw [signed, settings, now]
    exact known

/-- What is submitted between two microseconds is not submitted just now. -/
theorem submit_falls_short_of_the_clock :
    ¬∀ (opening session : Session) (studentId attemptId : String)
      (attempt : Attempt) (request : HttpRequest) (credential : Credential),
      opening.store.Lawful → opening.store.attempts = [] →
      (∀ variant ∈ opening.store.variants, ∃ questions,
        variant.questions.value? = some questions ∧ IsPaper questions) →
      Serves true opening session → session.store.outages = [] →
      IsOwn session.store studentId attemptId attempt →
      session.now < attempt.deadlineAt →
      session.ActsOn studentId attemptId request credential
        (.submitAttempt attemptId) →
      ∃ later ∈ (session.run (.call request credential)).2.store.attempts,
        later.id = attemptId ∧ later.submittedAt = some session.now := by
  intro claimed
  obtain ⟨session, attempt, submitting⟩ := exists_isSubmitting
  obtain ⟨serves, reach, own, now, inTime, acts⟩ := submitting
  have begins :=
    isSound_of_no_attempts (withOneStudent_lawful Column.origin) rfl
  have orderly := (Serves.sound (serves true) begins).1.orderly
  have reliable := Serves.reliable (serves true) (withOneStudent_lawful _) rfl
    (withOneStudent_papers _) reach
  obtain ⟨questions, -, closed, present, concluded⟩ :=
    (concludes_closing reliable orderly ⟨own.listed, own.running,
      .inr ⟨rfl, inTime⟩⟩).concluded
  rw [← ((acts.inTime reliable own inTime).2 rfl).2] at present
  obtain ⟨later, listed, same, justNow⟩ := claimed _ session "s" "attempt-1"
    attempt submitRequest (.token "s" .student 60) (withOneStudent_lawful _)
    rfl (withOneStudent_papers _) (serves true) reach own inTime acts
  have follows : Serves true (withOneStudent Column.origin)
      (session.run (.call submitRequest (.token "s" .student 60))).2 :=
    .tail (serves true) ⟨.call submitRequest (.token "s" .student 60),
      trivial, rfl⟩
  have ids := (Serves.sound follows begins).1.lawful.sittings.ids
  obtain rfl := eq_of_key ids listed present
    (same.trans (concluded.kept.id.trans own.id).symm)
  have truncated : session.now = Column.time session.now :=
    Option.some.inj (justNow.symm.trans concluded.submittedAt)
  rw [now] at truncated
  exact absurd truncated (by decide)

/-- The student who submits in time submits as of the last microsecond. -/
theorem withOneStudent_deadline_is_exact :
    ∃ session attempt, (withOneStudent Column.origin).store.Lawful ∧
      (withOneStudent Column.origin).store.attempts = [] ∧
      Serves true (withOneStudent Column.origin) session ∧
      session.store.outages = [] ∧ IsOwn session.store "s" "attempt-1" attempt ∧
      session.now < attempt.deadlineAt ∧
      session.ActsOn "s" "attempt-1" submitRequest (.token "s" .student 60)
        (.submitAttempt "attempt-1") ∧
      Concludes session.store attempt Column.origin (session.run
        (.call submitRequest (.token "s" .student 60))).2.store := by
  obtain ⟨session, attempt, submitting⟩ := exists_isSubmitting
  obtain ⟨serves, reach, own, now, inTime, acts⟩ := submitting
  have exact := deadline_is_exact (withOneStudent_lawful _)
    rfl (withOneStudent_papers _) (serves true) reach own
  have concludes := ((exact.2.1 inTime _ _ _ acts).2 rfl).2
  rw [now] at concludes
  exact ⟨session, attempt, withOneStudent_lawful _, rfl, serves true, reach,
    own, inTime, acts, concludes⟩

end Session

end ExamHall
