import ExamHall.Proofs.Session.Reports
import ExamHall.Proofs.Session.Sweeping

/-!
# Violations over a whole run

The marks of an attempt tell how many of its violations have been counted, and
what the policy of its assignment makes of that number.
-/

namespace ExamHall

open Store

namespace Session

variable {failing : Bool} {opening session : Session} {request : HttpRequest}
  {credential : Credential} {attemptId : String} {history : List String}

/-- A step keeps the policies of all assignments. -/
theorem Follows.keepsPolicies {next : Session}
    (follows : Follows failing session next) (sound : session.IsSound) :
    session.store.KeepsPolicies next.store := by
  have stays : ∀ {store : Store},
      store.assignments = session.store.assignments →
      session.store.KeepsPolicies store :=
    fun same assignment listed => ⟨assignment, same ▸ listed, rfl, rfl, rfl⟩
  rcases follows.cases sound.lawful sound.orderly with
    ⟨-, _, settled⟩ | ⟨-, same⟩ | ⟨-, -, outages, same⟩
  · exact Reaches.keepsPolicies settled.reached
  · exact stays (congrArg Store.assignments same)
  · exact stays (same ▸ rfl)

/-- The marks of all attempts are those that the log of counted violations
leaves on them. -/
theorem Logs.followsPolicies
    (logs : Logs counted failing opening history session)
    (lawful : opening.store.Lawful) (unused : opening.store.attempts = []) :
    session.store.FollowsPolicies history := by
  have begins := isSound_of_no_attempts lawful unused
  induction logs with
  | refl => exact .of_no_attempts unused
  | @tail history session step early service ih =>
      have sound := (Serves.sound early.serves begins).1
      have follows : Follows failing session (session.run step).2 :=
        ⟨step, service, rfl⟩
      have lawful' := (follows.sound sound).1.lawful
      have policies := follows.keepsPolicies sound
      rcases run_marks sound service with
        ⟨none, keeps⟩ |
          ⟨attempt, assignment, result, one, listed, running, given, same, into⟩
      · rw [none, List.append_nil]
        exact ih.keepsMarks keeps policies lawful'
      · rw [one]
        exact (ih.reporting sound.lawful listed running given same).keepsMarks
          into.keepsMarks policies lawful'

/-- In every state that a service has reached, each report comes to what the
policies say. -/
theorem Logs.isReported (logs : Logs counted failing opening history session)
    (lawful : opening.store.Lawful) (unused : opening.store.attempts = [])
    (papers : ∀ variant ∈ opening.store.variants, ∃ questions,
      variant.questions.value? = some questions ∧ IsPaper questions)
    (called : Server.called? session.settings
      (session.signed request credential) = some (.reportViolation attemptId)) :
    session.IsReported attemptId request credential := by
  have sound :=
    (Serves.sound logs.serves (isSound_of_no_attempts lawful unused)).1
  have follows := logs.followsPolicies lawful unused
  rcases session.counted_cases (.call request credential) with
    none |
      ⟨_, _, caller, reportedId, violation, after, same, reports, one, counted⟩
  · exact .uncounted none (not_isSuccess_of_uncounted sound.lawful called none)
      (call_keepsMarks sound.lawful none)
  cases same
  obtain rfl : attemptId = reportedId := by
    cases called.symm.trans reports.called
    rfl
  have next :
      Follows failing session (session.run (.call request credential)).2 :=
    ⟨.call request credential, trivial, rfl⟩
  have lawful' := (next.sound sound).1.lawful
  obtain ⟨attempt, assignment, own, inTime, given, same, reached, into⟩ :=
    reports.reportsInto sound.lawful counted
  obtain ⟨other, given', same', marks⟩ := follows.follows attempt own.listed
  obtain rfl :=
    eq_of_key sound.lawful.assignments.ids given given' (same.trans same'.symm)
  have reliable := Serves.reliable logs.serves lawful unused papers
  obtain ⟨later, escalates⟩ := escalates_of_reportsInto into own.listed
    own.running marks lawful' fun reach => reached.reliable (reliable reach)
  have result := reports.run.1
  refine .counted one own.listed own.id own.running inTime given same escalates
    (fun reach => ?_) fun success => ?_
  · obtain ⟨outcome, ended⟩ := into.succeeds (reliable reach)
    rw [ended] at result
    rw [result]
    exact Server.shows_isSuccess _ _ _
  · rcases ended : (Exam.reportViolation caller attemptId session.context
        ⟨session.store, []⟩).1 with halt | outcome
    · rw [ended] at result
      rw [result] at success
      exact (not_isSuccess_of_halt _ _ (isExplained_ofAttempt halt)
          success).elim
    · obtain ⟨present, sameId⟩ := into.shows outcome ended
      obtain rfl := eq_of_key lawful'.sittings.ids present escalates.listed
        (sameId.trans escalates.id.symm)
      rw [ended] at result
      exact ⟨_, result, rfl⟩

/-- The attempt for which a step has a report of a violation answered with
success, if it does. -/
def answered (session : Session) (step : Step) : List String :=
  match step with
  | .call request credential =>
    match Server.called? session.settings (session.signed request credential)
        with
    | some (.reportViolation attemptId) =>
      if (session.run step).1.result.status? = some 200 then [attemptId] else []
    | _ => []
  | _ => []

theorem answered_of_called
    (called : Server.called? session.settings
      (session.signed request credential) = some (.reportViolation attemptId)) :
    session.answered (.call request credential) =
      if (session.run (.call request credential)).1.result.status? = some 200
    then [attemptId] else [] := by
  unfold answered
  dsimp only
  rw [called]

/-- Where all tables are within reach, a report is answered with success if it
is counted. -/
theorem IsReported.answered_eq_counted
    (reported : session.IsReported attemptId request credential)
    (called : Server.called? session.settings
      (session.signed request credential) = some (.reportViolation attemptId))
    (reach : session.store.outages = []) :
    session.answered (.call request credential) =
      session.counted (.call request credential) := by
  rw [answered_of_called called]
  cases reported with
  | uncounted none unsuccessful =>
      rw [none]
      exact if_neg fun status =>
        unsuccessful ⟨200, status, Nat.le_refl _, by decide⟩
  | counted one _ _ _ _ _ _ _ succeeds answered =>
      obtain ⟨members, result, -⟩ := answered (succeeds reach)
      rw [one, result]
      exact if_pos (congrArg some
          (Server.status_sent _ _ (Server.replyOf (.ok (.record members)))))

theorem Logs.answered_eq_counted
    (logs : Logs counted failing opening history session)
    (lawful : opening.store.Lawful) (unused : opening.store.attempts = [])
    (papers : ∀ variant ∈ opening.store.variants, ∃ questions,
      variant.questions.value? = some questions ∧ IsPaper questions)
    (reach : session.store.outages = []) (step : Step) :
    session.answered step = session.counted step := by
  cases step with
  | call request credential =>
      rcases called : Server.called? session.settings
        (session.signed request credential) with _ | endpoint
      · unfold answered counted
        dsimp only
        rw [called]
      by_cases reports : ∃ attemptId, endpoint = .reportViolation attemptId
      · obtain ⟨attemptId, rfl⟩ := reports
        exact (logs.isReported lawful unused papers called).answered_eq_counted
          called reach
      · unfold answered counted
        dsimp only
        rw [called]
        cases endpoint <;> first | rfl | exact (reports ⟨_, rfl⟩).elim
  | _ => rfl

/-- In every state that a service has reached, the marks of each attempt are
those that its counted violations leave on it under the policy of its
assignment, and each report comes to what that policy says.  Where all tables
are within reach, the violations that are counted are those whose reports are
answered with success. -/
theorem violations_follow_policy (lawful : opening.store.Lawful)
    (unused : opening.store.attempts = [])
    (papers : ∀ variant ∈ opening.store.variants, ∃ questions,
      variant.questions.value? = some questions ∧ IsPaper questions)
    (logs : Logs counted true opening history session) :
    (∀ attempt ∈ session.store.attempts,
      ∃ assignment ∈ session.store.assignments,
        assignment.id = attempt.assignmentId ∧
        attempt.FollowsPolicy assignment (history.count attempt.id)) ∧
    (∀ attemptId request credential, Server.called? session.settings
      (session.signed request credential) = some (.reportViolation attemptId) →
      session.IsReported attemptId request credential) ∧
    (session.store.outages = [] →
      ∀ step, session.answered step = session.counted step) :=
  ⟨(logs.followsPolicies lawful unused).follows,
    fun _ _ _ => logs.isReported lawful unused papers,
    logs.answered_eq_counted lawful unused papers⟩

/-! ## A strict test -/

/-- The small service, whose test is submitted as soon as its student leaves the
window. -/
def withStrictTest (now : Instant) : Session :=
  { withOneStudent now with
    store :=
      { (withOneStudent now).store with
        assignments :=
          (withOneStudent now).store.assignments.map fun assignment =>
          { assignment with tabSwitchAction := .autoSubmit } } }

theorem withStrictTest_lawful (now : Instant) :
    (withStrictTest now).store.Lawful := by
  obtain ⟨bank, tests, assignments, -⟩ := withOneStudent_lawful now
  refine ⟨bank, tests, ?_, lawfulSittings_nil _ _⟩
  exact
    { ids := List.nodup_singleton _
      keys := List.forall_mem_map.mpr assignments.keys
      tests := List.forall_mem_map.mpr assignments.tests
      duration := List.forall_mem_map.mpr assignments.duration
      maxAttempts := List.forall_mem_map.mpr assignments.maxAttempts
      students := assignments.students
      enrolled := assignments.enrolled }

/-- The request of the student to report that the window has been left. -/
def reportingRequest : HttpRequest :=
  ⟨.post, "/attempts/attempt-1/violations", "", [], ""⟩

theorem student_known_justStarted (request : HttpRequest) :
    Access.caller? (withStrictTest justStarted).settings justStarted
      ((withStrictTest justStarted).signed request student) =
      some (.ok ⟨"s", .student⟩) := by
  refine caller?_token request ⟨true, true, false⟩ 946684740 ?_ ?_ rfl ?_ ?_
  · rfl
  · decide +kernel
  · decide +kernel
  · decide +kernel

/-- The strict service once its student has started the test, with tables that
are out of reach. -/
def strictlyStarted (outages : List Table) : Session :=
  { withStrictTest justStarted with
    store :=
      { (Exam.start ⟨"s", .student⟩ "a" none (withStrictTest
          justStarted).context ⟨(withStrictTest justStarted).store, []⟩).2.store
          with outages } }

theorem strictlyStarted_called :
    Server.called? (withStrictTest justStarted).settings
      ((withStrictTest justStarted).signed startingRequest student) =
      some (.startAttempt "a") := by
  rw [called?_signed]
  decide +kernel

theorem strictlyStarted_serves (outages : List Table) :
    ((((withStrictTest justStarted).run startsTest).2).run
      (.loseTables outages)).2 = strictlyStarted outages := by
  have noCode : Handle.accessCode
      ((withStrictTest justStarted).signed startingRequest student) = none := by
    decide +kernel
  have starts := (answersAs_of_performs strictlyStarted_called
    (Handle.startAttempt_performs (withStrictTest justStarted).context
      (student_known_justStarted startingRequest))).2
  rw [noCode] at starts
  rw [show startsTest = .call startingRequest student from rfl,
    run_call_session, starts]
  rfl

/-- A log in which the start of the test does not appear is empty until the
student reports that the window has been left. -/
theorem strictlyStarted_logs {log : Session → Step → List String}
    (outages : List Table)
    (starts : log (withStrictTest justStarted) startsTest = [])
    (loses : ∀ session, log session (.loseTables outages) = []) :
    Logs log true (withStrictTest justStarted) []
      (strictlyStarted outages) := by
  have started : Logs log true (withStrictTest justStarted)
    ([] ++ log _ startsTest) ((withStrictTest justStarted).run startsTest).2 :=
    .tail .refl trivial
  have logs : Logs log true (withStrictTest justStarted)
    (([] ++ log _ startsTest) ++ log _ (.loseTables outages))
    (((withStrictTest justStarted).run startsTest).2.run
      (.loseTables outages)).2 := .tail started rfl
  rwa [starts, loses, strictlyStarted_serves] at logs

theorem strictlyStarted_reportsOn (outages : List Table) :
    (strictlyStarted outages).ReportsOn ⟨"s", .student⟩ "attempt-1"
      reportingRequest student := by
  have called :
    Server.called? (withStrictTest justStarted).settings reportingRequest =
      some (.reportViolation "attempt-1") := by decide +kernel
  refine ⟨?_, student_known_justStarted reportingRequest⟩
  rw [called?_signed]
  exact called

/-- The test has been started, and leaving the window then submits it, but while
the variants are out of reach it is not graded, and the report of it fails. -/
theorem strictlyStarted_submits :
    (strictlyStarted [.variants]).store.attempts.map
      (fun attempt => (attempt.id, attempt.status)) =
      [("attempt-1", .inProgress)] ∧
    (Exam.reportViolation ⟨"s", .student⟩ "attempt-1"
      (strictlyStarted [.variants]).context
      ⟨(strictlyStarted [.variants]).store, []⟩).1.toOption.isNone = true ∧
    (Exam.reportViolation ⟨"s", .student⟩ "attempt-1"
      (strictlyStarted [.variants]).context
      ⟨(strictlyStarted [.variants]).store,
        []⟩).2.store.attempts.map (fun attempt => (attempt.id,
          attempt.violationCount, attempt.status, attempt.submittedAt)) =
      [("attempt-1", 1, .submitted, some Column.origin)] := by
  decide +kernel

/-- A report closes an attempt. -/
structure ClosesByReport (session : Session) (request : HttpRequest)
    (credential : Credential) (later : Attempt) : Prop where
  reports : ∃ caller, session.ReportsOn caller later.id request credential
  running : ∃ attempt ∈ session.store.attempts, attempt.id = later.id ∧
    attempt.status = .inProgress
  listed : later ∈ (session.run (.call request credential)).2.store.attempts
  left : later.status ≠ .inProgress

theorem exists_closesByReport :
    ∃ later, (strictlyStarted [.variants]).ClosesByReport
        reportingRequest student later ∧
      later.violationCount = 1 ∧ later.status.isScored = false ∧
      later.submittedAt = some Column.origin := by
  have reports := strictlyStarted_reportsOn [.variants]
  obtain ⟨started, -, submitted⟩ := strictlyStarted_submits
  rw [← reports.run.2] at submitted
  obtain ⟨attempt, running, begun⟩ := List.map_eq_singleton_iff.mp started
  obtain ⟨later, closed, row⟩ := List.map_eq_singleton_iff.mp submitted
  simp only [Prod.mk.injEq] at begun row
  obtain ⟨id, counted, status, time⟩ := row
  refine ⟨later, ⟨⟨_, id.symm ▸ reports⟩,
    ⟨attempt, ?_, begun.1.trans id.symm, begun.2⟩, ?_, ?_⟩, counted, ?_, time⟩
  · rw [running]
    exact List.mem_singleton_self _
  · rw [closed]
    exact List.mem_singleton_self _
  · rw [status]
    nofun
  · rw [status]
    rfl

/-- The report that closes the attempt is not answered with success. -/
theorem strictlyStarted_answers :
    (strictlyStarted [.variants]).answered (.call reportingRequest student) =
      [] := by
  have reports := strictlyStarted_reportsOn [.variants]
  have result := reports.run.1
  rcases failed : (Exam.reportViolation ⟨"s", .student⟩ "attempt-1"
      (strictlyStarted [.variants]).context
      ⟨(strictlyStarted [.variants]).store, []⟩).1 with halt | outcome
  · rw [failed] at result
    rw [answered_of_called reports.called, result]
    exact if_neg fun status => not_isSuccess_of_halt _ _
      (isExplained_ofAttempt halt) ⟨200, status, Nat.le_refl _, by decide⟩
  · have none := strictlyStarted_submits.2.1
    rw [failed] at none
    cases none

/-- A violation is counted even if the report of it fails after that, and what
the report submits is not graded while the variants are out of reach.  It is
submitted as of the time that the column keeps, which may differ from now. -/
theorem failed_report_is_counted :
    (¬∀ (opening session : Session) (history : List String) (attempt : Attempt),
      opening.store.Lawful → opening.store.attempts = [] →
      (∀ variant ∈ opening.store.variants, ∃ questions,
        variant.questions.value? = some questions ∧ IsPaper questions) →
      Logs answered true opening history session →
      attempt ∈ session.store.attempts →
      attempt.violationCount = history.count attempt.id) ∧
    (¬∀ (opening session : Session)
      (request : HttpRequest) (credential : Credential) (later : Attempt),
      opening.store.Lawful → opening.store.attempts = [] →
      (∀ variant ∈ opening.store.variants, ∃ questions,
        variant.questions.value? = some questions ∧ IsPaper questions) →
      Serves true opening session →
      session.ClosesByReport request credential later →
      later.status.isScored = true) ∧ ¬∀ (opening session : Session)
      (request : HttpRequest) (credential : Credential) (later : Attempt),
      opening.store.Lawful → opening.store.attempts = [] →
      (∀ variant ∈ opening.store.variants, ∃ questions,
        variant.questions.value? = some questions ∧ IsPaper questions) →
      Serves true opening session →
      session.ClosesByReport request credential later →
      later.submittedAt = some session.now := by
  have papers : ∀ variant ∈ (withStrictTest justStarted).store.variants,
    ∃ questions, variant.questions.value? = some questions ∧
      IsPaper questions := withOneStudent_papers justStarted
  have starts : answered (withStrictTest justStarted) startsTest = [] := by
    rw [show startsTest = .call startingRequest student from rfl]
    unfold answered
    dsimp only
    rw [strictlyStarted_called]
  have logs := strictlyStarted_logs [.variants] starts fun _ => rfl
  obtain ⟨later, closes, counted, unscored, time⟩ := exists_closesByReport
  refine ⟨fun claimed => ?_, fun claimed => ?_, fun claimed => ?_⟩
  · have reported : Logs answered true (withStrictTest justStarted)
      ([] ++ answered _ _)
      ((strictlyStarted [.variants]).run (.call reportingRequest student)).2 :=
      .tail logs trivial
    have none := claimed _ _ _ later (withStrictTest_lawful _)
      rfl papers reported closes.listed
    rw [strictlyStarted_answers, counted] at none
    cases none
  · have scored := claimed _ _ _ _ later (withStrictTest_lawful _)
      rfl papers logs.serves closes
    cases scored.symm.trans unscored
  · have exactly := claimed _ _ _ _ later (withStrictTest_lawful _)
      rfl papers logs.serves closes
    cases exactly.symm.trans time

/-- The strict service counts the violation of its student, and submits the
test. -/
theorem withStrictTest_follows_policy :
    let opening := withStrictTest justStarted
    let session := strictlyStarted []
    let report := Step.call reportingRequest student
    opening.store.Lawful ∧ opening.store.attempts = [] ∧
      (∀ variant ∈ opening.store.variants, ∃ questions,
        variant.questions.value? = some questions ∧ IsPaper questions) ∧
      Logs counted true opening [] session ∧
      (∀ attempt ∈ session.store.attempts,
        ∃ assignment ∈ session.store.assignments, assignment.id =
            attempt.assignmentId ∧ attempt.FollowsPolicy assignment 0) ∧
      session.IsReported "attempt-1" reportingRequest student ∧
      session.answered report = session.counted report := by
  intro opening session report
  have papers : ∀ variant ∈ opening.store.variants, ∃ questions,
    variant.questions.value? = some questions ∧ IsPaper questions :=
    withOneStudent_papers justStarted
  have starts : counted opening startsTest = [] := by
    rw [show startsTest = .call startingRequest student from rfl]
    unfold counted
    dsimp only
    rw [strictlyStarted_called]
  have logs : Logs counted true opening [] session :=
    strictlyStarted_logs [] starts fun _ => rfl
  obtain ⟨follows, reported, counts⟩ :=
    violations_follow_policy (withStrictTest_lawful _) rfl papers logs
  exact ⟨withStrictTest_lawful _, rfl, papers, logs, follows,
    reported "attempt-1" reportingRequest student
      (strictlyStarted_reportsOn []).called, counts rfl report⟩

end Session

end ExamHall
