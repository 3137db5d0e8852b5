import ExamHall.Proofs.Exam.Sweeping
import ExamHall.Proofs.Session.Deadline
import ExamHall.Proofs.Session.Issuing
import ExamHall.Proofs.Session.StoredTests
import Mathlib.Algebra.Order.Floor.Div

/-!
# What is due is swept away

A sweep closes the attempts that are due, as many as it may and the oldest
first, and nothing else.  Each of them is closed as if its student had submitted
it.  Enough sweeps leave nothing that is due, and further ones do nothing.
-/

namespace ExamHall

open Store

variable {context : Context} {store : Store} {attempt : Attempt} {now : Instant}

/-- From the year 2000 on, an attempt is due when its deadline is not after the
time. -/
theorem Attempt.isDue_iff_le (since : Column.origin ≤ now)
    (kept : Column.time attempt.deadlineAt = attempt.deadlineAt) :
    attempt.isDue now = true ↔ attempt.status = .inProgress ∧
    attempt.deadlineAt ≤ now := by
  rw [isDue_eq_true]
  refine and_congr_right fun _ =>
    ⟨fun due => Int.le_trans due (Column.time_le since), fun passed => ?_⟩
  exact kept ▸ Column.time_mono passed

namespace Exam

/-- Who submits an attempt that is due has it closed as of its deadline, to the
microsecond. -/
theorem closing_closingTime (due : attempt.isDue context.now = true)
    (kept : Column.time attempt.deadlineAt = attempt.deadlineAt) :
    closing context store attempt (attempt.closingTime context.now) =
      closing context store attempt attempt.deadlineAt := by
  obtain ⟨-, passed⟩ := Attempt.isDue_eq_true.mp due
  have time : Column.time (attempt.closingTime context.now) =
      Column.time attempt.deadlineAt := by
    unfold Attempt.closingTime
    split
    · rfl
    · next early =>
        have early : context.now ≤ attempt.deadlineAt :=
          Int.le_of_lt (Int.not_le.mp fun passed =>
              early (isExpired_eq_true.mpr passed))
        have late : Column.time attempt.deadlineAt ≤ Column.time context.now :=
          kept.symm ▸ passed
        exact congrArg Instant.mk
          (Int.le_antisymm (Column.time_mono early) late)
  have same : submitted (attempt.closingTime context.now) context.now =
      submitted attempt.deadlineAt context.now := by
    funext other
    unfold submitted
    rw [time]
  simp only [closing, Store.submitting, same]

end Exam

namespace Session

/-- What the tables hold once the student of an attempt has submitted it. -/
def submittedBy (session : Session) (attempt : Attempt) : Store :=
  ((Exam.submit ⟨attempt.studentId, .student⟩ attempt.id >>= Exam.snapshotOf)
    session.context ⟨session.store, []⟩).2.store

/-- An attempt has been closed as of its deadline, with the scores that it has
once its student has submitted it. -/
structure ClosesAsSubmitted (session : Session) (attempt : Attempt)
    (after : Store) : Prop where
  row : ∃ graded ∈ after.attempts,
    graded ∈ (session.submittedBy attempt).attempts ∧ graded.id = attempt.id ∧
    graded.submittedAt = some attempt.deadlineAt ∧ graded.status.isScored = true
  answers :
    RowsAlike attempt.id (session.submittedBy attempt).answers after.answers
  requested : ∀ request credential, session.ActsOn attempt.studentId attempt.id
    request credential (.submitAttempt attempt.id) →
    (session.run (.call request credential)).2.store =
      session.submittedBy attempt

/-- A sweep has closed some attempts, and has done nothing else. -/
structure SweepsAway (session : Session) (closed : List Attempt)
    (next : Session) : Prop where
  distinct : closed.Nodup
  due : ∀ attempt ∈ closed, attempt ∈ session.store.due session.now
  length : closed.length =
    min session.settings.sweepBatchSize (session.store.due session.now).length
  oldest : ∀ attempt ∈ closed, ∀ other ∈ next.store.attempts,
    other.status = .inProgress → attempt.deadlineAt ≤ other.deadlineAt
  closes : ∀ attempt ∈ closed, session.ClosesAsSubmitted attempt next.store
  others : ∀ attempt ∈ session.store.attempts, attempt ∉ closed →
    attempt ∈ next.store.attempts ∧
    rowsOf attempt.id next.store.answers =
      rowsOf attempt.id session.store.answers
  ids : next.store.attempts.map (·.id) = session.store.attempts.map (·.id)
  rest : ∃ attempts answers issued,
    next =
      { session with store := { session.store with attempts, answers, issued } }

variable {opening session : Session} {after : Store}

theorem submittedBy_eq (reliable : session.store.IsReliable)
    (orderly : session.store.IsOrderly session.now)
    (listed : attempt ∈ session.store.attempts)
    (due : attempt.isDue session.now = true) :
    session.submittedBy attempt = Exam.closing session.context session.store
      attempt attempt.deadlineAt := by
  have own : IsOwn session.store attempt.studentId attempt.id attempt :=
    ⟨listed, rfl, rfl, (Attempt.isDue_eq_true.mp due).1⟩
  exact (Exam.submit_ends session.context reliable own).2.trans
    (Exam.closing_closingTime due (orderly.regular attempt listed).due)

/-- What the request of the student leaves is what submitting the attempt
leaves. -/
theorem ActsOn.submittedBy {request : HttpRequest} {credential : Credential}
    (acts : session.ActsOn attempt.studentId attempt.id request credential
      (.submitAttempt attempt.id)) (reliable : session.store.IsReliable)
    (listed : attempt ∈ session.store.attempts)
    (running : attempt.status = .inProgress) :
    (session.run (.call request credential)).2.store =
      session.submittedBy attempt := by
  cases acts.actsAs with
  | works _ other => exact (other rfl).elim
  | submits student answers =>
      rw [answers.2, Session.submittedBy, (Exam.submit_ends session.context
          reliable ⟨listed, rfl, student.symm, running⟩).2, (Exam.submit_ends
            session.context reliable ⟨listed, rfl, rfl, running⟩).2]

/-- Attempts that have been closed one after another are closed as if their
students had submitted them. -/
theorem closesAsSubmitted_of_closesEach
    (closes : Exam.ClosesEach session.context
      (Exam.toClose session.context session.store) session.store after)
    (reliable : session.store.IsReliable)
    (orderly : session.store.IsOrderly session.now)
    (chosen : attempt ∈ Exam.toClose session.context session.store) :
    session.ClosesAsSubmitted attempt after := by
  obtain ⟨listed, due⟩ := Exam.mem_toClose chosen
  obtain ⟨graded, alone, present, same, submittedAt, scored, alike⟩ :=
    closes.alike reliable (Exam.nodup_toClose_ids reliable) chosen reliable
      listed ⟨rfl, rfl, rfl⟩
  rw [(orderly.regular attempt listed).due] at submittedAt
  have left := submittedBy_eq reliable orderly listed due
  exact ⟨⟨graded, present, left ▸ alone, same, submittedAt, scored⟩,
    left ▸ alike, fun _ _ acts =>
      acts.submittedBy reliable listed (Attempt.isDue_eq_true.mp due).1⟩

/-- What is still in progress after a sweep is not due before what has been
closed. -/
theorem deadlineAt_le_of_closesEach {other : Attempt}
    (closes : Exam.ClosesEach session.context
      (Exam.toClose session.context session.store) session.store after)
    (reliable : session.store.IsReliable)
    (chosen : attempt ∈ Exam.toClose session.context session.store)
    (inside : other ∈ after.attempts) (running : other.status = .inProgress) :
    attempt.deadlineAt ≤ other.deadlineAt := by
  by_cases due : other.isDue session.now = true
  · have left :=
      (closes.due_perm reliable).mem_iff.mp (mem_due.mpr ⟨inside, due⟩)
    exact rel_of_mem_take_of_mem_drop
      (pairwise_dueInOrder session.store session.now) chosen left
  · have later : Column.time session.now < other.deadlineAt :=
      Int.not_le.mp fun passed =>
        due (Attempt.isDue_eq_true.mpr ⟨running, passed⟩)
    obtain ⟨-, passed⟩ := Attempt.isDue_eq_true.mp (Exam.mem_toClose chosen).2
    exact Int.le_of_lt (Int.lt_of_le_of_lt passed later)

/-- Once the attempts that a sweep has chosen have been closed one after
another, they have been swept away. -/
theorem sweepsAway_of_closesEach
    (closes : Exam.ClosesEach session.context
      (Exam.toClose session.context session.store) session.store after)
    (reliable : session.store.IsReliable)
    (orderly : session.store.IsOrderly session.now) :
    session.SweepsAway (Exam.toClose session.context session.store)
      { session with store := after } := by
  have distinct :
      ((Exam.toClose session.context session.store).map (·.id)).Nodup :=
    Exam.nodup_toClose_ids reliable
  obtain ⟨-, -, ids, ⟨issued, rest⟩, others⟩ := closes.leaves reliable
  exact {
    distinct := List.Nodup.of_map _ distinct
    due := fun _ chosen =>
      mem_due.mpr (@Exam.mem_toClose session.context _ _ chosen)
    length := by
      rw [Exam.toClose, List.length_take, (dueInOrder_perm _ _).length_eq]
      rfl
    oldest := fun _ chosen _ =>
      deadlineAt_le_of_closesEach closes reliable chosen
    closes := fun _ => closesAsSubmitted_of_closesEach closes reliable orderly
    others := by
      intro attempt listed left
      have apart : attempt.id ∉
          (Exam.toClose session.context session.store).map (·.id) := by
        intro closed
        obtain ⟨former, chosen, same⟩ := List.mem_map.mp closed
        obtain rfl := eq_of_key reliable.lawful.sittings.ids
          (Exam.mem_toClose chosen).1 listed same
        exact left chosen
      obtain ⟨stay, rows⟩ := others attempt.id apart
      exact ⟨stay attempt listed rfl, rows⟩
    ids
    rest := ⟨after.attempts, after.answers, issued,
      congrArg (fun store => { session with store }) rest⟩ }

/-- A sweep closes one after another what it has chosen. -/
theorem run_sweep (reliable : session.store.IsReliable) :
    let chosen := Exam.toClose session.context session.store
    ∃ after events, Exam.ClosesEach session.context chosen session.store after ∧
        session.run .sweep = (⟨.swept ⟨chosen.length, chosen.length, 0, 0⟩,
          events⟩, { session with store := after }) := by
  obtain ⟨after, events, closes, swept⟩ :=
    Exam.exists_sweep session.context reliable
  refine ⟨after, events, closes, ?_⟩
  unfold run act
  rw [swept]

/-- A sweep closes what is due, and reports just that. -/
theorem exists_sweepsAway (reliable : session.store.IsReliable)
    (orderly : session.store.IsOrderly session.now) :
    ∃ closed, session.SweepsAway closed (session.run .sweep).2 ∧
      (session.run .sweep).1.result =
        .swept ⟨closed.length, closed.length, 0, 0⟩ := by
  obtain ⟨after, events, closes, ran⟩ := run_sweep reliable
  rw [ran]
  exact ⟨_, sweepsAway_of_closesEach closes reliable orderly, rfl⟩

/-! ## Sweeping again -/

/-- Each sweep leaves less that is due, until nothing is left. -/
theorem after_sweeps (count : Nat) (reliable : session.store.IsReliable) :
    let last := session.after (List.replicate count .sweep)
    last.settings = session.settings ∧ last.now = session.now ∧
      last.store.IsReliable ∧
      (last.store.due session.now).length =
        (session.store.due session.now).length - count *
        session.settings.sweepBatchSize := by
  induction count generalizing session with
  | zero => exact ⟨rfl, rfl, reliable, by rw [Nat.zero_mul]; rfl⟩
  | succ count ih =>
      obtain ⟨after, events, closes, ran⟩ := run_sweep reliable
      have left := (closes.due_perm reliable).length_eq
      rw [List.length_drop, (dueInOrder_perm _ _).length_eq] at left
      obtain ⟨settings, now, reliable', remaining⟩ :=
        @ih { session with store := after } (closes.leaves reliable).1
      rw [List.replicate_succ, Session.after, ran]
      refine ⟨settings, now, reliable', remaining.trans ?_⟩
      rw [Nat.succ_mul, Nat.add_comm, ← Nat.sub_sub]
      exact congrArg (· - _) left

/-- A sweep does nothing while nothing is due. -/
theorem run_sweep_of_none_due (reach : session.store.CanReach [.attempts])
    (idle : session.store.due session.now = []) :
    session.run .sweep = (quietly (.swept ⟨0, 0, 0, 0⟩), session) := by
  unfold run act
  rw [Exam.sweep_of_none_due session.context reach idle]
  rfl

/-- In every state that a service has reached, a sweep closes attempts that are
due, as many as it may, the oldest first, each as if its student had submitted
it, and it does and reports nothing else.  As many sweeps as it takes leave
nothing that is due, and then sweeping changes nothing.  An attempt is due when
its deadline has passed as the columns tell the time, and from the year 2000 on
that is when its deadline is not after the time. -/
theorem sweep_closes_what_is_due (lawful : opening.store.Lawful)
    (unused : opening.store.attempts = [])
    (papers : ∀ variant ∈ opening.store.variants, ∃ questions,
      variant.questions.value? = some questions ∧ IsPaper questions)
    (run : Serves true opening session) (reach : session.store.outages = [])
    (positive : 0 < session.settings.sweepBatchSize) :
    let due := session.store.due session.now
    let last := session.after
      (List.replicate (due.length ⌈/⌉ session.settings.sweepBatchSize) .sweep)
    (∃ closed, session.SweepsAway closed (session.run .sweep).2 ∧
      (session.run .sweep).1.result =
        .swept ⟨closed.length, closed.length, 0, 0⟩) ∧
      last.store.due session.now = [] ∧
      last.run .sweep = (quietly (.swept ⟨0, 0, 0, 0⟩), last) ∧
      (Column.origin ≤ session.now → ∀ attempt ∈ session.store.attempts,
        (attempt.isDue session.now = true ↔ attempt.status = .inProgress ∧
          attempt.deadlineAt ≤ session.now)) := by
  intro due last
  have orderly :=
    (Serves.sound run (isSound_of_no_attempts lawful unused)).1.orderly
  have reliable := Serves.reliable run lawful unused papers reach
  obtain ⟨-, now, reliable', remaining⟩ :=
    after_sweeps (due.length ⌈/⌉ session.settings.sweepBatchSize) reliable
  have enough : due.length ≤
      due.length ⌈/⌉ session.settings.sweepBatchSize *
        session.settings.sweepBatchSize := by
    rw [Nat.mul_comm]
    exact le_smul_ceilDiv positive
  have idle : last.store.due session.now = [] :=
    List.eq_nil_of_length_eq_zero (remaining.trans
        (Nat.sub_eq_zero_of_le enough))
  exact ⟨exists_sweepsAway reliable orderly, idle,
    run_sweep_of_none_due (canReach_of_noOutages reliable'.reach _)
      (now ▸ idle), fun since attempt listed =>
        Attempt.isDue_iff_le since (orderly.regular attempt listed).due⟩

/-! ## An attempt that ends with the century -/

/-- The time at which the student starts who has until the year 2000. -/
def lastMinute : Instant := ⟨Column.origin.nanos - Instant.minute⟩

/-- The last instant before the year 2000. -/
def lastInstant : Instant := ⟨Column.origin.nanos - 1⟩

/-- The request of the student to start the test. -/
def startingRequest : HttpRequest :=
  ⟨.post, "/assignments/a/start", "", [], ""⟩

theorem student_known_late (request : HttpRequest) :
    Access.caller? (withOneStudent lastMinute).settings lastMinute
      ((withOneStudent lastMinute).signed request student) =
      some (.ok ⟨"s", .student⟩) := by
  refine caller?_token request ⟨true, true, false⟩ 946684680 ?_ ?_ rfl ?_ ?_
  · rfl
  · decide +kernel
  · decide +kernel
  · decide +kernel

theorem withOneStudent_starts_late :
    (Exam.start ⟨"s", .student⟩ "a" none (withOneStudent lastMinute).context
      ⟨(withOneStudent lastMinute).store, []⟩).2.store.attempts.map
      (fun attempt => (attempt.status, attempt.deadlineAt)) =
      [(.inProgress, Column.origin)] := by
  decide +kernel

/-- The student has an instant left. -/
structure IsEnding (session : Session) (attempt : Attempt) : Prop where
  serves : ∀ failing, Serves failing (withOneStudent lastMinute) session
  size : session.settings.sweepBatchSize = 1
  now : session.now = lastInstant
  reach : session.store.outages = []
  attempts : session.store.attempts = [attempt]
  running : attempt.status = .inProgress
  deadlineAt : attempt.deadlineAt = Column.origin

theorem exists_isEnding : ∃ session attempt, IsEnding session attempt := by
  have known := student_known_late startingRequest
  have called : Server.called? (withOneStudent lastMinute).settings
      ((withOneStudent lastMinute).signed startingRequest student) =
      some (.startAttempt "a") := by
    rw [called?_signed]
    decide +kernel
  have noCode : Handle.accessCode
      ((withOneStudent lastMinute).signed startingRequest student) = none := by
    decide +kernel
  obtain ⟨session, serves, settings, now, store⟩ :=
    exists_serves_until (withOneStudent lastMinute)
      startingRequest student (show lastMinute ≤ lastInstant by decide)
  have starts := (answersAs_of_performs called
    (Handle.startAttempt_performs (withOneStudent lastMinute).context known)).2
  rw [noCode] at starts
  have rows := withOneStudent_starts_late
  rw [← starts, ← store] at rows
  obtain ⟨attempt, attempts, row⟩ := List.map_eq_singleton_iff.mp rows
  have reach := (Serves.current (serves false)
    (isSound_of_no_attempts (withOneStudent_lawful _) rfl)
    (isCurrent_of_no_attempts (withOneStudent_lawful _) rfl rfl
      (withOneStudent_papers _))).reliable.reach
  exact ⟨session, attempt, serves, settings ▸ rfl, now, reach, attempts,
    congrArg Prod.fst row, congrArg Prod.snd row⟩

theorem IsEnding.isDue (ending : session.IsEnding attempt) :
    attempt.isDue session.now = true := by
  rw [ending.now, Attempt.isDue_eq_true, ending.deadlineAt]
  exact ⟨ending.running, by decide⟩

theorem IsEnding.due (ending : session.IsEnding attempt) :
    session.store.due session.now = [attempt] := by
  rw [Store.due, ending.attempts, List.filter_cons, if_pos ending.isDue,
    List.filter_nil]

/-- A sweep may close an attempt whose deadline is an instant away, and nothing
is swept while the attempts are out of reach. -/
theorem sweep_misses_what_is_due :
    (¬∀ (opening session : Session) (attempt : Attempt),
      opening.store.Lawful → opening.store.attempts = [] →
      (∀ variant ∈ opening.store.variants, ∃ questions,
        variant.questions.value? = some questions ∧ IsPaper questions) →
      Serves true opening session → session.store.outages = [] →
      0 < session.settings.sweepBatchSize →
      attempt ∈ session.store.attempts → session.now < attempt.deadlineAt →
      attempt ∈ (session.run .sweep).2.store.attempts) ∧
    ¬∀ opening session : Session, opening.store.Lawful →
      opening.store.attempts = [] →
      (∀ variant ∈ opening.store.variants, ∃ questions,
        variant.questions.value? = some questions ∧ IsPaper questions) →
      Serves true opening session → 0 < session.settings.sweepBatchSize →
      ∃ closed,
        (session.run .sweep).1.result = .swept ⟨closed, closed, 0, 0⟩ := by
  constructor
  · intro claimed
    obtain ⟨session, attempt, ending⟩ := exists_isEnding
    have positive : 0 < session.settings.sweepBatchSize :=
      ending.size ▸ Nat.one_pos
    have kept := claimed _ session attempt (withOneStudent_lawful _)
      rfl (withOneStudent_papers _) (ending.serves true) ending.reach positive
      (ending.attempts ▸ List.mem_singleton_self _)
      (by rw [ending.now, ending.deadlineAt]; decide)
    have reliable := Serves.reliable (ending.serves true)
      (withOneStudent_lawful _) rfl (withOneStudent_papers _) ending.reach
    have idle := (after_sweeps 1 reliable).2.2.2
    rw [ending.due, ending.size] at idle
    have due : attempt ∈ (session.run .sweep).2.store.due session.now :=
      mem_due.mpr ⟨kept, ending.isDue⟩
    exact List.not_mem_nil (List.eq_nil_of_length_eq_zero idle ▸ due)
  · intro claimed
    obtain ⟨closed, swept⟩ := claimed (withOneStudent lastMinute)
      ((withOneStudent lastMinute).run (.loseTables [.attempts])).2
      (withOneStudent_lawful _) rfl (withOneStudent_papers _)
      (.single ⟨.loseTables [.attempts], rfl, rfl⟩) Nat.one_pos
    cases swept

/-- The sweep closes the attempt of the student. -/
theorem withOneStudent_sweep_closes_what_is_due :
    ∃ session attempt, (withOneStudent lastMinute).store.Lawful ∧
      (withOneStudent lastMinute).store.attempts = [] ∧
      (∀ variant ∈ (withOneStudent lastMinute).store.variants, ∃ questions,
        variant.questions.value? = some questions ∧ IsPaper questions) ∧
      Serves true (withOneStudent lastMinute) session ∧
      session.store.outages = [] ∧ 0 < session.settings.sweepBatchSize ∧
      session.store.due session.now = [attempt] ∧
      session.SweepsAway [attempt] (session.run .sweep).2 ∧
      (session.run .sweep).1.result = .swept ⟨1, 1, 0, 0⟩ := by
  obtain ⟨session, attempt, ending⟩ := exists_isEnding
  have positive : 0 < session.settings.sweepBatchSize :=
    ending.size ▸ Nat.one_pos
  obtain ⟨⟨closed, sweeps, swept⟩, -⟩ :=
    sweep_closes_what_is_due (withOneStudent_lawful _)
      rfl (withOneStudent_papers _) (ending.serves true) ending.reach positive
  have single : closed.length = 1 := by
    rw [sweeps.length, ending.due, ending.size]
    rfl
  obtain ⟨only, rfl⟩ := List.length_eq_one_iff.mp single
  have due := sweeps.due only (List.mem_singleton_self _)
  rw [ending.due] at due
  obtain rfl := List.mem_singleton.mp due
  exact ⟨session, only, withOneStudent_lawful _, rfl, withOneStudent_papers _,
    ending.serves true, ending.reach, positive, ending.due, sweeps, swept⟩

end Session

end ExamHall
