import ExamHall.Proofs.Exam.Recovering
import ExamHall.Proofs.Session.Events

/-!
# Grading is deferred, and gives the same

An attempt that has been submitted waits for its scores if its grading does not
run or fails.  Nothing that happens meanwhile touches it.  When it is graded, on
request or by a recovery, it gets what it would have got at once, and no second
grading changes that.
-/

namespace ExamHall

open Store

/-! ## Attempts that are not in progress -/

variable {now submittedAt : Instant} {store after middle : Store}
  {attempt : Attempt} {caller : Caller} {endpoint : Endpoint}
  {rows : List (SavedAnswer (Stored Answer))}

/-- An attempt that is let expire is another one than any that has been
closed. -/
theorem Expires.holds {assignmentId studentId : String}
    {pending : Option Attempt}
    (expires : Expires now store assignmentId studentId pending middle)
    (lawful : store.Lawful) (holds : store.HoldsAttempt attempt rows)
    (left : attempt.status ≠ .inProgress) :
    middle.HoldsAttempt attempt rows ∧ ∀ submitted, pending = some submitted →
      attempt.id ≠ submitted.id := by
  cases expires with
  | vacant => exact ⟨holds, by simp⟩
  | @expired other listed running =>
      have apart : attempt.id ≠ other.id :=
        holds.id_ne lawful listed (running.2 ▸ left)
      refine ⟨holds.of_touches
        (Touches.submitting store other.id other.deadlineAt now) apart, ?_⟩
      rintro _ ⟨rfl⟩
      exact apart

/-- A request leaves an attempt that waits for its scores as it is, or is one to
grade it. -/
theorem Effect.holds_or_graded {saves : List AcceptedSave}
    {failed : Option (Halt Refusal)}
    (effect : Effect now store caller endpoint saves failed after)
    (lawful : store.Lawful) (holds : store.HoldsAttempt attempt rows)
    (waits : attempt.status = .submitted) :
    after.HoldsAttempt attempt rows ∨ endpoint = .gradeAttempt attempt.id ∧
    caller.role.canAuthor = true ∧ Manages store caller attempt.assignmentId ∧
    ∃ graded, GradesInto now store attempt graded after := by
  have left : attempt.status ≠ .inProgress := by simp [waits]
  cases effect with
  | nothing => exact .inl holds
  | generated => exact .inl ⟨holds.listed, holds.rows⟩
  | assigned => exact .inl ⟨holds.listed, holds.rows⟩
  | closed => exact .inl ⟨holds.listed, holds.rows⟩
  | saved _ own _ _ writes =>
      exact .inl (holds.of_touches writes.touches
          (holds.id_ne lawful own.listed (own.running ▸ left)))
  | late _ own _ finishes =>
      exact .inl (holds.of_finishes lawful left own.listed own.running finishes)
  | violated own _ touches =>
      exact .inl (holds.of_touches touches
          (holds.id_ne lawful own.listed (own.running ▸ left)))
  | submitted own _ finishes =>
      exact .inl (holds.of_finishes lawful left own.listed own.running finishes)
  | exhausted listed running _ finishes =>
      exact .inl (holds.of_finishes lawful left listed running.2 finishes)
  | @started _ pending middle after opened issued _ expires _ completes =>
      obtain ⟨kept, apart⟩ := expires.holds lawful holds left
      have begun : Store.HoldsAttempt { middle with
            attempts := middle.attempts ++ [opened], issued } attempt rows :=
        ⟨List.mem_append_left _ kept.listed, kept.rows⟩
      cases pending with
      | none =>
          obtain rfl := completes
          exact .inl begun
      | some submitted =>
          exact .inl
            (begun.of_touches (Exam.Completes.touches completes) (apart _ rfl))
  | graded author manages into =>
      rcases holds.of_gradesInto lawful into with kept | rfl
      · exact .inl kept
      · exact .inr ⟨rfl, author, manages, _, into⟩
  | @reviewed row other after author manages listed same into =>
      have scored : other.status.isScored = true ∧ other ∈ store.attempts := by
        obtain ⟨_, _, _, _, _, _, _, _, reviews, -⟩ := into
        exact ⟨reviews.scored, reviews.listed⟩
      refine .inl (holds.of_touches (into.touches lawful).1
          (holds.id_ne lawful scored.2 ?_))
      intro same
      rw [← same, waits] at scored
      cases scored.1

/-- A request to grade an attempt that does not wait for its scores does
nothing. -/
theorem Effect.eq_of_gradeAttempt {saves : List AcceptedSave}
    {failed : Option (Halt Refusal)}
    (effect : Effect now store caller (.gradeAttempt attempt.id) saves failed
      after) (lawful : store.Lawful) (listed : attempt ∈ store.attempts)
    (idle : attempt.status ≠ .submitted) : after = store := by
  generalize same : Endpoint.gradeAttempt attempt.id = endpoint at effect
  cases effect with
  | nothing => rfl
  | @graded other graded after author manages into =>
      have same : attempt.id = other.id := Endpoint.gradeAttempt.inj same
      obtain rfl := eq_of_key lawful.sittings.ids listed into.mem same
      exact (idle into.submitted).elim
  | saved on =>
      rw [← same] at on
      cases on
  | late on =>
      rw [← same] at on
      cases on
  | _ => cases same

namespace Session

variable {opening session waiting later : Session} {step : Step}
  {graded : Attempt} {immediate : Store}

/-! ## One step -/

/-- A step is one to grade an attempt: an author who manages its assignment asks
for it, or a recovery has it on its list because its grading has stalled. -/
inductive GradesBy (session : Session) (attempt : Attempt) : Step → Prop where
  | asked {request : HttpRequest} {credential : Credential} {caller : Caller}
      (called : Server.called? session.settings
        (session.signed request credential) = some (.gradeAttempt attempt.id))
      (known : Access.caller? session.settings session.now
        (session.signed request credential) = some (.ok caller))
      (author : caller.role.canAuthor = true)
      (manages : Manages session.store caller attempt.assignmentId) :
      GradesBy session attempt (.call request credential)
  | recovered {stalled : List Attempt}
      (lists : Exam.Lists session.context session.store stalled)
      (inside : attempt ∈ stalled)
      (old : attempt.HasStalled session.settings session.now) :
      GradesBy session attempt .recover

/-- A step of the service leaves an attempt that waits for its scores as it is,
or is one to grade it. -/
theorem run_holds_or_graded (sound : session.IsSound)
    (holds : session.store.HoldsAttempt attempt rows)
    (waits : attempt.status = .submitted)
    (service : step.IsService true session.now) :
    (session.run step).2.store.HoldsAttempt attempt rows ∨
    session.GradesBy attempt step ∧
    session.store.GradedSince session.now attempt rows
      (session.run step).2.store := by
  obtain ⟨lawful, orderly⟩ := sound
  have left : attempt.status ≠ .inProgress := by simp [waits]
  cases step with
  | call request credential =>
      rcases run_call lawful request credential with
        ⟨same, -⟩
          | ⟨endpoint, caller, failed, ended, called, known, -, -, effect⟩
      · rw [same]
        exact .inl holds
      · rcases effect.holds_or_graded lawful holds waits
          with kept | ⟨rfl, author, manages, graded, into⟩
        · exact .inl kept
        · exact .inr ⟨.asked called known author manages, lawful, rfl, rfl,
            holds, into, into.holds⟩
  | sweep =>
      have sweeps := @Exam.sweep_keeps session.context session.store
        (·.HoldsAttempt attempt rows) lawful orderly fun legal finalizes kept =>
          kept.of_finalizes legal left finalizes
      exact .inl (sweeps ⟨session.store, []⟩
          ⟨@World.IsSettled.refl _ ⟨session.store, []⟩, holds⟩).2
  | recover =>
      rcases @Exam.recoverStalled_ends _ session.context lawful
          ⟨session.store, []⟩ rfl with
        ⟨same, -⟩ | ⟨stalled, done, lists, first, completes, -⟩
      · have unchanged : (session.run .recover).2.store = session.store := same
        exact .inl (unchanged ▸ holds)
      · rcases completes.holds_or_graded lawful holds waits with ⟨kept, -⟩
          | ⟨inside, graded⟩
        · exact .inl kept
        · obtain ⟨listed, chosen, same⟩ := List.mem_map.mp inside
          have chosen := first.subset chosen
          obtain ⟨present, old⟩ := lists.mem chosen
          obtain rfl := eq_of_key lawful.sittings.ids present holds.listed same
          exact .inr ⟨.recovered lists chosen old, graded⟩
  | setClock now => exact .inl holds
  | connectBroker connected => exact .inl holds
  | loseTables tables => exact .inl ⟨holds.listed, holds.rows⟩
  | insert table row => exact service.elim
  | change table id row => exact service.elim
  | remove table id => exact service.elim
  | look table => exact .inl holds

/-! ## A whole run -/

/-- What a run does with an attempt that waits for its scores: it leaves it as
it is, or leaves it as it is until one of its steps grades it, as it would have
been graded before the run. -/
inductive Defers (waiting : Session) (attempt graded : Attempt)
    (immediate : Store) : List (Session × Step) → Session → Prop where
  | waits {taken : List (Session × Step)} {later : Session}
      (before : ∀ moment ∈ taken, moment.1.store.HoldsAttempt attempt
        (rowsOf attempt.id waiting.store.answers))
      (holds : later.store.HoldsAttempt attempt
        (rowsOf attempt.id waiting.store.answers)) :
      Defers waiting attempt graded immediate taken later
  | graded {early late : List (Session × Step)} {middle later : Session}
      {step : Step} (before : ∀ moment ∈ early ++ [(middle, step)],
        moment.1.store.HoldsAttempt attempt
          (rowsOf attempt.id waiting.store.answers))
      (grades : middle.GradesBy attempt step)
      (alike : waiting.store.GradesAlike graded immediate
        (middle.run step).2.store) : Defers waiting attempt graded immediate
      (early ++ (middle, step) :: late) later

section Deferred

variable (sound : waiting.IsSound)
  (reliable : { waiting.store with outages := [] }.IsReliable)
  (into : GradesInto waiting.now { waiting.store with outages := [] } attempt
    graded immediate)

include sound reliable into

/-- Whenever an attempt is graded that waits as it did, it is graded alike. -/
theorem Serves.gradesAlike (run : Serves true waiting later)
    (since : later.store.GradedSince now attempt
      (rowsOf attempt.id waiting.store.answers) after) :
    waiting.store.GradesAlike graded immediate after := by
  obtain ⟨legal, variants, sorts, holds, into', held⟩ := since
  obtain ⟨questions, shown, paper, -⟩ := reliable.exists_sitting into.mem
  have dealt := Serves.hasVariant run sound shown
  rw [HasVariant, ← variants] at dealt
  have alike :=
    into.gradesAlike into' holds (sorts.trans (Serves.collation run sound))
      reliable.lawful legal shown dealt paper held
  exact ⟨alike.attempt, alike.rows⟩

/-- A step to grade an attempt that waits does so, if all tables can be
reached. -/
theorem Serves.run_grades (run : Serves true waiting later)
    (reach : later.store.outages = [])
    (holds : later.store.HoldsAttempt attempt
      (rowsOf attempt.id waiting.store.answers))
    (grades : later.GradesBy attempt step) :
    waiting.store.GradesAlike graded immediate (later.run step).2.store := by
  have reliable' := Serves.staysReliable run sound reliable reach
  have lawful := reliable'.lawful
  suffices since : later.store.GradedSince later.now attempt
    (rowsOf attempt.id waiting.store.answers) (later.run step).2.store
    from Serves.gradesAlike sound reliable into run since
  cases grades with
  | asked called known author manages =>
      obtain ⟨given, left, ended, into'⟩ :=
        Exam.exists_grade later.context reliable' holds.listed
          into.submitted manages
      have answers := answersAs_of_performs called
        (Handle.gradeAttempt_performs later.context known author)
      rw [answers.2, ended]
      exact ⟨lawful, rfl, rfl, holds, into', into'.holds⟩
  | @recovered stalled lists inside =>
      rcases @Exam.recoverStalled_ends _ later.context lawful
          ⟨later.store, []⟩ rfl with
        ⟨-, none⟩ | ⟨other, done, lists', -, completes, whole⟩
      · exact (none stalled lists).elim
      · obtain rfl := lists.unique lists'
        obtain rfl := whole reliable'
        rcases completes.holds_or_graded lawful holds into.submitted
          with ⟨-, missed⟩ | ⟨-, since⟩
        · exact (missed reliable' (List.mem_map_of_mem inside)).elim
        · exact since

/-- An attempt waits for its scores throughout a run, or is graded alike by one
of its steps. -/
theorem Logs.defers {taken : List (Session × Step)}
    (logs : Logs moments true waiting taken later) :
    waiting.Defers attempt graded immediate taken later := by
  induction logs with
  | refl => exact .waits (List.forall_mem_nil _) ⟨into.mem, rfl⟩
  | @tail taken middle step early service ih =>
      cases ih with
      | waits before holds =>
          have before' :=
            List.forall_mem_append.mpr ⟨before, (List.forall_mem_singleton.mpr
              holds : ∀ moment ∈ moments middle step, _)⟩
          have sound' := (Serves.sound early.serves sound).1
          rcases run_holds_or_graded sound' holds into.submitted service
            with kept | ⟨grades, since⟩
          · exact .waits before' kept
          · exact .graded before' grades
              (Serves.gradesAlike sound reliable into early.serves since)
      | graded before grades alike =>
          rw [List.append_assoc, List.cons_append]
          exact .graded before grades alike

end Deferred

/-- An attempt that has scores is not graded again, neither on request nor by a
recovery. -/
theorem run_leaves_scored (lawful : session.store.Lawful)
    (listed : attempt ∈ session.store.attempts)
    (scored : attempt.status.isScored = true) :
    (∀ request credential, Server.called? session.settings
      (session.signed request credential) = some (.gradeAttempt attempt.id) →
      (session.run (.call request credential)).2 = session) ∧
    (session.run .recover).2.store.HoldsAttempt attempt
      (rowsOf attempt.id session.store.answers) := by
  have idle : attempt.status ≠ .submitted :=
    AttemptStatus.ne_submitted_of_isScored scored
  constructor
  · intro request credential called
    have unchanged : (session.run (.call request credential)).2.store =
        session.store := by
      rcases run_call lawful request credential with
        ⟨same, -⟩ | ⟨endpoint, caller, failed, ended, called', -, -, -, effect⟩
      · exact same
      · cases called.symm.trans called'
        exact effect.eq_of_gradeAttempt lawful listed idle
    rw [run_call_session, unchanged]
  · rcases @Exam.recoverStalled_ends _ session.context lawful
        ⟨session.store, []⟩ rfl with
      ⟨same, -⟩ | ⟨stalled, done, -, -, completes, -⟩
    · have unchanged : (session.run .recover).2.store = session.store := same
      rw [unchanged]
      exact ⟨listed, rfl⟩
    · exact completes.holds_of_ne lawful ⟨listed, rfl⟩ idle

/-- In every state that a service reaches, an attempt in progress may be
submitted without being graded.  Then it waits for its scores, and whatever
happens leaves it and its answers as they are, until it is graded by a request
of who manages the assignment or by a recovery that finds that it has stalled.
Then it has the scores, the status and the answers that it would have got at
once.  It is graded by such a step for certain if all tables can be reached, and
once it has scores neither of them changes anything about it. -/
theorem deferred_grading_gives_the_same {submitted : Attempt}
    (lawful : opening.store.Lawful) (unused : opening.store.attempts = [])
    (papers : ∀ variant ∈ opening.store.variants, ∃ questions,
      variant.questions.value? = some questions ∧ IsPaper questions)
    (run : Serves true opening session)
    (closes : Closes session.now session.store attempt submittedAt)
    (marked : markSubmitted attempt.id submittedAt session.now session.store =
      .ok (some submitted, store)) :
    ∃ graded left, Exam.gradeSubmitted attempt.id session.context
        ⟨{ store with outages := [] }, []⟩ = (.ok (some graded), left) ∧
      ∀ taken later, Logs moments true { session with store } taken later →
        Defers { session with store } submitted graded left.store taken later ∧
        (later.store.outages = [] →
          later.store.HoldsAttempt submitted (rowsOf attempt.id store.answers) →
          ∀ step, later.GradesBy submitted step →
            store.GradesAlike graded left.store (later.run step).2.store) ∧
        ∀ scored ∈ later.store.attempts, scored.id = attempt.id →
          scored.status.isScored = true →
          (∀ request credential,
            Server.called? later.settings (later.signed request credential) =
              some (.gradeAttempt attempt.id) →
            (later.run (.call request credential)).2 = later) ∧
          (later.run .recover).2.store.HoldsAttempt scored
            (rowsOf attempt.id later.store.answers) := by
  have sound := (Serves.sound run (isSound_of_no_attempts lawful unused)).1
  obtain ⟨-, -, found, rfl⟩ := markSubmitted_eq_ok.mp marked
  rw [find?_hasStatus sound.lawful.sittings.ids closes.listed closes.running]
    at found
  obtain rfl := Option.some.inj found
  -- Outages do not matter to what the tables say.
  have restored : Serves true opening
      { session with store := { session.store with outages := [] } } :=
    .tail run ⟨.loseTables [], rfl, rfl⟩
  have closes' : Closes session.now { session.store with outages := [] } attempt
      submittedAt :=
    ⟨closes.listed, closes.running, closes.time⟩
  have reliable :=
    closes'.submitting.reliable (restored.reliable lawful unused papers rfl)
  have here :=
    mem_submitting closes'.listed closes'.running submittedAt session.now
  obtain ⟨graded, left, ended, into⟩ :=
    Exam.exists_gradeSubmitted session.context reliable here rfl []
  refine ⟨graded, left, ended, fun taken later logs => ?_⟩
  have waits : IsSound { session with store := session.store.submitting
                                        attempt.id submittedAt session.now } :=
    ⟨closes.submitting.lawful sound.lawful, (Reaches.orderly
        (.single closes.submitting) sound.lawful sound.orderly).1⟩
  refine ⟨logs.defers waits reliable into, ?_, ?_⟩
  · intro reach holds step grades
    exact Serves.run_grades waits reliable into logs.serves reach holds grades
  · rintro scored listed same isScored
    rw [← same]
    exact run_leaves_scored (Serves.sound logs.serves waits).1.lawful
      listed isScored

/-! ## An essay that is graded late -/

/-- The request of the owner of the test to grade the attempt. -/
def gradingRequest : HttpRequest :=
  ⟨.post, "/attempts/attempt-1/grade", "", [], ""⟩

theorem begun_attempts :
    ((begun "q" false).store.attempts.any fun attempt =>
      decide (attempt.id = "attempt-1" ∧ attempt.assignmentId = "a" ∧
        attempt.status = .inProgress ∧ justStarted < attempt.deadlineAt)) =
      true ∧
    ((begun "q" false).store.assignments.any fun assignment =>
      decide (assignment.id = "a" ∧ assignment.ownerId = "o")) = true ∧
    (begun "q" false).store.outages = [] := by
  decide +kernel

/-- The student submits the test, and it is not graded.  When its owner asks for
that, it is graded as it would have been graded at once. -/
theorem listening_deferred_grading_gives_the_same :
    ∃ attempt submitted store graded left,
      (withListener "q" false).store.Lawful ∧
      (withListener "q" false).store.attempts = [] ∧
      Serves true (withListener "q" false) (listening "q" false) ∧
      Closes justStarted (listening "q" false).store attempt justStarted ∧
      markSubmitted attempt.id justStarted
        justStarted (listening "q" false).store = .ok (some submitted, store) ∧
      Exam.gradeSubmitted attempt.id (listening "q" false).context
        ⟨{ store with outages := [] }, []⟩ = (.ok (some graded), left) ∧
      GradesBy { listening "q" false with store } submitted
        (.call gradingRequest owner) ∧
      store.GradesAlike graded left.store
        (Session.run { listening "q" false with store }
          (.call gradingRequest owner)).2.store := by
  obtain ⟨attempts, assignments, reach⟩ := begun_attempts
  obtain ⟨attempt, listed, facts⟩ := List.any_eq_true.mp attempts
  obtain ⟨id, assigned, running, inTime⟩ := of_decide_eq_true facts
  obtain ⟨assignment, given, facts⟩ := List.any_eq_true.mp assignments
  obtain ⟨assignmentId, ownerId⟩ := of_decide_eq_true facts
  have starts : Serves true (withListener "q" false) (listening "q" false) :=
    .single ⟨startsTest, trivial, (withListener_starts "q" false).2.symm⟩
  have closes :
      Closes justStarted (listening "q" false).store attempt justStarted :=
    ⟨listed, running, .inr ⟨rfl, inTime⟩⟩
  have lawful := (Serves.sound starts
      (isSound_of_no_attempts (withListener_lawful "q" false) rfl)).1.lawful
  have marked := Exam.markSubmitted_of_closes lawful reach closes
  obtain ⟨graded, left, ended, becomes⟩ :=
    deferred_grading_gives_the_same (withListener_lawful "q" false)
      rfl (withListener_papers false) starts closes marked
  have may : (⟨"o", .teacher⟩ : Caller).mayManage assignment.ownerId =
      true := by
    rw [ownerId]
    decide
  have called :
    Server.called? (withOneStudent justStarted).settings gradingRequest =
      some (.gradeAttempt "attempt-1") := by decide +kernel
  rw [← id] at called
  have grades : GradesBy
      { listening "q" false with store := (begun "q" false).store.submitting
                                   attempt.id justStarted justStarted }
      (Store.submitted justStarted justStarted attempt)
        (.call gradingRequest owner) :=
    .asked ((called?_signed (listening "q" false) gradingRequest owner).trans
        called) (withListener_owner "q" false gradingRequest) rfl ⟨assignment,
          given, assignmentId.trans assigned.symm, may⟩
  have here :=
    mem_submitting closes.listed closes.running justStarted justStarted
  exact ⟨attempt, _, _, graded, left, withListener_lawful "q" false, rfl,
    starts, closes, marked, ended, grades,
    (becomes [] _ .refl).2.1 reach ⟨here, rfl⟩ _ grades⟩

end Session

end ExamHall
