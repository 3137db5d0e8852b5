import ExamHall.Proofs.Exam.StartOutcome
import ExamHall.Proofs.Session.LifeCycle

/-!
# Who starts, and what a start leaves

In every state that a service reaches, a request to start an assignment ends as
`Starts` says.  It is about tests that have been generated, whose variants stand
at the positions from zero on, and whose points fit into the column for the most
that an attempt can earn.  Ids are as wide as their columns allow.
-/

namespace ExamHall

open Store ExamHall.Action

/-- The variants of a test do not give more points than an attempt can have. -/
def Store.PointsFit (store : Store) (testId : String) : Prop :=
  ∀ variant ∈ store.variants, variant.testId = testId →
    ∀ questions, variant.questions.value? = some questions →
      totalPoints questions < Column.pointsBound

/-- The ids of assignments and variants fit into their columns. -/
structure Store.IdsFit (store : Store) : Prop where
  assignments : ∀ assignment ∈ store.assignments, FitsId assignment.id
  variants : ∀ variant ∈ store.variants, FitsId variant.id

/-- What a start is answered with. -/
def Handle.startReply (now : Instant) :
    Except (Halt AttemptError) (AttemptSnapshot × Bool) →
    Except (Halt Refusal) Json
  | .ok (snapshot, resumed) => .ok (snapshot.view now (some resumed))
  | .error (.refused error) => .error (.refused (.ofAttempt error))
  | .error .outOfRange => .error .outOfRange

theorem Handle.startAttempt_ends {context : Context} {store : Store}
    {request : HttpRequest} {caller : Caller} {assignmentId : String}
    (reliable : store.IsReliable) (orderly : store.IsOrderly context.now)
    (known : Access.caller? context.settings context.now request =
      some (.ok caller))
    (can : ∀ assignment, assignment.id = assignmentId →
      Admits context.now store caller.id (Handle.accessCode request)
        assignment → CanDeal store assignment caller.id) :
    Ends context (fun world => world.store = store)
      (Handle.startAttempt request assignmentId) fun result world =>
        ∃ ended, result = Handle.startReply context.now ended ∧
          Starts context.now store caller.id assignmentId
            (Handle.accessCode request) ended
          world.store := by
  unfold Handle.startAttempt
  refine .bind (fun result world => world.store = store ∧ result = .ok caller)
    ?_ (fun found => ?_) ?_
  · rintro world same
    rw [Handle.caller_eq_ok known]
    exact ⟨same, rfl⟩
  · refine .bind (fun result world => ∃ ended, (match result with
        | .ok (snapshot, resumed) =>
            .ok (snapshot.view context.now (some resumed))
        | .error halt => .error halt) = Handle.startReply context.now ended ∧
      Starts context.now store caller.id assignmentId
        (Handle.accessCode request) ended world.store) (.mapError ?_)
        (fun shown => .reading (.pure fun world ended => ended)) ?_
    · rintro world ⟨same, ⟨⟩⟩
      have starts := Exam.start_ends reliable orderly can world same
      split
      · next ended => exact ⟨_, rfl, ended ▸ starts⟩
      · next ended => exact ⟨_, rfl, ended ▸ starts⟩
      · next ended => exact ⟨_, rfl, ended ▸ starts⟩
    · exact fun halt world ended => ended
  · rintro halt world ⟨-, failed⟩
    cases failed

namespace Session

variable {opening session : Session}

/-- In a state that the service has reached, nothing but the assignment itself
stands in the way of dealing it. -/
theorem Serves.canDeal {failing : Bool} {assignment : Assignment}
    {studentId : String} (run : Serves failing opening session)
    (lawful : opening.store.Lawful) (unused : opening.store.attempts = [])
    (papers : ∀ variant ∈ opening.store.variants, ∃ questions,
      variant.questions.value? = some questions ∧ IsPaper questions)
    (reach : session.store.outages = []) (ids : session.store.IdsFit)
    (listed : assignment ∈ session.store.assignments)
    (enrolled : ⟨assignment.id, studentId⟩ ∈ session.store.roster)
    (generated : assignment.testId ∈ opening.store.tests.map (·.id) →
      opening.store.Deals assignment.testId)
    (fits : session.store.PointsFit assignment.testId) :
    CanDeal session.store assignment studentId := by
  have sound := isSound_of_no_attempts lawful unused
  have lawful' := (Serves.sound run sound).1.lawful
  -- The tests that may fail to deal are those of the opening, without the one
  -- that is assigned.
  let others := (opening.store.tests.map (·.id)).filter (· != assignment.testId)
  have early : ∀ id ∈ opening.store.tests.map (·.id), id ∉ others →
      opening.store.Deals id := by
    intro id known other
    have same : id = assignment.testId := by
      by_contra different
      exact other (List.mem_filter.mpr ⟨known, bne_iff_ne.mpr different⟩)
    exact same ▸ generated (same ▸ known)
  have deals : ∀ id ∈ session.store.tests.map (·.id), id ∉ others →
      session.store.Deals id :=
    Serves.keeps run sound Change.deals (fun holds => holds) early
  have apart : assignment.testId ∉ others := fun inside =>
    absurd rfl (bne_iff_ne.mp (List.mem_filter.mp inside).2)
  exact
    { reliable := Serves.reliable run lawful unused papers reach
      numbered := Serves.numbered run sound (isNumbered_of_no_attempts unused)
      listed, enrolled
      deals := deals _ (lawful'.assignments.tests assignment listed) apart
      short := ids.assignments assignment listed
      shortIds := fun variant inside _ => ids.variants variant inside
      fits }

/-- Each request to start an assignment is answered as it should be, and leaves
the database as it should be.  The answer that no attempts are left has the
status 409. -/
theorem start_is_answered {request : HttpRequest} {caller : Caller}
    {assignmentId : String} (lawful : opening.store.Lawful)
    (unused : opening.store.attempts = [])
    (papers : ∀ variant ∈ opening.store.variants, ∃ questions,
      variant.questions.value? = some questions ∧ IsPaper questions)
    (run : Serves true opening session) (reach : session.store.outages = [])
    (ids : session.store.IdsFit)
    (generated : ∀ assignment ∈ session.store.assignments,
      assignment.id = assignmentId →
      (assignment.testId ∈ opening.store.tests.map (·.id) →
        opening.store.Deals assignment.testId) ∧
      session.store.PointsFit assignment.testId)
    (known : Access.caller? session.settings session.now request =
      some (.ok caller)) :
    let answered := Handle.startAttempt request assignmentId session.context
      ⟨session.store, []⟩
    ∃ ended, answered.1 = Handle.startReply session.now ended ∧
        Starts session.now session.store caller.id assignmentId
          (Handle.accessCode request) ended answered.2.store ∧
        (Refusal.ofAttempt .noAttemptsLeft).reply.status = 409 := by
  intro answered
  have sound := isSound_of_no_attempts lawful unused
  have reached := (Serves.sound run sound).1
  have reliable : session.store.IsReliable :=
    { lawful := reached.lawful
      reach
      papers := Serves.keeps run sound
        (fun change _ => change.papers) (fun holds => holds) papers
      sheets := Serves.keepsSheets run lawful unused }
  have ends :
      Ends session.context _ (Handle.startAttempt request assignmentId) _ :=
    Handle.startAttempt_ends reliable reached.orderly known
      fun assignment same admits =>
        Serves.canDeal run lawful unused papers reach ids admits.listed
          admits.enrolled (generated assignment admits.listed same).1
          (generated assignment admits.listed same).2
  obtain ⟨ended, same, starts⟩ := ends ⟨session.store, []⟩ rfl
  exact ⟨ended, same, starts, rfl⟩

/-! ## At the ends of time -/

/-- The only student. -/
def onlyStudent : Caller := ⟨"s", .student⟩

theorem withOneStudent_admits (now : Instant) :
    ∀ assignment ∈ (withOneStudent now).store.assignments,
      Admits now (withOneStudent now).store onlyStudent.id none assignment :=
  List.forall_mem_singleton.mpr
    { listed := List.mem_singleton_self _
      active := rfl
      begun := Int.le_refl _
      unfinished := Int.le_refl _
      enrolled := List.mem_singleton_self _
      accessCode := rfl }

theorem withOneStudent_deals (now : Instant) :
    (withOneStudent now).store.Deals "t" := by
  have dealt : (withOneStudent now).store.variants.filter (·.testId == "t") =
      (withOneStudent now).store.variants := by
    rw [List.filter_eq_self]
    exact List.forall_mem_singleton.mpr (beq_self_eq_true "t")
  unfold Store.Deals
  rw [dealt]
  exact ⟨List.cons_ne_nil _ _, rfl⟩

theorem withOneStudent_pointsFit (now : Instant) :
    (withOneStudent now).store.PointsFit "t" := by
  refine List.forall_mem_singleton.mpr ?_
  rintro - questions ⟨⟩
  rw [totalPoints, List.map_singleton, List.sum_singleton, Decimal.toRat_one]
  exact Nat.one_lt_cast.mpr (by decide)

theorem withOneStudent_idsFit (now : Instant) :
    (withOneStudent now).store.IdsFit := by
  have assignment : FitsId "a" := ⟨by decide +kernel, by decide⟩
  have variant : FitsId "v" := ⟨by decide +kernel, by decide⟩
  exact ⟨List.forall_mem_singleton.mpr assignment,
    List.forall_mem_singleton.mpr variant⟩

theorem withOneStudent_canDeal (now : Instant) :
    ∀ assignment ∈ (withOneStudent now).store.assignments,
      CanDeal (withOneStudent now).store assignment onlyStudent.id :=
  List.forall_mem_singleton.mpr <| @Serves.canDeal (withOneStudent now) _ true _
    onlyStudent.id .refl (withOneStudent_lawful now)
      rfl (withOneStudent_papers now) rfl (withOneStudent_idsFit now)
        (List.mem_singleton_self _)
      (List.mem_singleton_self _) (fun _ => withOneStudent_deals now)
      (withOneStudent_pointsFit now)

/-- In the last minute of the calendar no attempt is started at all, and at a
time between two microseconds an attempt does not start just now. -/
theorem start_falls_short_of_the_clock :
    (¬∀ (session : Session) (caller : Caller) (assignment : Assignment),
      session.store.attempts = [] → CanDeal session.store assignment caller.id →
      Admits session.now session.store caller.id none assignment →
      (Exam.start caller assignment.id none session.context
        ⟨session.store, []⟩).2.store.attempts.length = 1) ∧
    ¬∀ (session : Session) (caller : Caller) (assignment : Assignment),
      session.store.attempts = [] → CanDeal session.store assignment caller.id →
      Admits session.now session.store caller.id none assignment → ∀ attempt ∈
        (Exam.start caller assignment.id none session.context
          ⟨session.store, []⟩).2.store.attempts,
        attempt.startedAt = session.now := by
  constructor
  · intro claimed
    -- A minute later is outside the calendar.
    let last : Instant := ⟨Calendar.stop.nanos - 1⟩
    have one := claimed (withOneStudent last) onlyStudent _ rfl
      (withOneStudent_canDeal last _ (List.mem_singleton_self _))
      (withOneStudent_admits last _ (List.mem_singleton_self _))
    revert one
    decide +kernel
  · intro claimed
    let between : Instant := ⟨Column.origin.nanos + 1⟩
    have same := claimed (withOneStudent between) onlyStudent _ rfl
      (withOneStudent_canDeal between _ (List.mem_singleton_self _))
      (withOneStudent_admits between _ (List.mem_singleton_self _))
    revert same
    decide +kernel

/-- The request of the only student to start the test. -/
def startRequest : HttpRequest :=
  (withOneStudent Column.origin).signed ⟨.post, "/assignments/a/start", "", [],
    ""⟩ (.token "s" .student 60)

/-- The request of the only student is answered as it should be. -/
theorem withOneStudent_start_is_answered :
    let session := withOneStudent Column.origin
    session.store.Lawful ∧ session.store.attempts = [] ∧
      session.store.outages = [] ∧ session.store.IdsFit ∧
      session.store.PointsFit "t" ∧ session.store.Deals "t" ∧
      Access.caller? session.settings session.now startRequest =
        some (.ok onlyStudent) ∧
      ∃ ended, Starts session.now session.store "s" "a"
          (Handle.accessCode startRequest) ended (Handle.startAttempt
            startRequest "a" session.context ⟨session.store, []⟩).2.store := by
  intro session
  have lawful : session.store.Lawful := withOneStudent_lawful _
  have ids : session.store.IdsFit := withOneStudent_idsFit _
  have fits : session.store.PointsFit "t" := withOneStudent_pointsFit _
  have deals : session.store.Deals "t" := withOneStudent_deals _
  have known : Access.caller? session.settings session.now startRequest =
      some (.ok onlyStudent) := by
    decide +kernel
  have generated : ∀ assignment ∈ session.store.assignments,
      assignment.id = "a" →
      (assignment.testId ∈ session.store.tests.map (·.id) →
        session.store.Deals assignment.testId) ∧
      session.store.PointsFit assignment.testId :=
    List.forall_mem_singleton.mpr fun _ => ⟨fun _ => deals, fits⟩
  obtain ⟨ended, -, starts, -⟩ := start_is_answered lawful
    rfl (withOneStudent_papers _) .refl rfl ids generated known
  exact ⟨lawful, rfl, rfl, ids, fits, deals, known, ended, starts⟩

end Session

end ExamHall
