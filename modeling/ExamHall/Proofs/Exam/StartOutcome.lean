import ExamHall.Proofs.Exam.Expiring
import ExamHall.Proofs.Exam.Settling
import ExamHall.Proofs.Exam.Sitting

/-!
# What a start comes to

A start is refused, or its transaction decides how it goes on.  Whoever is
admitted resumes the attempt in progress before its deadline.  Otherwise an
attempt whose time is up is submitted and graded, and the next attempt is dealt
as long as attempts are left.
-/

namespace ExamHall.Exam

open Store

/-- What a start does after its transaction. -/
def concludeStart : StartStep → Action AttemptError (AttemptSnapshot × Bool)
  | .resumed attempt => do
    pure (← snapshotOf attempt, true)
  | .exhausted timedOut => do
    completeTimedOut timedOut
    Action.refuse .noAttemptsLeft
  | .started timedOut attempt variant => do
    completeTimedOut timedOut
    Action.publish
      { kind := .started, attempt
        answeredCount := 0
        questionCount := variant.questions.length
        occurredAt := (← read).now }
    pure ({ attempt, variant, answers := [] }, false)

variable {context : Context} {world : World} {caller : Caller}
  {assignmentId : String} {accessCode : Option String}

/-- A start that has not been refused makes what its transaction does, and goes
on from there. -/
theorem start_cases (lawful : world.store.Lawful) :
    (∃ halt, start caller assignmentId accessCode context world =
      (.error halt, world)) ∨ ∃ assignment step after,
      assignment.id = assignmentId ∧
      Admits context.now world.store caller.id accessCode assignment ∧
      StartsAs context.now world.store assignment caller.id step after ∧
      start caller assignmentId accessCode context world =
        concludeStart step context { world with store := after } := by
  obtain ⟨same, decided⟩ :=
    @admitted_decides context caller assignmentId accessCode world world rfl
  rcases admission : admitted caller assignmentId accessCode context world
    with ⟨halt | assignment, left⟩
  · rw [admission] at same
    obtain rfl : left = world := same
    exact .inl ⟨halt, Action.bind_apply_of_error admission⟩
  · rw [admission] at same decided
    obtain rfl : left = world := same
    obtain ⟨sameId, admits⟩ := decided
    unfold start
    rw [Action.bind_apply_of_ok admission, Action.read_bind_apply]
    cases ended :
        startTransaction assignment caller.id context.now left.store with
    | error halt => exact .inl ⟨halt,
      Action.bind_apply_of_error (Action.commit_of_error ended)⟩
    | ok step =>
        obtain ⟨step, after⟩ := step
        rw [Action.bind_apply_of_ok (Action.commit_of_ok ended)]
        refine .inr ⟨assignment, step, after, sameId, admits,
          startTransaction_startsAs lawful admits.listed admits.window
            admits.enrolled ended, ?_⟩
        cases step <;> rfl

end ExamHall.Exam

namespace ExamHall

open Store ExamHall.Action

/-- What is shown of an attempt that is resumed: its variant and exactly the
answers that have been saved. -/
structure IsSnapshot (store : Store) (attempt : Attempt)
    (snapshot : AttemptSnapshot) : Prop where
  same : snapshot.attempt = attempt
  variant : ∃ row ∈ store.variants, row.id = attempt.variantId ∧
    row.read? = some snapshot.variant
  answers : (store.sheet attempt.id).mapM SavedAnswer.read? =
    some snapshot.answers

/-- The attempt that a student starts now.  Its times are the ones that the
table keeps of now and of so many minutes later. -/
structure Begins (now : Instant) (store : Store) (assignment : Assignment)
    (studentId : String) (attempt : Attempt) : Prop where
  own : isOf assignment.id studentId attempt = true
  running : attempt.status = .inProgress
  number :
    attempt.number = store.attempts.countP (isOf assignment.id studentId) + 1
  startedAt : attempt.startedAt = Column.time now
  deadlineAt : attempt.deadlineAt =
    Column.time ⟨now.nanos + assignment.durationMinutes * Instant.minute⟩

/-- How a start ends, and what it leaves of the store.  It is denied to whom no
assignment with the id admits.  Otherwise it resumes the attempt in progress
before its deadline; or it has that attempt submitted as of its deadline and
graded, and starts the next one, or refuses to as no attempts are left.  Nothing
happens if the deadline of the next attempt were outside the calendar. -/
inductive Starts (now : Instant) (store : Store)
    (studentId assignmentId : String) (accessCode : Option String) :
    Except (Halt AttemptError) (AttemptSnapshot × Bool) → Store → Prop where
  | denied {error : AttemptError}
      (unadmitted : ∀ assignment, assignment.id = assignmentId →
        ¬Admits now store studentId accessCode assignment)
      (denies : error.deniesStart = true) : Starts now store studentId
      assignmentId accessCode (.error (.refused error)) store
  | resumed {assignment : Assignment} {attempt : Attempt}
      {snapshot : AttemptSnapshot} (same : assignment.id = assignmentId)
      (admits : Admits now store studentId accessCode assignment)
      (listed : attempt ∈ store.attempts)
      (running : IsRunning assignmentId studentId attempt)
      (inTime : now < attempt.deadlineAt)
      (shown : IsSnapshot store attempt snapshot) : Starts now store studentId
      assignmentId accessCode (.ok (snapshot, true)) store
  | started {assignment : Assignment} {attempt : Attempt}
      {variant : Variant (List VariantQuestion)} {settled : List Attempt}
      {after : Store} (same : assignment.id = assignmentId)
      (admits : Admits now store studentId accessCode assignment)
      (late : ∀ attempt ∈ store.attempts,
        IsRunning assignmentId studentId attempt → attempt.deadlineAt ≤ now)
      (left : (store.attempts.countP (isOf assignmentId studentId) : Int) <
        assignment.maxAttempts)
      (begins : Begins now store assignment studentId attempt)
      (dealt : ∃ row ∈ store.variants,
        row.id = attempt.variantId ∧ row.read? = some variant)
      (timedOut : TimesOut assignmentId studentId store.attempts settled)
      (attempts : after.attempts = settled ++ [attempt]) :
      Starts now store studentId assignmentId accessCode
        (.ok (⟨attempt, variant, []⟩, false)) after
  | exhausted {assignment : Assignment} {after : Store}
      (same : assignment.id = assignmentId)
      (admits : Admits now store studentId accessCode assignment)
      (late : ∀ attempt ∈ store.attempts,
        IsRunning assignmentId studentId attempt → attempt.deadlineAt ≤ now)
      (spent : assignment.maxAttempts ≤
        store.attempts.countP (isOf assignmentId studentId))
      (timedOut : TimesOut assignmentId studentId store.attempts
        after.attempts) : Starts now store studentId assignmentId accessCode
      (.error (.refused .noAttemptsLeft)) after
  | endless {assignment : Assignment} (same : assignment.id = assignmentId)
      (admits : Admits now store studentId accessCode assignment)
      (late : ∀ attempt ∈ store.attempts,
        IsRunning assignmentId studentId attempt → attempt.deadlineAt ≤ now)
      (left : (store.attempts.countP (isOf assignmentId studentId) : Int) <
        assignment.maxAttempts) (outside : Calendar.holds
          ⟨now.nanos + assignment.durationMinutes * Instant.minute⟩ = false) :
      Starts now store studentId assignmentId accessCode
        (.error .outOfRange) store

variable {now : Instant} {store : Store} {assignment : Assignment}
  {studentId : String}

theorem Opens.variantId {variant : Variant (Stored (List VariantQuestion))}
    {attempt : Attempt} (opens : Opens now store assignment variant attempt) :
    attempt.variantId = variant.id := by
  obtain ⟨_, _, _, _, -, -, -, -, begun⟩ := opens.begun
  rw [begun]
  rfl

/-- Submitting an attempt before does not change the number of the attempt that
begins. -/
theorem Expires.begins {pending : Option Attempt} {middle : Store}
    {attempt : Attempt} {variant : Variant (Stored (List VariantQuestion))}
    (expires : Expires now store assignment.id studentId pending middle)
    (positive : 0 < assignment.durationMinutes)
    (opens : Opens now middle assignment variant attempt)
    (student : attempt.studentId = studentId) :
    Begins now store assignment studentId attempt := by
  obtain ⟨_, _, _, deadlineAt, -, -, -, due, begun⟩ := opens.begun
  have span :
      deadlineAt = ⟨now.nanos + assignment.durationMinutes * Instant.minute⟩ :=
    congrArg Instant.mk (deadline?_nanos positive due)
  rw [student, expires.count, span] at begun
  rw [begun]
  exact ⟨isOf_eq_true.mpr ⟨rfl, rfl⟩, rfl, rfl, rfl, rfl⟩

namespace Exam

/-- The attempt that a student has in progress is found, if there is one. -/
theorem exists_attemptInProgress? (can : CanDeal store assignment studentId) :
    ∃ found, attemptInProgress? assignment.id studentId
        store = .ok (found, store) ∧ match found with
      | none =>
          ∀ attempt ∈ store.attempts, ¬IsRunning assignment.id studentId attempt
      | some attempt =>
          attempt ∈ store.attempts ∧
          IsRunning assignment.id studentId attempt := by
  have student : FitsId studentId :=
    can.reliable.lawful.assignments.students _ can.enrolled
  refine ⟨_, attemptInProgress?_eq_ok.mpr ⟨⟨can.short.plain, student.plain⟩,
    canReach_of_noOutages can.reliable.reach _, rfl, rfl⟩, ?_⟩
  cases found : store.attempts.find? fun attempt => isOf assignment.id studentId
      attempt && decide (attempt.status = .inProgress) with
  | none =>
      intro attempt listed running
      have missed := List.find?_eq_none.mp found attempt listed
      rw [running.1, decide_eq_true running.2] at missed
      exact missed rfl
  | some attempt =>
      have selected := List.find?_some found
      rw [Bool.and_eq_true, decide_eq_true_eq] at selected
      exact ⟨List.mem_of_find?_eq_some found, selected⟩

/-- The next attempt is opened if one is left and its deadline lies within the
calendar. -/
theorem openNext_cases {pending : Option Attempt} {middle : Store}
    (expires : Expires now store assignment.id studentId pending middle)
    (can : CanDeal store assignment studentId)
    (window : assignment.window now = .open) :
    (∃ step after, openNext assignment studentId pending now middle =
      .ok (step, after) ∧ StartsAs now store assignment studentId step after) ∨
    (openNext assignment studentId pending now middle = .error .outOfRange ∧
      (store.attempts.countP (isOf assignment.id studentId) : Int) <
        assignment.maxAttempts ∧
      deadline? now assignment.durationMinutes = none) := by
  have can' := expires.canDeal can
  have lawful := can'.reliable.lawful
  have student : FitsId studentId := lawful.assignments.students _ can'.enrolled
  have counted := countAttempts_eq_ok.mpr ⟨⟨can'.short.plain, student.plain⟩,
    canReach_of_noOutages can'.reliable.reach _, rfl, rfl⟩
  unfold openNext
  rw [bind_of_ok (Transaction.lift_eq_ok.mpr counted)]
  by_cases spent : assignment.maxAttempts ≤
    (middle.attempts.countP (isOf assignment.id studentId) : Int)
  · rw [if_pos spent]
    exact .inl ⟨_, _, rfl, .exhausted expires (expires.count ▸ spent)⟩
  rw [if_neg spent]
  cases due : deadline? now assignment.durationMinutes with
  | none => exact .inr ⟨bind_of_error (dealNext_outOfRange can' due _),
    expires.count ▸ Int.not_le.mp spent, rfl⟩
  | some deadlineAt =>
      obtain ⟨attempt, variant, after, dealt⟩ :=
        exists_dealNext can' (fun other listed own running =>
          expires.idle can.reliable.lawful other listed ⟨own, running⟩) due
      obtain ⟨row, issued, opens, read, same, rfl⟩ := dealNext_opens lawful
        can'.listed window can'.enrolled (Int.not_le.mp spent) dealt
      rw [bind_of_ok dealt]
      exact .inl ⟨_, _, rfl, .started expires opens read same⟩

/-- The transaction of a start ends well, unless the deadline of the next
attempt leaves the calendar. -/
theorem startTransaction_cases (can : CanDeal store assignment studentId)
    (window : assignment.window now = .open) :
    (∃ step after, startTransaction assignment studentId now store =
      .ok (step, after) ∧ StartsAs now store assignment studentId step after) ∨
    (startTransaction assignment studentId now store = .error .outOfRange ∧
      (∃ pending middle, Expires now store assignment.id studentId pending
        middle) ∧ (store.attempts.countP (isOf assignment.id studentId) : Int) <
        assignment.maxAttempts ∧
      deadline? now assignment.durationMinutes = none) := by
  have student : FitsId studentId :=
    can.reliable.lawful.assignments.students _ can.enrolled
  have locked : lockSitter assignment.id studentId store = .ok ((), store) :=
    Statement.plain_eq_ok.mpr ⟨by simp [can.short.plain, student.plain], rfl⟩
  obtain ⟨found, looked, present⟩ := exists_attemptInProgress? can
  unfold startTransaction
  rw [bind_of_ok (Transaction.lift_eq_ok.mpr locked),
    bind_of_ok (Transaction.lift_eq_ok.mpr looked)]
  cases found with
  | none =>
      have vacant : Expires now store _ _ _ _ := .vacant present
      exact (openNext_cases vacant can window).imp_right fun failed =>
        ⟨failed.1, ⟨_, _, vacant⟩, failed.2⟩
  | some existing =>
      obtain ⟨listed, running⟩ := present
      simp only []
      by_cases passed : isExpired existing.deadlineAt now = true
      · have only :=
          find?_hasStatus can.reliable.lawful.sittings.ids listed running.2
        have marked :
            markSubmitted existing.id existing.deadlineAt now store = _ :=
          markSubmitted_eq_ok.mpr
            ⟨(can.reliable.lawful.sittings.keys existing listed).plain,
              canReach_of_noOutages can.reliable.reach _, rfl, rfl⟩
        rw [if_pos passed, bind_of_ok (Transaction.lift_eq_ok.mpr marked), only]
        have expired :=
          Expires.expired listed running (isExpired_eq_true.mp passed)
        exact (openNext_cases expired can window).imp_right fun failed =>
          ⟨failed.1, ⟨_, _, expired⟩, failed.2⟩
      · rw [if_neg passed]
        exact .inl ⟨_, _, rfl,
          .resumed listed running (lt_of_not_isExpired passed)⟩

/-! ## The whole operation -/

/-- A snapshot of an attempt shows the answers that its sheet reads as. -/
theorem snapshotOf_answers {context : Context} {attempt : Attempt} :
    Ends context
      (fun world => world.store = store) (snapshotOf attempt) fun result _ =>
        ∀ snapshot, result = .ok snapshot →
          (store.sheet attempt.id).mapM SavedAnswer.read? =
            some snapshot.answers := by
  refine .bind (fun _ world => world.store = store)
    (.readQuery (isRead_variant _) ?_ ?_)
    (fun variant => ?_) fun _ _ _ _ failed => nomatch failed
  · exact fun _ begun _ _ => begun
  · exact fun _ begun _ _ => begun
  · refine .bind (fun result _ => ∀ answers, result = .ok answers →
      (store.sheet attempt.id).mapM SavedAnswer.read? = some answers)
      (.readQuery (isRead_answersOf _) ?_ ?_) (fun answers => .pure ?_)
      fun _ _ _ _ failed => nomatch failed
    · rintro world rfl answers read _ ⟨⟩
      exact (answersOf_eq_ok.mp read).2.2.2
    · exact fun _ _ _ _ _ failed => nomatch failed
    · rintro world read _ ⟨⟩
      exact read answers rfl

/-- Reading an attempt that is there, or was there as given, shows its variant
and its answers. -/
theorem snapshotOf_ends {context : Context} {attempt row : Attempt}
    (reliable : store.IsReliable) (listed : row ∈ store.attempts)
    (id : attempt.id = row.id) (variantId : attempt.variantId = row.variantId) :
    Ends context (fun world => world.store = store) (snapshotOf attempt)
      fun result world => world.store = store ∧
    ∃ snapshot, result = .ok snapshot ∧ IsSnapshot store attempt snapshot := by
  obtain ⟨questions, ⟨dealtRow, dealt, same, read⟩, paper, sitting⟩ :=
    reliable.exists_sitting listed
  rw [← variantId] at same
  have shown : Store.variant attempt.variantId store =
      .ok ({ dealtRow with questions }, store) := by
    refine variant_eq_ok.mpr
      ⟨same ▸ (reliable.lawful.tests.variantKeys dealtRow dealt).plain,
        canReach_of_noOutages reliable.reach _, rfl, dealtRow,
        same ▸ find?_key_eq_some reliable.lawful.tests.variantIds dealt, ?_⟩
    rw [Variant.read?, read]
    rfl
  obtain ⟨answers, found, answered⟩ := exists_answersOf
    (reliable.lawful.sittings.keys row listed).plain reliable.reach sitting.rows
  rw [← id] at found answered
  refine .bind_query shown (.bind_query found (.pure fun world reached => ?_))
  refine ⟨reached, _, rfl, rfl, ⟨dealtRow, dealt, same, ?_⟩, answered⟩
  rw [Variant.read?, read]
  rfl

/-- An attempt whose time is up is graded before the start goes on. -/
theorem completeTimedOut_ends {context : Context} {pending : Option Attempt}
    {middle opened : Store} {added : List Attempt}
    (expires : Expires context.now store assignment.id studentId pending middle)
    (reliable : store.IsReliable) (orderly : store.IsOrderly context.now)
    (attempts : opened.attempts = middle.attempts ++ added)
    (running : ∀ attempt ∈ added, attempt.status = .inProgress)
    (still : opened.IsReliable) :
    Ends context (fun world => world.store = opened) (completeTimedOut pending)
      fun result world => result = .ok () ∧ ∃ settled,
      TimesOut assignment.id studentId store.attempts settled ∧
      world.store.attempts = settled ++ added := by
  cases pending with
  | none =>
      refine .pure fun world same =>
        ⟨rfl, middle.attempts, ?_, by rw [same]; exact attempts⟩
      cases expires with
      | vacant idle => exact timesOut_of_idle idle
  | some submitted =>
      have waits : submitted ∈ opened.attempts :=
        attempts ▸ List.mem_append_left _ expires.mem
      have plain := (still.lawful.sittings.keys submitted waits).plain
      unfold completeTimedOut
      refine .bind _ (complete_ends still.lawful) (fun graded =>
          .pure fun world reached => ?_) fun halt world reached => ?_
      · exact ⟨rfl, expires.completes reliable.lawful orderly attempts running
          still reached.1⟩
      · obtain ⟨_, graded⟩ := reached.2.1 still plain
        cases graded

/-- Each start ends in one of five ways, and the store says in which. -/
theorem start_ends {context : Context} {caller : Caller} {assignmentId : String}
    {accessCode : Option String}
    (reliable : store.IsReliable) (orderly : store.IsOrderly context.now)
    (can : ∀ assignment, assignment.id = assignmentId →
      Admits context.now store caller.id accessCode assignment →
      CanDeal store assignment caller.id) :
    Ends context (fun world => world.store = store)
      (start caller assignmentId accessCode) fun result world =>
        Starts context.now store caller.id assignmentId accessCode result
          world.store := by
  unfold start
  refine Decides.bind_ends (fun world same => same ▸ admitted_decides world) ?_
    ?_
  · rintro assignment ⟨rfl, admits⟩
    have ready := can assignment rfl admits
    apply Ends.reading
    rcases startTransaction_cases ready admits.window with
      ⟨step, after, ended, startsAs⟩
        | ⟨failed, ⟨pending, middle, expires⟩, left, none⟩
    · refine .bind_commit ended ?_
      cases startsAs with
      | resumed listed running inTime =>
          refine .bind _ (snapshotOf_ends reliable listed rfl rfl)
            (fun snapshot => .pure ?_) ?_
          · rintro world ⟨same, _, ⟨⟩, shown⟩
            rw [same]
            exact .resumed rfl admits listed running inTime shown
          · rintro halt world ⟨-, _, failed, -⟩
            cases failed
      | exhausted expires spent =>
          refine .bind _ (completeTimedOut_ends expires reliable orderly
              (List.append_nil _).symm (List.forall_mem_nil _)
              (expires.reached.reliable reliable)) (fun _ => .refuse ?_) ?_
          · rintro world ⟨-, settled, timedOut, same⟩
            rw [List.append_nil] at same
            exact .exhausted rfl admits (expires.late reliable.lawful) spent
              (same ▸ timedOut)
          · rintro halt world ⟨failed, -⟩
            cases failed
      | @started pending middle attempt issued row variant expires opens read
          student =>
          have begins := expires.begins
            (reliable.lawful.assignments.duration _ admits.listed) opens student
          have opened : Change context.now middle { middle with
              attempts := middle.attempts ++ [attempt], issued } :=
                .opened opens
          have still := opened.reliable (expires.reached.reliable reliable)
          refine .bind _ (completeTimedOut_ends expires reliable orderly
              rfl (List.forall_mem_singleton.mpr begins.running) still)
            (fun _ => ?_) ?_
          · refine .reading
              (.bind_publish (fun _ _ reached => reached) (.pure ?_))
            rintro world ⟨-, settled, timedOut, same⟩
            exact .started rfl admits (expires.late reliable.lawful)
              (expires.count ▸ student ▸ opens.left) begins
              ⟨row, expires.variants ▸ opens.dealt, opens.variantId.symm,
                read⟩ timedOut same
          · rintro halt world ⟨failed, -⟩
            cases failed
    · refine .bind_commit_error failed fun world same => ?_
      rw [same]
      exact .endless rfl admits (expires.late reliable.lawful) left
        (deadline?_eq_none
          (reliable.lawful.assignments.duration _ admits.listed) none)
  · rintro halt world denies same
    obtain ⟨error, rfl, denied⟩ := denies.refused
    rw [same]
    exact .denied (denies.justified reliable.lawful reliable.reach) denied

end Exam

end ExamHall
