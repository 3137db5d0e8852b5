import ExamHall.Proofs.Exam.Interleaving
import ExamHall.Proofs.Exam.StartOutcome
import ExamHall.Proofs.Exam.Working

/-!
# Before and after the deadline

Work on an attempt is refused as too late from the deadline on, and for no other
reason.  What comes too late closes the attempt as of its deadline, and leaves
exactly what submitting the attempt at that time leaves.
-/

namespace ExamHall

open Store

/-! ## What is not the reason of a refusal -/

theorem Halt.refused_ne {ε α : Type} {error other : ε}
    (differs : other ≠ error) :
    (.error (.refused other) : Except (Halt ε) α) ≠
      .error (.refused error) := by
  rintro ⟨⟩
  exact differs rfl

namespace Transaction

variable {ε α β : Type} {error : ε}

/-- A transaction is not refused for a reason. -/
def Avoids (error : ε) (transaction : Transaction ε α) : Prop :=
  ∀ store, transaction store ≠ .error (.refused error)

namespace Avoids

theorem pure (value : α) : Avoids error (Pure.pure value) :=
  fun _ => nofun

theorem bind {first : Transaction ε α} {next : α → Transaction ε β}
    (started : Avoids error first)
    (continued : ∀ value, Avoids error (next value)) :
    Avoids error (first >>= next) := by
  intro store
  cases ended : first store with
  | ok step =>
      rw [bind_of_ok ended]
      exact continued step.1 step.2
  | error halt =>
      rw [bind_of_error ended]
      rintro ⟨⟩
      exact started store ended

theorem refuse {other : ε} (differs : other ≠ error) :
    Avoids error (Transaction.refuse other : Transaction ε α) :=
  fun _ => Halt.refused_ne differs

theorem require {holds : Bool} {other : ε} (differs : other ≠ error) :
    Avoids error (Transaction.require holds other) := by
  intro store
  cases holds with
  | true => exact nofun
  | false => exact Halt.refused_ne differs

theorem demand {found : Option α} {other : ε} (differs : other ≠ error) :
    Avoids error (Transaction.demand found other) := by
  intro store
  cases found with
  | some value => exact nofun
  | none => exact Halt.refused_ne differs

theorem lift [ReportsFaults ε] {statement : Statement α}
    (differs : ∀ fault, ReportsFaults.ofFault fault ≠ error) :
    Avoids error (liftM statement : Transaction ε α) := by
  intro store
  cases ended : statement store with
  | ok step =>
      rw [lift_eq_ok.mpr ended]
      exact nofun
  | error fault =>
      rw [lift_of_error ended]
      exact Halt.refused_ne (differs fault)

theorem attempt {part : Transaction ε α} :
    Avoids error (Transaction.attempt part) := by
  intro store
  unfold Transaction.attempt
  split <;> nofun

end Avoids

end Transaction

namespace Action

variable {ε α β : Type} {error : ε} {context : Context}

/-- An action is not refused for a reason. -/
def Avoids (context : Context) (error : ε) (action : Action ε α) : Prop :=
  ∀ world, (action context world).1 ≠ .error (.refused error)

namespace Avoids

theorem pure (value : α) : Avoids context error (Pure.pure value) :=
  fun _ => nofun

theorem bind {first : Action ε α} {next : α → Action ε β}
    (started : Avoids context error first)
    (continued : ∀ value, Avoids context error (next value)) :
    Avoids context error (first >>= next) := by
  intro world
  rcases ended : first context world with ⟨halt | value, middle⟩
  · rw [bind_apply_of_error ended]
    rintro ⟨⟩
    exact started world (congrArg Prod.fst ended)
  · rw [bind_apply_of_ok ended]
    exact continued value middle

theorem commit {transaction : Transaction ε α}
    (avoids : transaction.Avoids error) :
    Avoids context error (Action.commit transaction) := by
  intro world
  cases ended : transaction world.store with
  | ok step =>
      rw [commit_of_ok ended]
      exact nofun
  | error halt =>
      rw [commit_of_error ended]
      rintro ⟨⟩
      exact avoids world.store ended

theorem query [ReportsFaults ε] {statement : Statement α}
    (differs : ∀ fault, ReportsFaults.ofFault fault ≠ error) :
    Avoids context error (Action.query statement) :=
  commit (.lift differs)

theorem outcome {action : Action ε α} :
    Avoids context error (Action.outcome action : Action ε (Except ε α)) := by
  intro world
  unfold Action.outcome
  split <;> nofun

theorem publish {event : ProgressEvent} :
    Avoids context error (Action.publish event) := by
  intro world
  unfold Action.publish
  split <;> nofun

end Avoids

end Action

namespace Exam

open ExamHall.Action

variable {context : Context} {store : Store} {caller : Caller}
  {attemptId : String} {attempt : Attempt}

/-! ## Work on an attempt -/

/-- Faults of the store are not reported as lateness. -/
theorem ofFault_ne_timeExpired (fault : StorageFault) :
    ReportsFaults.ofFault fault ≠ AttemptError.timeExpired :=
  nofun

theorem notify_avoids {error : AttemptError} {kind : ProgressKind}
    {variant : Variant (List VariantQuestion)} :
    Action.Avoids context error (notify kind attempt variant) :=
  .bind .outcome fun _ => .publish

/-- Completing an attempt is refused for no reason at all. -/
theorem complete_avoids {error : AttemptError} {submitted : Attempt} :
    Action.Avoids context error (complete submitted) := by
  have announced : Action.Avoids context error (announce submitted) :=
    .bind .outcome fun found => match found with
      | .ok _ => notify_avoids
      | .error _ => .pure ()
  refine .bind announced fun _ => .bind .outcome fun ended => ?_
  split <;> exact .pure _

theorem saveOne_avoids {variant : Variant (List VariantQuestion)}
    {now : Instant} {input : AnswerInput} :
    Transaction.Avoids .timeExpired (saveOne attempt variant now input) := by
  refine .bind (.demand nofun) fun question =>
    .bind (.require nofun) fun _ => ?_
  dsimp only
  split
  · exact .lift ofFault_ne_timeExpired
  · exact .bind (.refuse nofun) fun value => .lift ofFault_ne_timeExpired

theorem saveEach_avoids {variant : Variant (List VariantQuestion)}
    {now : Instant} {inputs : List AnswerInput} :
    Transaction.Avoids .timeExpired (saveEach attempt variant now inputs) := by
  induction inputs with
  | nil => exact .pure _
  | cons input rest ih =>
      exact .bind .attempt fun result => .bind ih fun outcome => .pure _

theorem escalate_avoids {assignment : Assignment} {now : Instant} :
    Transaction.Avoids .timeExpired (escalate attempt assignment now) := by
  unfold escalate
  dsimp only
  split
  · exact .pure _
  · exact .pure _
  · exact .bind (.lift ofFault_ne_timeExpired) fun _ => .pure _
  · exact .bind (.lift ofFault_ne_timeExpired) fun _ =>
      .bind (.lift ofFault_ne_timeExpired) fun _ => .pure _

/-- An operation works on an attempt: its work has to be done in time, and
nothing else is refused as late. -/
def IsWork {α : Type} (caller : Caller) (attemptId : String)
    (operation : Action AttemptError α) :
    Prop :=
  ∀ context, ∃ (β : Type) (work : Attempt → Transaction AttemptError β)
    (next : β → Action AttemptError α), operation context =
    (Action.commit (whileOpen caller attemptId context.now work) >>=
      fun entry => settleEntry entry >>= next) context ∧
    (∀ attempt, Transaction.Avoids .timeExpired (work attempt)) ∧
    ∀ value, Action.Avoids context .timeExpired (next value)

theorem save_isWork {input : AnswerInput} :
    IsWork caller attemptId (save caller attemptId input) :=
  fun _ => ⟨_, _, _, rfl, fun _ => .bind (.lift ofFault_ne_timeExpired) fun _ =>
      .bind saveOne_avoids fun _ => .pure _,
      fun _ => .bind notify_avoids fun _ => .pure _⟩

theorem saveBatch_isWork {inputs : List AnswerInput} :
    IsWork caller attemptId (saveBatch caller attemptId inputs) := by
  refine fun context =>
    ⟨_, _, _, rfl, fun _ => .bind (.lift ofFault_ne_timeExpired) fun _ =>
    .bind saveEach_avoids fun _ => .pure _, fun worked => ?_⟩
  change Action.Avoids context _ (if _ then _ else _)
  split
  · exact .pure _
  · exact .bind notify_avoids fun _ => .pure _

theorem reportViolation_isWork :
    IsWork caller attemptId (reportViolation caller attemptId) := by
  refine fun context => ⟨_, _, _, rfl, fun _ => ?_, fun violation => ?_⟩
  · exact .bind (.lift ofFault_ne_timeExpired) fun _ =>
      .bind (.lift ofFault_ne_timeExpired) fun _ =>
      .bind (.demand nofun) fun _ => escalate_avoids
  · refine .bind (.query ofFault_ne_timeExpired) fun variant => ?_
    split
    · exact .bind notify_avoids fun _ => .pure _
    · exact .bind notify_avoids fun _ => .bind complete_avoids fun _ => .pure _

/-! ## Closing an attempt -/

/-- The tables after an attempt has been submitted as of a time and
completed. -/
def closing (context : Context) (store : Store) (attempt : Attempt)
    (submittedAt : Instant) : Store :=
  (complete (submitted submittedAt context.now attempt) context
    ⟨store.submitting attempt.id submittedAt context.now, []⟩).2.store

theorem exists_completed (context : Context) {submittedAt : Instant}
    (reliable : store.IsReliable)
    (closes : Closes context.now store attempt submittedAt) :
    ∃ given published, complete (submitted submittedAt context.now attempt)
        context ⟨store.submitting attempt.id submittedAt context.now, []⟩ =
        (.ok given, ⟨closing context store attempt submittedAt, published⟩) ∧
      Attempt.Kept attempt given ∧
      Finishes context.now store attempt submittedAt
        (closing context store attempt submittedAt) := by
  have finished :
      Ends context _ (complete (submitted submittedAt context.now attempt)) _ :=
    finish_ends reliable.lawful closes
  obtain ⟨finishes, ends, kept⟩ :=
    finished ⟨store.submitting attempt.id submittedAt context.now, []⟩ rfl
  obtain ⟨given, ended⟩ := ends reliable
  rw [ended] at kept
  exact ⟨given, _, Prod.ext ended rfl, kept, finishes⟩

section

variable {α : Type} {operation : Action AttemptError α}

/-- Work that comes too late closes the attempt as of its deadline, and is
refused. -/
theorem IsWork.late (isWork : IsWork caller attemptId operation)
    (context : Context) (reliable : store.IsReliable)
    (own : IsOwn store caller.id attemptId attempt)
    (passed : attempt.deadlineAt ≤ context.now) :
    (operation context ⟨store, []⟩).1 = .error (.refused .timeExpired) ∧
    (operation context ⟨store, []⟩).2.store =
      closing context store attempt attempt.deadlineAt := by
  obtain ⟨β, work, next, same, -, -⟩ := isWork context
  have sittings := reliable.lawful.sittings
  have entered :=
    whileOpen_late (own.id ▸ (sittings.keys attempt own.listed).plain)
      (canReach_of_noOutages reliable.reach _) sittings.ids own passed work
  obtain ⟨given, published, completed, -⟩ :=
    exists_completed context reliable ⟨own.listed, own.running,
      .inl ⟨rfl, .inl passed⟩⟩
  have settled : settleEntry (.late
        (some (submitted attempt.deadlineAt context.now attempt)) : Entry β)
      context ⟨store.submitting attempt.id attempt.deadlineAt context.now, []⟩ =
      (.error (.refused .timeExpired),
        ⟨closing context store attempt attempt.deadlineAt, published⟩) :=
    bind_apply_of_ok completed
  rw [same, bind_apply_of_ok (commit_of_ok entered),
    bind_apply_of_error settled]
  exact ⟨rfl, rfl⟩

/-- Work that comes in time is not refused as late. -/
theorem IsWork.inTime (isWork : IsWork caller attemptId operation)
    (context : Context) (reliable : store.IsReliable)
    (own : IsOwn store caller.id attemptId attempt)
    (inTime : context.now < attempt.deadlineAt) :
    (operation context ⟨store, []⟩).1 ≠ .error (.refused .timeExpired) := by
  obtain ⟨_, work, next, same, workAvoids, nextAvoids⟩ := isWork context
  have sittings := reliable.lawful.sittings
  have entered :=
    whileOpen_opened (own.id ▸ (sittings.keys attempt own.listed).plain)
      (canReach_of_noOutages reliable.reach _) sittings.ids own inTime work
  rw [same]
  cases worked : work attempt store with
  | ok step =>
      rw [bind_apply_of_ok
        (commit_of_ok (entered.trans (map_eq_ok.mpr ⟨_, worked, rfl⟩)))]
      exact nextAvoids step.1 _
  | error halt =>
      rw [bind_apply_of_error
        (commit_of_error (entered.trans (map_of_error worked)))]
      rintro ⟨⟩
      exact workAvoids attempt store worked

/-- Work on an attempt that is not in progress is refused for its status. -/
theorem IsWork.closed (isWork : IsWork caller attemptId operation)
    (context : Context) (reliable : store.IsReliable)
    (listed : attempt ∈ store.attempts)
    (same : attempt.id = attemptId) (student : attempt.studentId = caller.id)
    (left : attempt.status ≠ .inProgress) :
    (operation context ⟨store, []⟩).1 =
      .error (.refused (.notInProgress attempt.status)) := by
  obtain ⟨_, work, next, works, -, -⟩ := isWork context
  have sittings := reliable.lawful.sittings
  subst same
  have entered : whileOpen caller attempt.id context.now work store = _ :=
    whileOpen_of_found (sittings.keys attempt listed).plain
      (canReach_of_noOutages reliable.reach _)
      (find?_key_eq_some sittings.ids listed) student work
  rw [if_neg left] at entered
  rw [works, bind_apply_of_error (commit_of_error entered)]

end

/-! ## Submitting -/

/-- Who submits an own attempt that is there is refused unless it is in
progress, and otherwise the deadline decides as of when it is submitted. -/
theorem submit_of_found {β : Type} {next : Attempt → Action AttemptError β}
    (reliable : store.IsReliable) (listed : attempt ∈ store.attempts)
    (same : attempt.id = attemptId) (student : attempt.studentId = caller.id) :
    (submit caller attemptId >>= next) context ⟨store, []⟩ =
      (if attempt.status = .inProgress then do
        next (← Action.demand (← finalize attempt.id
            (attempt.closingTime context.now)) .alreadySubmitted)
      else Action.refuse (.notInProgress attempt.status) :
          Action AttemptError β) context ⟨store, []⟩ := by
  subst same
  have sittings := reliable.lawful.sittings
  have read : attempt? attempt.id store = .ok (some attempt, store) :=
    attempt?_eq_ok.mpr ⟨(sittings.keys attempt listed).plain,
      canReach_of_noOutages reliable.reach _, rfl,
      (find?_key_eq_some sittings.ids listed).symm⟩
  have known : Action.require (attempt.studentId == caller.id)
    AttemptError.foreignAttempt context ⟨store, []⟩ = (.ok (), ⟨store, []⟩) :=
    if_pos (beq_iff_eq.mpr student)
  simp only [submit, bind_assoc]
  rw [bind_apply_of_ok (query_of_ok read), bind_apply_of_ok rfl,
    bind_apply_of_ok known]
  by_cases running : attempt.status = .inProgress
  · rw [if_pos running, bind_apply_of_ok (if_pos (decide_eq_true running))]
    rfl
  · rw [if_neg running, bind_apply_of_error (if_neg (by simpa using running))]
    rfl

theorem closes_of_own {studentId : String} {now : Instant}
    (own : IsOwn store studentId attemptId attempt) :
    Closes now store attempt (attempt.closingTime now) := by
  refine ⟨own.listed, own.running, ?_⟩
  unfold Attempt.closingTime
  split
  · next passed => exact .inl ⟨rfl, .inl (isExpired_eq_true.mp passed)⟩
  · next left => exact .inr ⟨rfl, lt_of_not_isExpired left⟩

/-- An attempt that can be closed is submitted. -/
theorem markSubmitted_of_closes {now submittedAt : Instant}
    (lawful : store.Lawful) (reach : store.outages = [])
    (closes : Closes now store attempt submittedAt) :
    markSubmitted attempt.id submittedAt now store =
      .ok (some (submitted submittedAt now attempt),
        store.submitting attempt.id submittedAt now) := by
  rw [markSubmitted_eq_ok,
    find?_hasStatus lawful.sittings.ids closes.listed closes.running]
  exact ⟨(lawful.sittings.keys attempt closes.listed).plain,
    canReach_of_noOutages reach _, rfl, rfl⟩

/-- An attempt that can be closed is submitted and completed. -/
theorem finalize_of_closes {submittedAt : Instant} {told : List ProgressEvent}
    (reliable : store.IsReliable)
    (closes : Closes context.now store attempt submittedAt) :
    finalize attempt.id submittedAt context ⟨store, told⟩ =
      (some <$> complete (submitted submittedAt context.now attempt)) context
        ⟨store.submitting attempt.id submittedAt context.now, told⟩ := by
  have marked := markSubmitted_of_closes reliable.lawful reliable.reach closes
  exact bind_apply_of_ok (@query_of_ok _ _ context _ _ ⟨store, told⟩ _ _ marked)

/-- An own attempt in progress is submitted in time or as of its deadline, and
then shown. -/
theorem submit_ends (context : Context) (reliable : store.IsReliable)
    (own : IsOwn store caller.id attemptId attempt) :
    (∃ snapshot,
      ((submit caller attemptId >>= snapshotOf) context ⟨store, []⟩).1 =
        .ok snapshot) ∧
    ((submit caller attemptId >>= snapshotOf) context ⟨store, []⟩).2.store =
      closing context store attempt (attempt.closingTime context.now) := by
  have closes : Closes context.now store attempt _ := closes_of_own own
  rw [submit_of_found reliable own.listed own.id own.student,
    if_pos own.running]
  generalize attempt.closingTime context.now = submittedAt at closes
  obtain ⟨given, published, completed, kept, finishes⟩ :=
    exists_completed context reliable closes
  obtain ⟨row, listed, later⟩ :=
    finishes.touches.attempts.exists_later own.listed
  have still : Attempt.Kept attempt row := by
    rcases later with rfl | ⟨-, advances⟩
    · exact .refl row
    · exact advances.kept
  have shows : Ends context _ (snapshotOf given) _ :=
    snapshotOf_ends ((finishes.reaches closes).reliable reliable) listed
      (kept.id.trans still.id.symm) (kept.variantId.trans still.variantId.symm)
  obtain ⟨same, snapshot, shown, -⟩ :=
    shows ⟨closing context store attempt submittedAt, published⟩ rfl
  have finalized : finalize attempt.id submittedAt context ⟨store, []⟩ =
      (.ok (some given), ⟨closing context store attempt submittedAt,
        published⟩) := by
    rw [finalize_of_closes reliable closes, ← bind_pure_comp]
    exact bind_apply_of_ok completed
  rw [bind_apply_of_ok finalized, bind_apply_of_ok rfl]
  exact ⟨⟨snapshot, shown⟩, same⟩

/-- Submitting an attempt that is not in progress is refused for its status. -/
theorem submit_closed (context : Context) (reliable : store.IsReliable)
    (listed : attempt ∈ store.attempts) (same : attempt.id = attemptId)
    (student : attempt.studentId = caller.id)
    (left : attempt.status ≠ .inProgress) :
    ((submit caller attemptId >>= snapshotOf) context ⟨store, []⟩).1 =
      .error (.refused (.notInProgress attempt.status)) := by
  rw [submit_of_found reliable listed same student, if_neg left]
  rfl

end Exam

end ExamHall
