import ExamHall.Proofs.Attempt.Order
import ExamHall.Proofs.Exam.Admission
import ExamHall.Proofs.Exam.Answering
import ExamHall.Proofs.Exam.Reviewing

/-!
# Sitting an exam

A student starts attempts, saves answers, leaves the window and submits.  Each
operation that submits an attempt has it completed before it ends.  Attempts are
graded on request and reviewed by hand as well, and neither of this leaves an
attempt without its scores.
-/

namespace ExamHall.Exam

open Store ExamHall.Action

variable {context : Context} {start : Store} {caller : Caller}
  {kept : World → Prop}

/-! ## Submitting -/

/-- An attempt that is submitted is handed over. -/
theorem markSubmitted_handsOver {now submittedAt : Instant}
    {before after : Store} {id : String} {found : Option Attempt}
    (closes : ∀ attempt ∈ before.attempts, hasStatus id .inProgress attempt =
      true → Closes now before attempt submittedAt)
    (ended : markSubmitted id submittedAt now before = .ok (found, after)) :
    HandsOver now found before after := by
  obtain ⟨-, -, rfl, rfl⟩ := markSubmitted_eq_ok.mp ended
  cases present : before.attempts.find? (hasStatus id .inProgress) with
  | none =>
      have unchanged := @updateWhere_of_forall_not _ (hasStatus id .inProgress)
        (Store.submitted submittedAt now) before.attempts fun attempt listed =>
          Bool.eq_false_iff.mpr (List.find?_eq_none.mp present attempt listed)
      rw [unchanged]
      exact .refl before
  | some attempt =>
      have listed := List.mem_of_find?_eq_some present
      have selected := List.find?_some present
      obtain rfl := (hasStatus_eq_true.mp selected).1
      rw [← present]
      exact .single (.submitted (closes attempt listed selected)) .markSubmitted

/-- Submitting and completing an attempt leaves none that waits. -/
theorem finalize_settles {before : World → Prop} {id : String}
    {submittedAt : Instant} (lawful : start.Lawful)
    (settled : ∀ world, before world → world.IsSettled context.now start)
    (closes : ∀ world, before world → ∀ attempt ∈ world.store.attempts,
      hasStatus id .inProgress attempt = true →
      Closes context.now world.store attempt submittedAt) :
    Ends context before (finalize id submittedAt) fun _ =>
      World.IsSettled context.now start := by
  unfold finalize
  apply Ends.reading
  refine .bind (fun result world => match result with
    | .ok found => world.Awaits context.now start found
    | .error _ => world.IsSettled context.now start) ?_ ?_ fun _ _ reached =>
        reached
  · refine .query (fun world begun found store ended => ?_)
      fun world begun _ _ => settled world begun
    have reached := settled world begun
    exact reached.handsOver (markSubmitted_handsOver (closes world begun) ended)
      _
  · rintro (_ | submitted)
    · exact .pure fun _ awaits => awaits
    · exact .map (complete_settles lawful)

theorem snapshotOf_keeps {attempt : Attempt} :
    Keeps context kept (snapshotOf attempt) :=
  .bind (.query (isRead_variant _)) fun _ =>
    .bind (.query (isRead_answersOf _)) fun _ => .pure _

/-- An attempt is submitted now, or as of its deadline. -/
theorem submit_settles {attemptId : String} (lawful : start.Lawful) :
    Keeps context (World.IsSettled context.now start)
      (submit caller attemptId) := by
  unfold submit
  refine Gives.bind (.query (isRead_attempt? attemptId))
    (fun found => ?_) fun _ _ settled => settled
  refine Gives.bind .demand (fun attempt => .assuming fun present => ?_)
    fun _ _ reached => reached.1
  refine .bind _ (Keeps.require _ _) (fun _ => ?_) fun _ _ reached => reached.1
  refine Gives.bind .require
    (fun _ => .assuming fun running => ?_) fun _ _ reached => reached.1
  apply Ends.reading
  refine .bind (fun _ => World.IsSettled context.now start)
    (finalize_settles lawful ?_ ?_)
    (fun _ => Keeps.demand _ _) fun _ _ settled => settled
  · exact fun _ reached => reached.1
  · rintro world ⟨settled, ended⟩ other listed selected
    obtain ⟨-, -, -, same⟩ := attempt?_eq_ok.mp ended
    rw [present] at same
    obtain ⟨inside, sameId⟩ := mem_and_key_of_find? same.symm
    have ids := (settled.reached.lawful lawful).sittings.ids
    obtain rfl := eq_of_key ids listed inside (hasStatus_eq_true.mp selected).1
    refine ⟨listed, of_decide_eq_true running, ?_⟩
    split
    · next passed => exact .inl ⟨rfl, .inl (isExpired_eq_true.mp passed)⟩
    · next left => exact .inr ⟨rfl, lt_of_not_isExpired left⟩

/-! ## Working on an attempt -/

/-- What came too late is completed; what came in time is as the transaction has
left it. -/
theorem settleEntry_settles {α : Type} {entry : Entry α}
    {submitted : α → Option Attempt} {before : World → Prop}
    (lawful : start.Lawful)
    (awaits : ∀ world, before world →
      world.Awaits context.now start (entry.pending submitted)) :
    Ends context before (settleEntry entry) fun result world =>
      match result with
      | .ok value => before world ∧ entry = .inTime value
      | .error _ => world.IsSettled context.now start := by
  cases entry with
  | inTime value => exact .pure fun world begun => ⟨begun, rfl⟩
  | late submitted =>
      cases submitted with
      | none => exact .refuse awaits
      | some given =>
          refine .bind (fun _ => World.IsSettled context.now start) ?_
            (fun _ => ?_) fun _ _ settled => settled
          · exact (complete_settles lawful).weaken awaits fun _ _ settled =>
              settled
          · exact .refuse fun _ settled => settled

/-- The result of a transaction on an attempt in progress, once it is
settled. -/
theorem settled_of_entry {α β : Type}
    {transaction : Transaction AttemptError (Entry α)}
    {next : α → Action AttemptError β} (lawful : start.Lawful)
    (handsOver : ∀ before entry after,
      before.Lawful → transaction before = .ok (entry, after) →
      HandsOver context.now (entry.pending fun _ => none) before after)
    (nextKeeps : ∀ value,
      Keeps context (World.IsSettled context.now start) (next value)) :
    Keeps context (World.IsSettled context.now start)
      (Action.commit transaction >>= fun entry => settleEntry entry >>=
        next) := by
  refine Ends.bind _ (commit_awaits lawful handsOver)
    (fun entry => ?_) fun _ _ settled => settled
  refine Ends.bind _ (settleEntry_settles lawful fun _ awaits => awaits)
    (fun value => ?_) fun _ _ settled => settled
  refine Ends.weaken (nextKeeps value) ?_ fun _ _ settled => settled
  rintro world ⟨awaits, rfl⟩
  exact awaits

theorem save_settles {attemptId : String} {input : AnswerInput}
    (lawful : start.Lawful) :
    Keeps context (World.IsSettled context.now start)
      (save caller attemptId input) := by
  unfold save
  apply Keeps.reading
  refine settled_of_entry lawful
    (fun _ _ _ => saveTransaction_handsOver) fun worked => ?_
  exact bind_notify_ends (fun _ _ settled => ⟨settled.reached, settled.only⟩)
    (Keeps.pure _)

theorem saveBatch_settles {attemptId : String} {inputs : List AnswerInput}
    (lawful : start.Lawful) :
    Keeps context (World.IsSettled context.now start)
      (saveBatch caller attemptId inputs) := by
  unfold saveBatch
  apply Keeps.reading
  refine settled_of_entry lawful
    (fun _ _ _ => batchTransaction_handsOver) fun worked => ?_
  split
  · exact Keeps.bind (Keeps.pure _) fun _ => Keeps.pure _
  · exact bind_notify_ends (fun _ _ settled => ⟨settled.reached, settled.only⟩)
      (Keeps.pure _)

/-- What a violation has submitted is completed; its variant is there to be
shown. -/
theorem reportViolation_settles {attemptId : String} (lawful : start.Lawful) :
    Keeps context (World.IsSettled context.now start)
      (reportViolation caller attemptId) := by
  unfold reportViolation
  apply Keeps.reading
  refine Ends.bind (fun result world => match result with
    | .ok entry =>
        world.Awaits context.now start (entry.pending Violation.submitted) ∧
        ∀ violation, entry = .inTime violation →
          violation.attempt.variantId ∈ world.store.variants.map (·.id)
    | .error _ => world.IsSettled context.now start) ?_
      (fun entry => ?_) fun _ _ settled => settled
  · refine .commit (fun world settled entry store ended => ?_)
      fun _ settled _ _ => settled
    obtain ⟨handed, shown⟩ :=
      violationTransaction_handsOver (settled.reached.lawful lawful) ended
    exact ⟨settled.handsOver handed _, shown⟩
  refine Ends.bind _ (settleEntry_settles lawful fun _ reached => reached.1)
    (fun violation => ?_) fun _ _ settled => settled
  refine Ends.bind (fun result world => match result with
    | .ok _ => world.Awaits context.now start violation.submitted
    | .error _ => world.IsSettled context.now start) ?_
      (fun variant => ?_) fun _ _ settled => settled
  · refine .readQuery (isRead_variant _) ?_ ?_
    · rintro world ⟨⟨awaits, -⟩, rfl⟩ variant -
      exact awaits
    · rintro world ⟨⟨awaits, shown⟩, rfl⟩ fault failed
      refine ⟨awaits.reached, fun reliable => ?_⟩
      obtain ⟨variant, ended⟩ :=
        (awaits.reached.reliable reliable).exists_variant (shown violation rfl)
      rw [failed] at ended
      cases ended
  · obtain ⟨attempt, escalation, submitted⟩ := violation
    have blind : ∀ world published,
        World.Awaits context.now start submitted world →
        World.Awaits context.now start submitted { world with published } :=
      fun _ _ awaits => ⟨awaits.reached, awaits.only⟩
    cases submitted with
    | none => exact bind_notify_ends blind (Keeps.pure _)
    | some given =>
        refine bind_notify_ends blind ?_
        exact Ends.bind _ (complete_settles lawful) (fun _ => Keeps.pure _)
          fun _ _ settled => settled

/-! ## Starting an attempt -/

theorem admitted_gives {assignmentId : String} {accessCode : Option String} :
    Gives context kept (fun assignment world =>
      Admits context.now world.store caller.id accessCode assignment)
      (admitted caller assignmentId accessCode) := by
  intro world begun
  obtain ⟨same, decided⟩ :=
    @admitted_decides context caller assignmentId accessCode world world rfl
  rw [same]
  refine ⟨begun, ?_⟩
  split
  · next ended =>
      rw [ended] at decided
      exact decided.2
  · trivial

theorem completeTimedOut_settles {timedOut : Option Attempt}
    (lawful : start.Lawful) :
    Ends context (World.Awaits context.now start timedOut)
      (completeTimedOut timedOut) fun _ =>
        World.IsSettled context.now start := by
  cases timedOut with
  | none => exact .pure fun _ awaits => awaits
  | some submitted =>
      exact .bind _ (complete_settles lawful) (fun _ => Keeps.pure _)
        fun _ _ settled => settled

theorem start_settles {assignmentId : String} {accessCode : Option String}
    (lawful : start.Lawful) :
    Keeps context (World.IsSettled context.now start)
      (Exam.start caller assignmentId accessCode) := by
  unfold Exam.start
  refine Gives.bind admitted_gives (fun assignment => ?_) fun _ _ settled =>
    settled
  apply Ends.reading
  refine Ends.bind (fun result world => match result with
    | .ok step => world.Awaits context.now start step.pending
    | .error _ => world.IsSettled context.now start) ?_
      (fun step => ?_) fun _ _ settled => settled
  · refine .commit (fun world reached step store ended => ?_)
      fun _ reached _ _ => reached.1
    obtain ⟨settled, admits⟩ := reached
    exact settled.handsOver
      (startTransaction_handsOver (settled.reached.lawful lawful)
        admits.listed admits.window admits.enrolled ended) _
  · cases step with
    | resumed attempt => exact Keeps.bind snapshotOf_keeps fun _ => Keeps.pure _
    | exhausted timedOut =>
        exact Ends.bind _ (completeTimedOut_settles lawful)
          (fun _ => Keeps.refuse _) fun _ _ settled => settled
    | started timedOut attempt variant =>
        refine Ends.bind _ (completeTimedOut_settles lawful)
          (fun _ => ?_) fun _ _ settled => settled
        apply Keeps.reading
        refine Keeps.bind (Ends.publish ?_) fun _ => Keeps.pure _
        exact fun _ _ settled => ⟨settled.reached, settled.only⟩

theorem view_keeps {attemptId : String} :
    Keeps context kept (view caller attemptId) := by
  unfold view
  refine .bind (.query (isRead_attempt? attemptId)) fun _ =>
    Keeps.bind (.demand _ _) fun attempt => ?_
  split
  · exact Keeps.bind (.commit (isRead_managedAssignment _ _)) fun _ =>
      snapshotOf_keeps
  · exact snapshotOf_keeps

theorem status_keeps {assignmentId : String} :
    Keeps context kept (status caller assignmentId) :=
  .bind (.query (isRead_assignment? assignmentId)) fun _ =>
    .bind (.demand _ _) fun _ => .bind (.query (isRead_isOnRoster _ _)) fun _ =>
    .bind (.require _ _) fun _ =>
    .bind (.query (isRead_countAttempts _ _)) fun _ =>
    .bind (.query (isRead_latestAttempt? _ _)) fun _ => .pure _

/-! ## Grading and reviewing -/

theorem grade_settles {attemptId : String} (lawful : start.Lawful) :
    Keeps context (World.IsSettled context.now start)
      (grade caller attemptId) := by
  unfold grade
  refine .bind (.query (isRead_attempt? attemptId)) fun _ =>
    Keeps.bind (.demand _ _) fun attempt =>
    Keeps.bind (.commit (isRead_managedAssignment _ _)) fun _ => ?_
  split
  · exact Keeps.refuse _
  · refine Keeps.bind (Keeps.mapError (gradeSubmitted_settles lawful))
      fun graded => ?_
    cases graded with
    | some graded => exact Keeps.pure _
    | none =>
        exact Keeps.bind (.query (isRead_attempt? _)) fun _ => Keeps.demand _ _
  · exact Keeps.pure _

/-- A review is made on the attempt that the answer belongs to. -/
theorem review_settles {answerId : String} {score : Review}
    (lawful : start.Lawful) :
    Keeps context (World.IsSettled context.now start)
      (review caller answerId score) := by
  unfold review
  refine Gives.bind (.query (isRead_attemptOfAnswer? answerId))
    (fun found => ?_) fun _ _ settled => settled
  refine Gives.bind .demand (fun attemptId => .assuming fun present => ?_)
    fun _ _ reached => reached.1
  apply Ends.reading
  refine .commit (fun world reached result store ended => ?_)
    fun _ reached _ _ => reached.1
  obtain ⟨settled, linked⟩ := reached
  obtain ⟨-, -, -, same⟩ := attemptOfAnswer?_eq_ok.mp linked
  exact settled.handsOver (reviewTransaction_handsOver
      (settled.reached.lawful lawful) (same.symm.trans present) ended) _

end ExamHall.Exam
