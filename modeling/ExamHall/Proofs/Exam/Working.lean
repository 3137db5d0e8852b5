import ExamHall.Proofs.Exam.Admission
import ExamHall.Proofs.Exam.Answering

/-!
# Who works on an attempt

A student who wants to work on an attempt is refused, or comes after its
deadline and has it submitted, or finds it open.  Which of these happens depends
on the tables and on the time, and not on the work.  An operation that has
changed the tables then ends as it should, unless something stands in its way.
-/

namespace ExamHall

open Store ExamHall.Action

/-! ## How operations end -/

/-- Why an action has not ended well, if it has not. -/
def Action.failure {ε α : Type} : Except (Halt ε) α → Option (Halt ε)
  | .ok _ => none
  | .error halt => some halt

/-- A halt with its error reported in another way. -/
def Halt.map {ε δ : Type} (report : ε → δ) : Halt ε → Halt δ
  | .refused error => .refused (report error)
  | .outOfRange => .outOfRange

/-- How an operation ends that has changed the tables: as intended, or, when
something stood in the way, in a fault that came after the change. -/
inductive Ending {ε : Type} (store : Store) (faults : Halt ε → Prop)
    (intended : Option (Halt ε)) : Option (Halt ε) → Prop where
  | intended : Ending store faults intended intended
  | fault {halt : Halt ε} (unreliable : ¬store.IsReliable) (is : faults halt) :
      Ending store faults intended (some halt)

theorem Ending.map {ε δ : Type} {store : Store} {faults : Halt ε → Prop}
    {faults' : Halt δ → Prop} {intended failed : Option (Halt ε)}
    (ending : Ending store faults intended failed) (report : ε → δ)
    (kept : ∀ halt, faults halt → faults' (halt.map report)) :
    Ending store faults' (intended.map (Halt.map report))
      (failed.map (Halt.map report)) := by
  cases ending with
  | intended => exact .intended
  | fault unreliable is => exact .fault unreliable (kept _ is)

/-- The calculation of an operation has left its range. -/
def Halt.IsOutOfRange {ε : Type} (halt : Halt ε) : Prop :=
  halt = .outOfRange

theorem Halt.IsOutOfRange.map {ε δ : Type} {halt : Halt ε}
    (is : halt.IsOutOfRange) (report : ε → δ) :
    (halt.map report).IsOutOfRange := by
  obtain rfl : halt = .outOfRange := is
  rfl

/-! ## The student's own attempts -/

/-- An attempt that a student has in progress, by its id. -/
structure IsOwn (store : Store) (studentId attemptId : String)
    (attempt : Attempt) : Prop where
  listed : attempt ∈ store.attempts
  id : attempt.id = attemptId
  student : attempt.studentId = studentId
  running : attempt.status = .inProgress

/-- An attempt has been submitted as of a time, and has been completed then. -/
def Finishes (now : Instant) (store : Store) (attempt : Attempt)
    (submittedAt : Instant) (after : Store) : Prop :=
  Exam.Completes now attempt.id
    (store.submitting attempt.id submittedAt now) after

variable {now : Instant} {store after : Store} {attempt : Attempt}
  {submittedAt : Instant}

theorem Closes.submitting (closes : Closes now store attempt submittedAt) :
    Change now store (store.submitting attempt.id submittedAt now) :=
  .submitted closes

theorem Finishes.touches
    (finishes : Finishes now store attempt submittedAt after) :
    Touches attempt.id store after :=
  (Touches.submitting store attempt.id submittedAt now).trans
    (Exam.Completes.touches finishes)

theorem Finishes.reaches
    (finishes : Finishes now store attempt submittedAt after)
    (closes : Closes now store attempt submittedAt) : Reaches now store after :=
  .head closes.submitting (Exam.Completes.handsOver finishes).reached

theorem Finishes.savesNothing
    (finishes : Finishes now store attempt submittedAt after) :
    store.SavesNothing after :=
  ((Touches.submitting store attempt.id submittedAt now).savesNothing rfl).trans
    (Exam.Completes.savesNothing finishes)

/-- What has finished an attempt where nothing stood in the way has graded
it. -/
theorem Finishes.gradesInto
    (finishes : Finishes now store attempt submittedAt after)
    (closes : Closes now store attempt submittedAt)
    (reliable : store.IsReliable) :
    ∃ graded, GradesInto now (store.submitting attempt.id submittedAt now)
        (Store.submitted submittedAt now attempt) graded after := by
  have reliable' := closes.submitting.reliable reliable
  have here : Store.submitted submittedAt now attempt ∈
      (store.submitting attempt.id submittedAt now).attempts :=
    mem_submitting closes.listed closes.running _ _
  cases finishes with
  | passed idle =>
      have waits : hasStatus attempt.id .submitted
          (Store.submitted submittedAt now attempt) = true :=
        hasStatus_eq_true.mpr ⟨rfl, rfl⟩
      exact (Bool.false_ne_true ((idle reliable' _ here).symm.trans waits)).elim
  | @graded row graded _ same into =>
      obtain rfl := eq_of_key reliable'.lawful.sittings.ids into.mem here same
      exact ⟨graded, into⟩

namespace Exam

/-! ## What a student finds -/

/-- What a student finds who wants to work on an attempt: a refusal, or the own
attempt past its deadline, which is submitted then, or the own attempt, on which
the work is done. -/
inductive Finds (now : Instant) (store : Store) (caller : Caller)
    (attemptId : String) : Prop where
  | refused {error : AttemptError}
      (ends : ∀ {α : Type} (work : Attempt → Transaction AttemptError α),
        whileOpen caller attemptId now work store = .error (.refused error))
  | late {attempt : Attempt} (own : IsOwn store caller.id attemptId attempt)
      (passed : attempt.deadlineAt ≤ now)
      (ends : ∀ {α : Type} (work : Attempt → Transaction AttemptError α),
        whileOpen caller attemptId now work store =
          .ok (.late (some (submitted attempt.deadlineAt now attempt)),
            store.submitting attempt.id attempt.deadlineAt now))
  | opened {attempt : Attempt} (own : IsOwn store caller.id attemptId attempt)
      (inTime : now < attempt.deadlineAt)
      (ends : ∀ {α : Type} (work : Attempt → Transaction AttemptError α),
        whileOpen caller attemptId now work store =
          (Entry.inTime <$> work attempt) store)

section

variable {caller : Caller} {attemptId : String}
  (plain : Column.hasNul attemptId = false) (reach : store.CanReach [.attempts])

include plain reach

/-- Who works on an own attempt is refused once it is no longer in progress, and
otherwise the deadline decides. -/
theorem whileOpen_of_found
    (found : store.attempts.find? (·.id == attemptId) = some attempt)
    (student : attempt.studentId = caller.id) {α : Type}
    (work : Attempt → Transaction AttemptError α) :
    whileOpen caller attemptId now work store =
      (if attempt.status = .inProgress then
        if isExpired attempt.deadlineAt now then do
          pure (.late (← markSubmitted attempt.id attempt.deadlineAt now))
        else Entry.inTime <$> work attempt
      else Transaction.refuse (.notInProgress attempt.status) :
        Transaction AttemptError (Entry α)) store := by
  have read : (liftM (attempt? attemptId) : Transaction AttemptError _) store =
      .ok (some attempt, store) :=
    Transaction.lift_eq_ok.mpr (attempt?_eq_ok.mpr
        ⟨plain, reach, rfl, found.symm⟩)
  have there : (Transaction.demand (some attempt) .unknownAttempt :
      Transaction AttemptError Attempt) store = .ok (attempt, store) := rfl
  have known : Transaction.require (attempt.studentId == caller.id)
    AttemptError.foreignAttempt store = .ok ((), store) :=
    Transaction.require_eq_ok.mpr ⟨beq_iff_eq.mpr student, rfl⟩
  rw [whileOpen, bind_of_ok read, bind_of_ok there, bind_of_ok known]
  by_cases running : attempt.status = .inProgress
  · have going : Transaction.require (decide (attempt.status = .inProgress))
        (AttemptError.notInProgress attempt.status) store = .ok ((), store) :=
      Transaction.require_eq_ok.mpr ⟨decide_eq_true running, rfl⟩
    rw [if_pos running, bind_of_ok going]
    rfl
  · rw [if_neg running]
    exact bind_of_error (if_neg (by simpa using running))

theorem whileOpen_late (ids : (store.attempts.map (·.id)).Nodup)
    (own : IsOwn store caller.id attemptId attempt)
    (passed : attempt.deadlineAt ≤ now)
    {α : Type} (work : Attempt → Transaction AttemptError α) :
    whileOpen caller attemptId now work store =
      .ok (.late (some (submitted attempt.deadlineAt now attempt)),
        store.submitting attempt.id attempt.deadlineAt now) := by
  obtain ⟨listed, rfl, student, running⟩ := own
  have marked : markSubmitted attempt.id attempt.deadlineAt now store = _ :=
    markSubmitted_eq_ok.mpr ⟨plain, reach, rfl, rfl⟩
  rw [whileOpen_of_found plain reach (find?_key_eq_some ids listed) student,
    if_pos running, if_pos (isExpired_eq_true.mpr passed),
    bind_of_ok (Transaction.lift_eq_ok.mpr marked),
    find?_hasStatus ids listed running]
  rfl

theorem whileOpen_opened (ids : (store.attempts.map (·.id)).Nodup)
    (own : IsOwn store caller.id attemptId attempt)
    (inTime : now < attempt.deadlineAt)
    {α : Type} (work : Attempt → Transaction AttemptError α) :
    whileOpen caller attemptId now work store =
      (Entry.inTime <$> work attempt) store := by
  obtain ⟨listed, rfl, student, running⟩ := own
  rw [whileOpen_of_found plain reach (find?_key_eq_some ids listed) student,
    if_pos running, if_neg]
  exact fun passed => Int.not_le.mpr inTime (isExpired_eq_true.mp passed)

end

theorem finds (lawful : store.Lawful) (caller : Caller) (attemptId : String) :
    Finds now store caller attemptId := by
  cases looked : attempt? attemptId store with
  | error fault =>
      exact .refused fun work =>
      bind_of_error (Transaction.lift_of_error looked)
  | ok result =>
      obtain ⟨found, left⟩ := result
      obtain ⟨plain, reach, rfl, same⟩ := attempt?_eq_ok.mp looked
      have read : (liftM (attempt? attemptId) : Transaction AttemptError _)
          left = .ok (found, left) :=
        Transaction.lift_eq_ok.mpr looked
      cases found with
      | none =>
          exact .refused fun work => (bind_of_ok read).trans (bind_of_error rfl)
      | some attempt =>
          obtain ⟨listed, sameId⟩ := mem_and_key_of_find? same.symm
          by_cases student : attempt.studentId = caller.id
          swap
          · have there : (Transaction.demand (some attempt) .unknownAttempt :
                Transaction AttemptError Attempt) left = .ok (attempt, left) :=
              rfl
            refine @Finds.refused now left caller attemptId .foreignAttempt
              fun work => ?_
            rw [whileOpen, bind_of_ok read, bind_of_ok there]
            exact bind_of_error (if_neg (by simpa using student))
          by_cases running : attempt.status = .inProgress
          swap
          · refine @Finds.refused now left caller attemptId
              (.notInProgress attempt.status) fun work => ?_
            rw [whileOpen_of_found plain reach same.symm student,
              if_neg running]
            rfl
          have own : IsOwn left caller.id attemptId attempt :=
            ⟨listed, sameId, student, running⟩
          by_cases inTime : now < attempt.deadlineAt
          · exact .opened own inTime
              (whileOpen_opened plain reach lawful.sittings.ids own inTime)
          · have passed : attempt.deadlineAt ≤ now := Int.not_lt.mp inTime
            exact .late own passed
              (whileOpen_late plain reach lawful.sittings.ids own passed)

theorem acceptedSaves_of_refused {caller : Caller} {attemptId : String}
    {inputs : List AnswerInput} {error : AttemptError}
    (ends : ∀ {α : Type} (work : Attempt → Transaction AttemptError α),
      whileOpen caller attemptId now work store = .error (.refused error)) :
    acceptedSaves caller attemptId now inputs store = [] := by
  unfold acceptedSaves
  dsimp only
  rw [ends]

theorem acceptedSaves_of_late {caller : Caller} {attemptId : String}
    {inputs : List AnswerInput} {submitted : Option Attempt}
    (ends : ∀ {α : Type} (work : Attempt → Transaction AttemptError α),
      whileOpen caller attemptId now work store =
        .ok (.late submitted, after)) :
    acceptedSaves caller attemptId now inputs store = [] := by
  unfold acceptedSaves
  dsimp only
  rw [ends]

/-- The saves on an open attempt are made on its variant, if that can be
read. -/
theorem acceptedSaves_of_opened {caller : Caller} {attemptId : String}
    {inputs : List AnswerInput}
    (ends : ∀ {α : Type} (work : Attempt → Transaction AttemptError α),
      whileOpen caller attemptId now work store =
        (Entry.inTime <$> work attempt) store) :
    acceptedSaves caller attemptId now inputs store =
      match variant attempt.variantId store with
      | .ok (variant, _) => acceptedEach attempt variant now inputs store
      | .error _ => [] := by
  unfold acceptedSaves
  dsimp only
  rw [ends]
  cases read : variant attempt.variantId store with
  | error fault =>
      rw [map_of_error (bind_of_error (Transaction.lift_of_error read))]
  | ok result =>
      obtain ⟨variant, left⟩ := result
      obtain rfl := isRead_variant _ _ _ _ read
      have listed : (do
          let variant ← liftM (Store.variant attempt.variantId)
          pure (acceptedEach attempt variant now inputs (← get)) :
            Transaction AttemptError (List AcceptedSave)) left =
          .ok (acceptedEach attempt variant now inputs left, left) :=
        (bind_of_ok (Transaction.lift_eq_ok.mpr read)).trans rfl
      rw [map_eq_ok.mpr ⟨_, listed, rfl⟩]

theorem acceptedSaves_nil (lawful : store.Lawful) (caller : Caller)
    (attemptId : String) :
    acceptedSaves caller attemptId now [] store = [] := by
  have found : Finds now store caller attemptId := finds lawful caller attemptId
  rcases found with
    ends | @⟨attempt, own, passed, ends⟩ | @⟨attempt, own, inTime, ends⟩
  · exact acceptedSaves_of_refused ends
  · exact acceptedSaves_of_late ends
  · rw [acceptedSaves_of_opened ends]
    split <;> rfl

/-! ## Violations -/

theorem touches_marked (store : Store) (attemptId reason : String)
    (now : Instant) :
    Touches attemptId store { store with
      attempts := updateWhere (fun other => other.id == attemptId)
        (Store.marked reason now) store.attempts } :=
  .updateAttempts fun other selected =>
    ⟨beq_iff_eq.mp selected, .marked _ _ other, fun scored => scored⟩

/-- What a violation leads to concerns the attempt alone, and saves nothing. -/
theorem escalate_touches {assignment : Assignment} {violation : Violation}
    (ended : escalate attempt assignment now store = .ok (violation, after)) :
    Touches attempt.id store after ∧ after.answers = store.answers ∧
    ∀ submitted, violation.submitted = some submitted →
      submitted.id = attempt.id := by
  have unsubmitted : ∀ submitted, (none : Option Attempt) = some submitted →
    submitted.id = attempt.id :=
    fun _ same => (Option.some_ne_none _ same.symm).elim
  simp only [escalate] at ended
  cases kind : escalation attempt.violationCount assignment.tabSwitchThreshold
      assignment.tabSwitchAction with
  | none =>
      simp only [kind, pure_eq_ok] at ended
      obtain ⟨rfl, rfl⟩ := ended
      exact ⟨.refl after, rfl, unsubmitted⟩
  | warn =>
      simp only [kind, pure_eq_ok] at ended
      obtain ⟨rfl, rfl⟩ := ended
      exact ⟨.refl after, rfl, unsubmitted⟩
  | flag =>
      simp only [kind, bind_eq_ok, Transaction.lift_eq_ok, flag_eq_ok,
        pure_eq_ok] at ended
      obtain ⟨_, _, ⟨-, -, -, rfl⟩, rfl, rfl⟩ := ended
      exact ⟨touches_marked _ _ _ _, rfl, unsubmitted⟩
  | autoSubmit =>
      simp only [kind, bind_eq_ok, Transaction.lift_eq_ok, flag_eq_ok,
        markSubmitted_eq_ok, pure_eq_ok] at ended
      obtain ⟨_, _, ⟨-, -, -, rfl⟩, _, _, ⟨-, -, same, rfl⟩, rfl, rfl⟩ := ended
      refine ⟨(touches_marked store _ _ now).trans (.submitting _ _ _ _), rfl,
        ?_⟩
      rintro submitted rfl
      obtain ⟨old, found, rfl⟩ := Option.map_eq_some_iff.mp same.symm
      have selected := List.find?_some found
      exact (hasStatus_eq_true.mp selected).1

theorem violation_touches {violation : Violation} (lawful : store.Lawful)
    (worked : IsWorkedOn now store attempt)
    (ended : (do
      let assignment ← assignment attempt.assignmentId
      let counted ←
        Transaction.demand (← countViolation attempt.id now) .noLongerInProgress
      escalate counted assignment now : Transaction AttemptError Violation)
        store = .ok (violation, after)) :
    Touches attempt.id store after ∧ after.answers = store.answers ∧
      ∀ submitted, violation.submitted = some submitted →
        submitted.id = attempt.id := by
  obtain ⟨assignment, escalated⟩ :=
    exists_escalate lawful.sittings.ids worked ended
  obtain ⟨touches, answers, same⟩ := escalate_touches escalated
  have counts : Touches attempt.id store { store with
      attempts := updateWhere (hasStatus attempt.id .inProgress) (violated now)
        store.attempts } :=
    .updateAttempts fun other selected => ⟨(hasStatus_eq_true.mp selected).1,
      .violated _ other, fun scored => scored⟩
  exact ⟨counts.trans touches, answers, same⟩

/-! ## Submitting and completing -/

variable {context : Context} {caller : Caller} {attemptId : String}

/-- An attempt that has been submitted is completed, and given back as the
attempt that it is. -/
theorem finish_ends (lawful : store.Lawful)
    (closes : Closes context.now store attempt submittedAt) :
    Ends context (fun world =>
      world.store = store.submitting attempt.id submittedAt context.now)
      (complete (submitted submittedAt context.now attempt)) fun result world =>
        Finishes context.now store attempt submittedAt world.store ∧
        (store.IsReliable → ∃ given, result = .ok given) ∧ match result with
          | .ok given => Attempt.Kept attempt given
          | .error halt => halt = .outOfRange := by
  have lawful' := closes.submitting.lawful lawful
  have plain := (lawful.sittings.keys attempt closes.listed).plain
  have here : submitted submittedAt context.now attempt ∈
      (store.submitting attempt.id submittedAt context.now).attempts :=
    mem_submitting closes.listed closes.running _ _
  refine (complete_ends lawful').weaken (fun _ same => same) ?_
  rintro (halt | given) world ⟨completes, ends, ended⟩
  · exact ⟨completes,
      fun reliable => ends (closes.submitting.reliable reliable) plain, ended⟩
  · refine ⟨completes, fun _ => ⟨given, rfl⟩, ?_⟩
    rcases ended with rfl
      | ⟨row, sameId, added, answers, totals, _, _, _, _, grades, -, rfl, -⟩
    · exact .submitted _ _ attempt
    · obtain rfl := eq_of_key lawful'.sittings.ids grades.listed here sameId
      exact (Attempt.Kept.submitted _ _ attempt).trans (.scored _ _ _ _ _)

/-- How the submission of an attempt ends, and what it leaves: nothing has
happened, or the attempt has been submitted and completed. -/
inductive Finalizes (now : Instant) (store : Store) (attemptId : String)
    (submittedAt : Instant) :
    Except (Halt AttemptError) (Option Attempt) → Store → Prop where
  | nothing {result : Except (Halt AttemptError) (Option Attempt)}
      (ungiven : ∀ given, result ≠ .ok (some given)) :
      Finalizes now store attemptId submittedAt result store
  | completed
      {attempt given : Attempt} {after : Store} (same : attempt.id = attemptId)
      (closes : Closes now store attempt submittedAt)
      (finishes : Finishes now store attempt submittedAt after)
      (kept : Attempt.Kept attempt given) :
      Finalizes now store attemptId submittedAt (.ok (some given)) after
  | broken {attempt : Attempt} {after : Store} (same : attempt.id = attemptId)
      (closes : Closes now store attempt submittedAt)
      (finishes : Finishes now store attempt submittedAt after)
      (unreliable : ¬store.IsReliable) :
      Finalizes now store attemptId submittedAt (.error .outOfRange) after

theorem finalize_ends (lawful : store.Lawful)
    (closes : ∀ attempt ∈ store.attempts,
      hasStatus attemptId .inProgress attempt = true →
      Closes context.now store attempt submittedAt) :
    Ends context (fun world => world.store = store)
      (finalize attemptId submittedAt) fun result world => Finalizes context.now
      store attemptId submittedAt result world.store := by
  refine Ends.reading ?_
  cases marked : markSubmitted attemptId submittedAt context.now store with
  | error fault =>
      refine .bind (fun result world => world.store = store ∧
          ∃ halt, result = .error halt) (.query ?_ ?_) ?_ ?_
      · rintro world rfl found after ended
        cases marked.symm.trans ended
      · rintro world rfl _ -
        exact ⟨rfl, _, rfl⟩
      · rintro found world ⟨-, _, same⟩
        cases same
      · rintro halt world ⟨rfl, -⟩
        exact .nothing fun _ same => nomatch same
  | ok step =>
      obtain ⟨found, after⟩ := step
      refine .bind_query marked ?_
      obtain ⟨-, -, same, rfl⟩ := markSubmitted_eq_ok.mp marked
      cases present :
          store.attempts.find? (hasStatus attemptId .inProgress) with
      | none =>
          rw [present] at same
          obtain rfl : found = none := same
          refine .pure ?_
          rintro world reached
          rw [updateWhere_of_forall_not fun attempt listed =>
              Bool.eq_false_iff.mpr
                (List.find?_eq_none.mp present attempt listed)] at reached
          rw [reached]
          exact .nothing fun _ same => nomatch same
      | some attempt =>
          rw [present] at same
          obtain rfl :
            found = some (submitted submittedAt context.now attempt) := same
          have listed := List.mem_of_find?_eq_some present
          have selected := List.find?_some present
          have closing := closes attempt listed selected
          obtain ⟨rfl, -⟩ := hasStatus_eq_true.mp selected
          refine .map
            ((finish_ends lawful closing).weaken (fun _ reached => reached) ?_)
          rintro (halt | given) world ⟨finishes, ends, ended⟩
          · obtain rfl : halt = .outOfRange := ended
            refine .broken rfl closing finishes fun reliable => ?_
            obtain ⟨_, failed⟩ := ends reliable
            cases failed
          · exact .completed rfl closing finishes ended

theorem Finalizes.savesNothing
    {result : Except (Halt AttemptError) (Option Attempt)}
    (finalizes : Finalizes now store attemptId submittedAt result after) :
    store.SavesNothing after := by
  cases finalizes with
  | nothing => exact .refl store
  | completed _ _ finishes => exact finishes.savesNothing
  | broken _ _ finishes => exact finishes.savesNothing

/-- What came too late has the attempt submitted as of its deadline. -/
theorem lateEntry_ends {α β : Type} {next : α → Action AttemptError β}
    (lawful : store.Lawful) (own : IsOwn store caller.id attemptId attempt)
    (passed : attempt.deadlineAt ≤ context.now) :
    Ends context (fun world => world.store =
      store.submitting attempt.id attempt.deadlineAt context.now) (settleEntry
        (.late (some (submitted attempt.deadlineAt context.now attempt))) >>=
        next) fun result world =>
          Finishes context.now store attempt attempt.deadlineAt world.store ∧
          Ending store Halt.IsOutOfRange (some (.refused .timeExpired))
            (failure result) := by
  have closes : Closes context.now store attempt attempt.deadlineAt :=
    ⟨own.listed, own.running, .inl ⟨rfl, .inl passed⟩⟩
  refine .bind (fun result world => Finishes context.now store attempt
      attempt.deadlineAt world.store ∧ ∃ halt, result = .error halt ∧
      Ending store Halt.IsOutOfRange (some (.refused .timeExpired)) (some halt))
    ?_ ?_ ?_
  · refine .bind _ (finish_ends lawful closes) (fun given => .refuse ?_) ?_
    · exact fun world reached => ⟨reached.1, _, rfl, .intended⟩
    · rintro halt world ⟨finishes, ends, outOfRange⟩
      refine ⟨finishes, halt, rfl, .fault (fun reliable => ?_) outOfRange⟩
      obtain ⟨_, same⟩ := ends reliable
      cases same
  · rintro value world ⟨-, _, same, -⟩
    cases same
  · rintro halt world ⟨finishes, _, ⟨⟩, ending⟩
    exact ⟨finishes, ending⟩

end Exam

end ExamHall
