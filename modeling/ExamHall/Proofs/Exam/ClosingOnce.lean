import ExamHall.Proofs.Exam.Interleaving
import ExamHall.Proofs.Session.Serving

/-!
# An attempt is closed once

Whatever steps act on an attempt in whatever order, the first submission closes
it, the first grading after that stores its automatic scores, and all others
find nothing to do.  The status of the row decides each time: a submission asks
for `in_progress`, a grading for `submitted`, and a review for a row with
scores.
-/

namespace ExamHall

open Store

variable {now : Instant} {before after : Store} {attempt graded other : Attempt}

/-! ## What gradings and reviews do to the rows of attempts -/

/-- A review leaves attempts without scores alone. -/
theorem ReviewsInto.mem_of_unscored
    (into : ReviewsInto now before attempt after)
    (listed : other ∈ before.attempts)
    (unscored : other.status.isScored = false) : other ∈ after.attempts := by
  obtain ⟨_, _, _, _, _, _, _, _, reviews, -, rfl⟩ := into
  refine mem_updateWhere_of_not listed
    (Bool.eq_false_iff.mpr fun selected => ?_)
  have scored := reviews.scored
  rw [← (hasStatus_eq_true.mp selected).2, unscored] at scored
  cases scored

/-- A review leaves an attempt with scores scored and submitted when it was. -/
theorem ReviewsInto.exists_scored (into : ReviewsInto now before attempt after)
    (listed : other ∈ before.attempts) (scored : other.status.isScored = true) :
    ∃ later ∈ after.attempts, later.id = other.id ∧
      later.submittedAt = other.submittedAt ∧ later.status.isScored = true := by
  obtain ⟨_, _, _, _, totals, _, _, _, -, -, rfl⟩ := into
  cases selected : hasStatus attempt.id attempt.status other with
  | true =>
      exact ⟨_, mem_updateWhere_of_holds listed selected, rfl, rfl,
        totals.isScored_statusAfterManual⟩
  | false =>
      exact ⟨other, mem_updateWhere_of_not listed selected, rfl, rfl, scored⟩

theorem IsWorkedOn.closingTime (worked : IsWorkedOn now before attempt) :
    attempt.closingTime now = now :=
  if_neg fun passed =>
    Int.not_le.mpr worked.inTime (isExpired_eq_true.mp passed)

namespace Exam

variable {caller : Caller} {step : AtomicStep} {returned : Returned}

/-! ## Steps on an attempt in progress -/

/-- What a step leaves of an attempt in progress: it is still running and
nothing has been graded, or it has been submitted as of the given time. -/
inductive Leaves (attempt : Attempt) (closingTime? : Option Instant)
    (before after : Store) : Returned → Prop where
  | running {grading : Option (Option Attempt)}
      (kept : ∃ other ∈ after.attempts, other.id = attempt.id ∧
        other.status = .inProgress) (ungraded : ∀ found, grading = some found →
          found = none ∧ after = before) :
      Leaves attempt closingTime? before after ⟨none, grading⟩
  | closed {row : Attempt} {time : Instant} (same : closingTime? = some time)
      (submitted : IsSubmittedRow attempt.id time after row) :
      Leaves attempt closingTime? before after ⟨some (some row), none⟩

theorem Leaves.untouched {closingTime? : Option Instant}
    (listed : attempt ∈ after.attempts)
    (running : attempt.status = .inProgress) :
    Leaves attempt closingTime? before after ⟨none, none⟩ :=
  .running ⟨attempt, listed, rfl, running⟩ fun _ given =>
    (Option.some_ne_none _ given.symm).elim

theorem markSubmitted_of_running {submittedAt : Instant}
    {found : Option Attempt} (ids : (before.attempts.map (·.id)).Nodup)
    (listed : attempt ∈ before.attempts)
    (running : attempt.status = .inProgress)
    (ended : markSubmitted attempt.id submittedAt now before =
      .ok (found, after)) :
    ∃ row, found = some row ∧
      IsSubmittedRow attempt.id submittedAt after row := by
  obtain ⟨-, -, rfl, rfl⟩ := markSubmitted_eq_ok.mp ended
  rw [find?_hasStatus ids listed running]
  refine ⟨_, rfl, mem_updateWhere_of_holds listed ?_, rfl, rfl, rfl⟩
  exact hasStatus_eq_true.mpr ⟨rfl, running⟩

/-- A write into an attempt in progress does its work in time, or submits the
attempt as of its deadline. -/
theorem whileOpen_of_running {α : Type}
    {work : Attempt → Transaction AttemptError α}
    {submission : α → Option (Option Attempt)} {entry : Entry α}
    (ids : (before.attempts.map (·.id)).Nodup)
    (listed : attempt ∈ before.attempts)
    (running : attempt.status = .inProgress)
    (working : ∀ value, IsWorkedOn now before attempt →
      work attempt before = .ok (value, after) → Leaves attempt
        (some (attempt.closingTime now)) before after ⟨submission value, none⟩)
    (ended : whileOpen caller attempt.id now work before = .ok (entry, after)) :
    Leaves attempt (some (attempt.closingTime now)) before after
      (entry.returned submission) := by
  obtain ⟨-, -, _, found, -, -, ended⟩ := whileOpen_eq_ok.mp ended
  obtain rfl :=
    Option.some.inj ((find?_key_eq_some ids listed).symm.trans found)
  split at ended
  · next passed =>
      obtain ⟨_, marked, rfl⟩ := ended
      obtain ⟨row, rfl, submitted⟩ :=
        markSubmitted_of_running ids listed running marked
      exact .closed (congrArg some (if_pos passed)) submitted
  · next left =>
      obtain ⟨value, worked, rfl⟩ := ended
      exact working value ⟨listed, running, lt_of_not_isExpired left⟩ worked

/-- What a violation leads to: the attempt stays in progress, or it is submitted
now. -/
theorem escalate_of_running {assignment : Assignment} {violation : Violation}
    (ids : (before.attempts.map (·.id)).Nodup)
    (worked : IsWorkedOn now before attempt)
    (ended : escalate attempt assignment now before = .ok (violation, after)) :
    Leaves attempt (some now) before after ⟨violation.submission, none⟩ := by
  have flags := fun reason => (worked.marked reason).listed
  have idle : ∀ found, (none : Option (Option Attempt)) = some found →
    found = none ∧ after = before := fun _ given =>
      (Option.some_ne_none _ given.symm).elim
  simp only [escalate] at ended
  cases kind : escalation attempt.violationCount assignment.tabSwitchThreshold
      assignment.tabSwitchAction with
  | none =>
      simp only [kind, pure_eq_ok] at ended
      obtain ⟨rfl, rfl⟩ := ended
      exact .untouched worked.listed worked.running
  | warn =>
      simp only [kind, pure_eq_ok] at ended
      obtain ⟨rfl, rfl⟩ := ended
      exact .untouched worked.listed worked.running
  | flag =>
      simp only [kind, bind_eq_ok, Transaction.lift_eq_ok, flag_eq_ok,
        pure_eq_ok] at ended
      obtain ⟨_, _, ⟨-, -, -, rfl⟩, rfl, rfl⟩ := ended
      exact .running ⟨_, flags _, rfl, worked.running⟩ idle
  | autoSubmit =>
      simp only [kind, bind_eq_ok, Transaction.lift_eq_ok, flag_eq_ok,
        pure_eq_ok] at ended
      obtain ⟨_, _, ⟨-, -, -, rfl⟩, _, _, submitted, rfl, rfl⟩ := ended
      have sameIds :
        (updateWhere (fun other => other.id == attempt.id) (Store.marked
          (flagReason attempt.violationCount assignment.tabSwitchThreshold) now)
          before.attempts).map (·.id) = before.attempts.map (·.id) :=
        map_updateWhere fun _ => rfl
      obtain ⟨row, rfl, closed⟩ :=
        @markSubmitted_of_running _ _ _ (Store.marked _ now attempt) _ _
          (sameIds ▸ ids) (flags _) worked.running submitted
      exact .closed rfl closed

theorem violation_of_running {violation : Violation} (lawful : before.Lawful)
    (worked : IsWorkedOn now before attempt)
    (ended : (do
      let assignment ← assignment attempt.assignmentId
      let counted ←
        Transaction.demand (← countViolation attempt.id now) .noLongerInProgress
      escalate counted assignment now : Transaction AttemptError Violation)
        before = .ok (violation, after)) :
    Leaves attempt (some (attempt.closingTime now)) before after
      ⟨violation.submission, none⟩ := by
  obtain ⟨assignment, escalated⟩ :=
    exists_escalate lawful.sittings.ids worked ended
  have counted := (Change.violated worked).lawful lawful
  have leaves :=
    escalate_of_running counted.sittings.ids worked.violated escalated
  rw [worked.closingTime]
  generalize violation.submission = submission at leaves
  cases leaves with
  | running kept _ =>
      exact .running kept fun _ given => (Option.some_ne_none _ given.symm).elim
  | closed same submitted => exact .closed same submitted

theorem grade_of_running
    {result : Option (Attempt × Variant (List VariantQuestion))}
    {closingTime? : Option Instant} (lawful : before.Lawful)
    (listed : attempt ∈ before.attempts)
    (running : attempt.status = .inProgress)
    (ended : gradeTransaction attempt.id now before = .ok (result, after)) :
    Leaves attempt closingTime? before after
      ⟨none, some (result.map (·.1))⟩ := by
  rcases gradeTransaction_gradesInto lawful ended with ⟨rfl, rfl, -⟩
    | ⟨_, _, _, same, -, into⟩
  · exact .running ⟨attempt, listed, rfl, running⟩ fun _ given =>
      ⟨(Option.some.inj given).symm, rfl⟩
  · obtain ⟨_, _, _, _, _, _, _, grades, -⟩ := into
    obtain rfl := eq_of_key lawful.sittings.ids grades.listed listed same
    cases running.symm.trans grades.submitted

/-- What a step leaves of an attempt in progress. -/
theorem run_of_running (lawful : before.Lawful)
    (listed : attempt ∈ before.attempts)
    (running : attempt.status = .inProgress)
    (ended : step.run attempt.id before = .ok (returned, after)) :
    Leaves attempt (step.closingTime? attempt) before after returned := by
  have ids := lawful.sittings.ids
  cases step with
  | submit submittedAt now =>
      simp only [AtomicStep.run, bind_eq_ok, Transaction.lift_eq_ok, pure_eq_ok]
        at ended
      obtain ⟨_, _, marked, rfl, rfl⟩ := ended
      obtain ⟨row, rfl, submitted⟩ :=
        markSubmitted_of_running ids listed running marked
      exact .closed rfl submitted
  | grade now =>
      simp only [AtomicStep.run, bind_eq_ok, pure_eq_ok] at ended
      obtain ⟨_, _, graded, rfl, rfl⟩ := ended
      exact grade_of_running lawful listed running graded
  | save caller now input =>
      obtain ⟨_, saved, rfl⟩ := map_eq_ok.mp ended
      refine whileOpen_of_running ids listed running
        (fun _ worked written => ?_) saved
      have saves := savesInto_of_worked (fun _ _ shown saved =>
          saveOne_savesInto lawful worked shown saved) written
      exact .untouched (saves.attempts.symm ▸ listed) running
  | saveBatch caller now inputs =>
      obtain ⟨_, saved, rfl⟩ := map_eq_ok.mp ended
      refine whileOpen_of_running ids listed running
        (fun _ worked written => ?_) saved
      have saves := savesInto_of_worked (fun _ _ shown saved =>
          saveEach_savesInto lawful worked shown saved) written
      exact .untouched (saves.attempts.symm ▸ listed) running
  | violation caller now =>
      obtain ⟨_, reported, rfl⟩ := map_eq_ok.mp ended
      exact whileOpen_of_running ids listed running (fun _ worked written =>
          violation_of_running lawful worked written) reported
  | review reviewer answerId review now =>
      obtain ⟨rfl, _, into⟩ := reviewStep_reviewsInto lawful ended
      have unscored : attempt.status.isScored = false := by
        rw [running]
        rfl
      exact .untouched (into.mem_of_unscored listed unscored) running

theorem event_of_running (lawful : before.Lawful)
    (listed : attempt ∈ before.attempts)
    (running : attempt.status = .inProgress) (step : AtomicStep) :
    (step.event attempt.id before).KeepsOpen attempt.id ∨
    ∃ row, row.id = attempt.id ∧ (step.event attempt.id before).Closes row := by
  cases ended : step.run attempt.id before with
  | error halt =>
      rw [event_of_error ended]
      refine .inl ⟨⟨attempt, listed, rfl, running⟩, ?_, ?_, fun _ _ => rfl⟩
      · intro _ same
        cases same
      · intro _ _ same
        cases same
  | ok result =>
      obtain ⟨returned, after⟩ := result
      rw [event_of_ok ended]
      cases run_of_running lawful listed running ended with
      | running kept ungraded =>
          refine .inl ⟨kept, ?_, ?_, ?_⟩
          · rintro _ same
            cases same
            rfl
          · rintro _ found same given
            cases same
            exact ungraded found given
          · intro _ same
            cases same
      | @closed row time same submitted =>
          exact .inr ⟨row, submitted.id, ⟨_, rfl, rfl, rfl⟩, attempt, listed,
            running, time, same, submitted⟩

/-! ## Steps on a closed attempt -/

/-- What a step that ends well has done where an attempt is closed. -/
inductive Meets (attempt : Attempt) (step : AtomicStep) (before after : Store) :
    Returned → Prop where
  | submits (unchanged : after = before) :
      Meets attempt step before after ⟨some none, none⟩
  | passes (graded : attempt.status ≠ .submitted) (unchanged : after = before) :
      Meets attempt step before after ⟨none, some none⟩
  | grades {now : Instant} {graded : Attempt} (same : step = .grade now)
      (into : GradesInto now before attempt graded after) :
      Meets attempt step before after ⟨none, some (some graded)⟩
  | reviews {now : Instant} {other : Attempt}
      (into : ReviewsInto now before other after) :
      Meets attempt step before after ⟨none, none⟩

/-- A write into an attempt that is not in progress is refused. -/
theorem whileOpen_of_closed {α : Type}
    {work : Attempt → Transaction AttemptError α} {id : String}
    (closed : ∀ attempt ∈ before.attempts, attempt.id = id →
      attempt.status ≠ .inProgress) :
    ∃ error, whileOpen caller id now work before = .error (.refused error) := by
  unfold whileOpen
  cases read : attempt? id before with
  | error fault => exact ⟨_, bind_of_error (Transaction.lift_of_error read)⟩
  | ok result =>
      obtain ⟨_, store⟩ := result
      obtain ⟨-, -, rfl, rfl⟩ := attempt?_eq_ok.mp read
      rw [bind_of_ok (Transaction.lift_eq_ok.mpr read)]
      cases found : store.attempts.find? (·.id == id) with
      | none => exact ⟨_, bind_of_error rfl⟩
      | some attempt =>
          obtain ⟨listed, same⟩ := mem_and_key_of_find? found
          rw [bind_of_ok (Transaction.demand_eq_ok.mpr ⟨rfl, rfl⟩)]
          cases own : attempt.studentId == caller.id with
          | false => exact ⟨_, bind_of_error rfl⟩
          | true =>
              have passed :
                Transaction.require true AttemptError.foreignAttempt store =
                  .ok ((), store) := rfl
              rw [bind_of_ok passed,
                decide_eq_false (closed attempt listed same)]
              exact ⟨_, bind_of_error rfl⟩

/-- A closed attempt is not submitted again. -/
theorem markSubmitted_of_closed {submittedAt : Instant} {found : Option Attempt}
    (ids : (before.attempts.map (·.id)).Nodup)
    (listed : attempt ∈ before.attempts) (closed : attempt.status ≠ .inProgress)
    (ended : markSubmitted attempt.id submittedAt now before =
      .ok (found, after)) : found = none ∧ after = before := by
  obtain ⟨-, -, rfl, rfl⟩ := markSubmitted_eq_ok.mp ended
  have none : ∀ other ∈ before.attempts,
      hasStatus attempt.id .inProgress other = false := by
    intro other inside
    refine Bool.eq_false_iff.mpr fun selected => ?_
    obtain ⟨same, running⟩ := hasStatus_eq_true.mp selected
    obtain rfl := eq_of_key ids inside listed same
    exact closed running
  rw [updateWhere_of_forall_not none,
      List.find?_eq_none.mpr fun other inside => by
    rw [none other inside]
    exact Bool.false_ne_true]
  exact ⟨rfl, rfl⟩

theorem write_of_closed (ids : (before.attempts.map (·.id)).Nodup)
    (listed : attempt ∈ before.attempts) (closed : attempt.status ≠ .inProgress)
    (write : step.isWrite = true) :
    ∃ error, step.run attempt.id before = .error (.refused error) := by
  have stays : ∀ other ∈ before.attempts, other.id = attempt.id →
      other.status ≠ .inProgress := by
    intro other inside same
    obtain rfl := eq_of_key ids inside listed same
    exact closed
  cases step with
  | save caller now input =>
      exact (whileOpen_of_closed stays).imp fun _ => map_of_error
  | saveBatch caller now inputs =>
      exact (whileOpen_of_closed stays).imp fun _ => map_of_error
  | violation caller now =>
      exact (whileOpen_of_closed stays).imp fun _ => map_of_error
  | submit | grade | review => cases write

theorem grade_of_closed
    {result : Option (Attempt × Variant (List VariantQuestion))}
    (lawful : before.Lawful) (listed : attempt ∈ before.attempts)
    (ended : gradeTransaction attempt.id now before = .ok (result, after)) :
    Meets attempt (.grade now) before after
      ⟨none, some (result.map (·.1))⟩ := by
  rcases gradeTransaction_gradesInto lawful ended with
    ⟨rfl, rfl, none⟩ | ⟨other, graded, _, same, rfl, into⟩
  · refine .passes (fun submitted => ?_) rfl
    have selected := none attempt listed
    rw [hasStatus_eq_true.mpr ⟨rfl, submitted⟩] at selected
    cases selected
  · have inside : other ∈ before.attempts := by
      obtain ⟨_, _, _, _, _, _, _, grades, -⟩ := into
      exact grades.listed
    obtain rfl := eq_of_key lawful.sittings.ids inside listed same
    exact .grades rfl into

/-- What a step that ends well has done where an attempt is closed. -/
theorem run_of_closed (lawful : before.Lawful)
    (listed : attempt ∈ before.attempts) (closed : attempt.status ≠ .inProgress)
    (ended : step.run attempt.id before = .ok (returned, after)) :
    step.isWrite = false ∧ Meets attempt step before after returned := by
  have ids := lawful.sittings.ids
  have reads : step.isWrite = false := by
    refine Bool.eq_false_iff.mpr fun write => ?_
    obtain ⟨error, refused⟩ := write_of_closed ids listed closed write
    cases ended.symm.trans refused
  refine ⟨reads, ?_⟩
  cases step with
  | submit submittedAt now =>
      simp only [AtomicStep.run, bind_eq_ok, Transaction.lift_eq_ok, pure_eq_ok]
        at ended
      obtain ⟨_, _, marked, rfl, rfl⟩ := ended
      obtain ⟨rfl, rfl⟩ := markSubmitted_of_closed ids listed closed marked
      exact .submits rfl
  | grade now =>
      simp only [AtomicStep.run, bind_eq_ok, pure_eq_ok] at ended
      obtain ⟨_, _, graded, rfl, rfl⟩ := ended
      exact grade_of_closed lawful listed graded
  | review reviewer answerId review now =>
      obtain ⟨rfl, _, into⟩ := reviewStep_reviewsInto lawful ended
      exact .reviews into
  | save | saveBatch | violation => cases reads

/-- Nothing writes into a closed attempt or submits it again. -/
theorem event_findsClosed (lawful : before.Lawful)
    (listed : attempt ∈ before.attempts) (closed : attempt.status ≠ .inProgress)
    (step : AtomicStep) : (step.event attempt.id before).FindsClosed := by
  cases ended : step.run attempt.id before with
  | error halt =>
      rw [event_of_error ended]
      refine ⟨?_, fun write => ?_, fun _ _ => rfl⟩
      · intro _ _ same
        cases same
      · obtain ⟨error, refused⟩ :=
          write_of_closed lawful.sittings.ids listed closed write
        cases ended.symm.trans refused
        exact ⟨error, rfl⟩
  | ok result =>
      obtain ⟨returned, after⟩ := result
      obtain ⟨reads, meets⟩ := run_of_closed lawful listed closed ended
      rw [event_of_ok ended]
      refine ⟨?_, fun write => Bool.noConfusion (write.symm.trans reads), ?_⟩
      · rintro _ found same given
        cases same
        cases meets with
        | submits unchanged =>
            cases given
            exact ⟨rfl, unchanged⟩
        | passes | grades | reviews => cases given
      · intro _ same
        cases same

/-- A step on a submitted attempt grades it or lets it wait. -/
theorem event_of_submitted (lawful : before.Lawful)
    (listed : attempt ∈ before.attempts)
    (submitted : attempt.status = .submitted) (step : AtomicStep) :
    (step.event attempt.id before).Waits attempt ∨
    (step.event attempt.id before).Grades attempt := by
  have closed : attempt.status ≠ .inProgress := by
    rw [submitted]
    exact fun same => AttemptStatus.noConfusion same
  have finds := event_findsClosed lawful listed closed step
  cases ended : step.run attempt.id before with
  | error halt =>
      rw [event_of_error ended] at finds ⊢
      refine .inl ⟨finds, listed, ?_⟩
      intro _ same
      cases same
  | ok result =>
      obtain ⟨returned, after⟩ := result
      rw [event_of_ok ended] at finds ⊢
      have waits : attempt ∈ after.attempts → returned.grading = none →
          Event.Waits attempt ⟨step, .ok returned, before, after⟩ := by
        intro kept ungraded
        refine ⟨finds, kept, ?_⟩
        rintro _ same
        cases same
        exact ungraded
      cases (run_of_closed lawful listed closed ended).2 with
      | submits unchanged => exact .inl (waits (unchanged ▸ listed) rfl)
      | passes graded => exact absurd submitted graded
      | @grades now graded same into =>
          exact .inr ⟨now, graded, same, rfl, into⟩
      | reviews into =>
          have unscored : attempt.status.isScored = false := by
            rw [submitted]
            rfl
          exact .inl (waits (into.mem_of_unscored listed unscored) rfl)

/-- A step on an attempt with scores leaves them to the reviewers. -/
theorem event_of_scored {row : Attempt} (lawful : before.Lawful)
    (listed : attempt ∈ before.attempts) (sameId : attempt.id = row.id)
    (sameTime : attempt.submittedAt = row.submittedAt)
    (scored : attempt.status.isScored = true) (step : AtomicStep) :
    (step.event row.id before).Rests row := by
  rw [← sameId]
  have closed := AttemptStatus.ne_inProgress_of_isScored scored
  have finds := event_findsClosed lawful listed closed step
  cases ended : step.run attempt.id before with
  | error halt =>
      rw [event_of_error ended] at finds ⊢
      refine ⟨finds, ⟨attempt, listed, sameId, sameTime, scored⟩, ?_⟩
      intro _ _ same
      cases same
  | ok result =>
      obtain ⟨returned, after⟩ := result
      rw [event_of_ok ended] at finds ⊢
      have rests : (∃ later ∈ after.attempts, later.id = row.id ∧
            later.submittedAt = row.submittedAt ∧
            later.status.isScored = true) → (∀ found,
              returned.grading = some found → found = none ∧ after = before) →
          Event.Rests row ⟨step, .ok returned, before, after⟩ := by
        intro kept regraded
        refine ⟨finds, kept, ?_⟩
        rintro _ found same given
        cases same
        exact regraded found given
      cases (run_of_closed lawful listed closed ended).2 with
      | submits unchanged =>
          refine rests ⟨attempt, unchanged ▸ listed, sameId, sameTime,
            scored⟩ fun _ given => ?_
          cases given
      | passes graded unchanged =>
          refine rests ⟨attempt, unchanged ▸ listed, sameId, sameTime,
            scored⟩ fun _ given => ?_
          cases given
          exact ⟨rfl, unchanged⟩
      | grades same into =>
          obtain ⟨_, _, _, _, _, _, _, grades, -⟩ := into
          exact absurd grades.submitted
            (AttemptStatus.ne_submitted_of_isScored scored)
      | reviews into =>
          obtain ⟨later, inside, laterId, laterTime, laterScored⟩ :=
            into.exists_scored listed scored
          refine rests ⟨later, inside, laterId.trans sameId,
            laterTime.trans sameTime, laterScored⟩ fun _ given => ?_
          cases given

/-- The attempt that has been graded is scored since then. -/
theorem Event.Grades.kept {row : Attempt} {event : Event}
    (grades : event.Grades row) :
    ∃ attempt ∈ event.after.attempts, attempt.id = row.id ∧
      attempt.submittedAt = row.submittedAt ∧
      attempt.status.isScored = true := by
  obtain ⟨_, graded, -, -, into⟩ := grades
  exact ⟨graded, into.listed⟩

/-! ## Histories -/

theorem history_rests {row : Attempt} {store : Store} (lawful : store.Lawful)
    (kept : ∃ attempt ∈ store.attempts, attempt.id = row.id ∧
      attempt.submittedAt = row.submittedAt ∧ attempt.status.isScored = true)
    (steps : List AtomicStep) :
    ∀ event ∈ history row.id store steps, event.Rests row := by
  induction steps generalizing store with
  | nil => exact List.forall_mem_nil _
  | cons step rest ih =>
      obtain ⟨attempt, listed, sameId, sameTime, scored⟩ := kept
      have rests := event_of_scored lawful listed sameId sameTime scored step
      exact List.forall_mem_cons.mpr ⟨rests,
        ih (event_keeps lawful row.id step).1 rests.kept⟩

theorem history_gradesOnce {row : Attempt} {store : Store}
    (lawful : store.Lawful) (listed : row ∈ store.attempts)
    (submitted : row.status = .submitted) (steps : List AtomicStep) :
    GradesOnce row (history row.id store steps) := by
  induction steps generalizing store with
  | nil => exact .never (List.forall_mem_nil _)
  | cons step rest ih =>
      have lawful' := (event_keeps lawful row.id step).1
      rcases event_of_submitted lawful listed submitted step with waits | grades
      · exact .cons waits (ih lawful' waits.kept)
      · exact @GradesOnce.once row [] _ _ (List.forall_mem_nil _) grades
          (history_rests lawful' grades.kept rest)

theorem history_closesOnce {id : String} {store : Store} (lawful : store.Lawful)
    (running : ∃ attempt ∈ store.attempts, attempt.id = id ∧
      attempt.status = .inProgress) (steps : List AtomicStep) :
    ClosesOnce id (history id store steps) := by
  induction steps generalizing store with
  | nil => exact .never (List.forall_mem_nil _)
  | cons step rest ih =>
      have lawful' := (event_keeps lawful id step).1
      obtain ⟨attempt, listed, rfl, running⟩ := running
      rcases event_of_running lawful listed running step
        with opens | ⟨row, same, closes⟩
      · exact .cons opens (ih lawful' opens.running)
      · obtain ⟨_, -, -, _, -, submitted⟩ := closes.submitted
        refine @ClosesOnce.once _ [] _ _ row (List.forall_mem_nil _) same
          closes ?_
        rw [← same]
        exact history_gradesOnce (same.symm ▸ lawful')
          (same.symm ▸ submitted.listed) submitted.status rest

/-- Whatever steps are taken on an attempt in progress, in whatever order and
with whatever arguments, it is submitted once and graded once, and everything
that is too early or too late finds nothing to do.  Where nothing stands in the
way, no submission and no grading fails. -/
theorem attempt_closes_once {store : Store} {attempt : Attempt}
    (lawful : store.Lawful) (listed : attempt ∈ store.attempts)
    (running : attempt.status = .inProgress) (steps : List AtomicStep) :
    ClosesOnce attempt.id (history attempt.id store steps) ∧
    (store.IsReliable → ∀ event ∈ history attempt.id store steps,
      event.step.isCompletion = true →
      ∃ returned, event.result = .ok returned) :=
  ⟨history_closesOnce lawful ⟨attempt, listed, rfl, running⟩ steps,
    fun reliable => history_completes reliable
      (lawful.sittings.keys attempt listed).plain steps⟩

/-- The store of a service after its student has started the test. -/
def startedTest (service : Session) : Store :=
  (start ⟨"s", .student⟩ "a" none service.context ⟨service.store, []⟩).2.store

theorem isReliable_startedTest {service : Session}
    (reliable : service.store.IsReliable) :
    (startedTest service).IsReliable := by
  have settled :=
    @start_settles service.context service.store ⟨"s", .student⟩ "a" none
      reliable.lawful _ (@World.IsSettled.refl service.now ⟨service.store, []⟩)
  exact settled.reached.reliable reliable

/-- Two submissions and a late save race each other, with gradings before,
between and after them. -/
def racingSteps : List AtomicStep :=
  let now := Column.origin
  [.grade now, .submit now now,
    .save ⟨"s", .student⟩ now ⟨"q", .null, none, false⟩, .submit ⟨0⟩ now,
    .grade now, .violation ⟨"s", .student⟩ now, .grade now, .submit now now]

/-- The racing submissions of the student's attempt close it once, and none of
them fails. -/
theorem startedTest_closes_once :
    let store := startedTest (Session.withOneStudent Column.origin)
    store.Lawful ∧ store.IsReliable ∧
      ∃ attempt ∈ store.attempts, attempt.status = .inProgress ∧
        ClosesOnce attempt.id (history attempt.id store racingSteps) ∧
        ∀ event ∈ history attempt.id store racingSteps,
          event.step.isCompletion = true →
          ∃ returned, event.result = .ok returned := by
  intro store
  have reliable : store.IsReliable :=
    isReliable_startedTest (Session.isCurrent_of_no_attempts
        (Session.withOneStudent_lawful _) rfl
      rfl (Session.withOneStudent_papers _)).reliable
  have begun : ∃ attempt ∈ store.attempts, attempt.status = .inProgress := by
    decide +kernel
  obtain ⟨attempt, listed, running⟩ := begun
  obtain ⟨once, completes⟩ :=
    attempt_closes_once reliable.lawful listed running racingSteps
  exact ⟨reliable.lawful, reliable, attempt, listed, running, once,
    completes reliable⟩

/-- The results of the race: the first submission wins, and so does the first
grading after it. -/
example :
    let store := startedTest (Session.withOneStudent Column.origin)
    (history "attempt-1" store racingSteps).map (fun event =>
      match event.result with
      | .ok returned => (returned.submission.map Option.isSome,
          returned.grading.map Option.isSome)
      | .error _ => (none, none)) =
    [(none, some false), (some true, none), (none, none), (some false, none),
      (none, some true), (none, none), (none, some false),
      (some false, none)] := by
  decide +kernel

end Exam

end ExamHall
