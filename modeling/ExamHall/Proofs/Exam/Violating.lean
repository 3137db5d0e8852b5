import ExamHall.Proofs.Attempt.Marks
import ExamHall.Proofs.Exam.Working

/-!
# What a violation leads to

A violation that is reported in time is counted.  From the threshold of the
assignment on, it then leads to what the assignment says: the attempt is
flagged, or flagged and submitted.  Only the row of the attempt is changed.
-/

namespace ExamHall

open Store ExamHall.Action

/-- A counted violation has led to what an assignment says. -/
def Attempt.escalated (assignment : Assignment) (now : Instant)
    (counted : Attempt) : Attempt :=
  let flagged := marked (ExamHall.flagReason counted.violationCount
      assignment.tabSwitchThreshold) now counted
  match escalation counted.violationCount assignment.tabSwitchThreshold
      assignment.tabSwitchAction with
  | .none | .warn => counted
  | .flag => flagged
  | .autoSubmit => submitted now now flagged

/-- A reported violation has been counted, and has led to what an assignment
says. -/
def Attempt.reported (assignment : Assignment) (now : Instant)
    (attempt : Attempt) : Attempt :=
  (violated now attempt).escalated assignment now

/-- What the next violation of an attempt leads to. -/
def Attempt.nextEscalation (assignment : Assignment) (attempt : Attempt) :
    Escalation :=
  escalation (attempt.violationCount + 1) assignment.tabSwitchThreshold
    assignment.tabSwitchAction

/-- A store after a violation of the attempt with an id has been reported. -/
def Store.reporting (store : Store) (attemptId : String)
    (assignment : Assignment) (now : Instant) : Store :=
  { store with
    attempts := updateWhere (hasStatus attemptId .inProgress)
      (Attempt.reported assignment now) store.attempts }

variable {now : Instant} {store after : Store} {attempt counted : Attempt}
  {assignment : Assignment}

theorem Attempt.Kept.reported (assignment : Assignment) (now : Instant)
    (attempt : Attempt) :
    Attempt.Kept attempt (attempt.reported assignment now) := by
  have counts : Attempt.Kept attempt (Store.violated now attempt) :=
    .violated now attempt
  have flags : ∀ reason, Attempt.Kept attempt
      (Store.marked reason now (Store.violated now attempt)) :=
    fun reason => counts.trans (.marked reason now _)
  unfold Attempt.reported Attempt.escalated
  dsimp only
  split
  · exact counts
  · exact counts
  · exact flags _
  · exact (flags _).trans (.submitted now now _)

/-- The report that reaches the threshold submits the attempt, if that is what
the assignment says. -/
theorem Attempt.reported_of_autoSubmit
    (closing : attempt.nextEscalation assignment = .autoSubmit) :
    (attempt.reported assignment now).status = .submitted ∧
    (attempt.reported assignment now).submittedAt = some (Column.time now) := by
  have kind : escalation (violated now attempt).violationCount
    assignment.tabSwitchThreshold assignment.tabSwitchAction =
    .autoSubmit := closing
  unfold Attempt.reported Attempt.escalated
  rw [kind]
  exact ⟨rfl, rfl⟩

/-- Any other report leaves it in progress. -/
theorem Attempt.status_reported
    (goesOn : attempt.nextEscalation assignment ≠ .autoSubmit) :
    (attempt.reported assignment now).status = attempt.status := by
  unfold Attempt.reported Attempt.escalated
  dsimp only
  split
  · rfl
  · rfl
  · rfl
  · next closing => exact (goesOn closing).elim

/-- Without a threshold, or with a mere warning, a report is counted and nothing
else. -/
theorem Attempt.reported_of_spared
    (spared : assignment.tabSwitchThreshold ≤ 0 ∨
      assignment.tabSwitchAction = .warn) :
    Attempt.reported assignment now = violated now := by
  funext attempt
  have kind : ∀ violations, escalation violations assignment.tabSwitchThreshold
      assignment.tabSwitchAction = .none ∨
      escalation violations assignment.tabSwitchThreshold
        assignment.tabSwitchAction = .warn := by
    intro violations
    unfold escalation
    split
    · exact .inl rfl
    · next reached =>
        rw [spared.resolve_left fun without => reached (.inl without)]
        exact .inr rfl
  unfold Attempt.reported Attempt.escalated
  rcases kind (violated now attempt).violationCount with kind | kind <;>
    rw [kind]

theorem mem_reporting (listed : attempt ∈ store.attempts)
    (running : attempt.status = .inProgress) :
    attempt.reported assignment now ∈
      (store.reporting attempt.id assignment now).attempts :=
  mem_updateWhere_of_holds listed (hasStatus_eq_true.mpr ⟨rfl, running⟩)

namespace Exam

/-- What the transaction of a violation gives back: the row as it is now, and
whether that has been submitted. -/
structure Violation.Shows (row : Attempt) (leadsTo : Escalation)
    (violation : Violation) : Prop where
  escalation : violation.escalation = leadsTo
  variantId : violation.attempt.variantId = row.variantId
  row : violation.submitted.getD violation.attempt = row
  submitted : violation.submitted.isSome = true ↔ leadsTo = .autoSubmit

/-- Where an attempt is in progress, its row is the one with its id. -/
theorem updateWhere_id_of_running {attempts : List Attempt}
    (ids : (attempts.map (·.id)).Nodup) (listed : counted ∈ attempts)
    (running : counted.status = .inProgress) (change : Attempt → Attempt) :
    updateWhere (fun row => row.id == counted.id) change attempts =
      updateWhere (hasStatus counted.id .inProgress) change attempts := by
  refine updateWhere_congr fun row inside => ⟨?_, fun _ => rfl⟩
  rw [Bool.eq_iff_iff, beq_iff_eq, hasStatus_eq_true]
  exact ⟨fun same => ⟨same, eq_of_key ids inside listed same ▸ running⟩,
    And.left⟩

/-- What a change does to other rows does not matter where it is made to one row
only. -/
theorem updateWhere_running_congr {attempts : List Attempt}
    {change other : Attempt → Attempt} (ids : (attempts.map (·.id)).Nodup)
    (listed : counted ∈ attempts) (same : change counted = other counted) :
    updateWhere (hasStatus counted.id .inProgress) change attempts =
      updateWhere (hasStatus counted.id .inProgress) other attempts :=
  updateWhere_congr fun _ inside => ⟨rfl, fun selected =>
    eq_of_key ids inside listed (hasStatus_eq_true.mp selected).1 ▸ same⟩

/-- An attempt that has been flagged is still found in progress. -/
theorem find?_marked {attempts : List Attempt} {reason : String}
    (ids : (attempts.map (·.id)).Nodup) (listed : counted ∈ attempts)
    (running : counted.status = .inProgress) :
    (updateWhere (hasStatus counted.id .inProgress) (marked reason now)
      attempts).find? (hasStatus counted.id .inProgress) =
      some (marked reason now counted) := by
  have same : (updateWhere (hasStatus counted.id .inProgress)
      (marked reason now) attempts).map (·.id) = attempts.map (·.id) :=
    map_updateWhere fun _ => rfl
  exact @find?_hasStatus _ (marked reason now counted) _ (same ▸ ids)
    (mem_updateWhere_of_holds listed (hasStatus_eq_true.mpr ⟨rfl, running⟩))
    running

theorem escalate_inverts {violation : Violation}
    (ids : (store.attempts.map (·.id)).Nodup)
    (listed : counted ∈ store.attempts) (running : counted.status = .inProgress)
    (ended : escalate counted assignment now store = .ok (violation, after)) :
    violation.Shows (counted.escalated assignment now)
      (ExamHall.escalation counted.violationCount assignment.tabSwitchThreshold
        assignment.tabSwitchAction) ∧
      after = { store with
        attempts := updateWhere (hasStatus counted.id .inProgress)
          (Attempt.escalated assignment now) store.attempts } := by
  have instead {change : Attempt → Attempt}
      (same : counted.escalated assignment now = change counted) :
      updateWhere (hasStatus counted.id .inProgress)
        (Attempt.escalated assignment now) store.attempts = _ :=
    updateWhere_running_congr ids listed same
  have asIs : store = { store with
      attempts := updateWhere (hasStatus counted.id .inProgress)
        (fun row => row) store.attempts } := by
    simp [updateWhere]
  simp only [escalate] at ended
  generalize reasoned : ExamHall.flagReason counted.violationCount
    assignment.tabSwitchThreshold = reason at ended
  cases kind : ExamHall.escalation counted.violationCount
      assignment.tabSwitchThreshold assignment.tabSwitchAction with
  | none | warn =>
      simp only [kind, pure_eq_ok] at ended
      obtain ⟨rfl, rfl⟩ := ended
      have row : counted.escalated assignment now = counted := by
        rw [Attempt.escalated, kind]
      exact ⟨⟨rfl, by rw [row], by rw [row]; rfl, by simp⟩, by
          rw [@instead (fun row => row) row]; exact asIs⟩
  | flag =>
      simp only [kind, bind_eq_ok, Transaction.lift_eq_ok, flag_eq_ok,
        pure_eq_ok] at ended
      obtain ⟨flagged, _, ⟨-, -, rfl, rfl⟩, rfl, rfl⟩ := ended
      have row :
          counted.escalated assignment now = marked reason now counted := by
        rw [Attempt.escalated, kind, ← reasoned]
      rw [find?_key_eq_some ids listed, instead row,
        updateWhere_id_of_running ids listed running]
      exact ⟨⟨rfl, by rw [row]; rfl, by rw [row]; rfl, by simp⟩, rfl⟩
  | autoSubmit =>
      simp only [kind, bind_eq_ok, Transaction.lift_eq_ok, flag_eq_ok,
        markSubmitted_eq_ok, pure_eq_ok] at ended
      obtain ⟨_, _, ⟨-, -, -, rfl⟩, _, _, ⟨-, -, rfl, rfl⟩, rfl, rfl⟩ := ended
      have row : counted.escalated assignment now =
          submitted now now (marked reason now counted) := by
        rw [Attempt.escalated, kind, ← reasoned]
      rw [updateWhere_id_of_running ids listed running,
        find?_marked ids listed running,
        @instead (fun row => submitted now now (marked reason now row)) row]
      refine ⟨⟨rfl, by rw [row]; rfl, by rw [row]; rfl, by simp⟩, ?_⟩
      rw [updateWhere_updateWhere fun row inside => ?_]
      split <;> rfl

theorem assignment_inverts {id : String}
    (ended : Store.assignment id store = .ok (assignment, after)) :
    after = store ∧ assignment ∈ store.assignments ∧ assignment.id = id := by
  simp only [Store.assignment, bind_eq_ok, assignment?_eq_ok] at ended
  obtain ⟨found, _, ⟨-, -, rfl, same⟩, ended⟩ := ended
  cases found with
  | none => exact (Statement.fail_ne_ok ended).elim
  | some found =>
      obtain ⟨rfl, rfl⟩ := pure_eq_ok.mp ended
      exact ⟨rfl, mem_and_key_of_find? same.symm⟩

/-- A violation that is taken note of in time is one of an own attempt, and is
dealt with as its assignment says. -/
theorem violationTransaction_inverts {caller : Caller} {attemptId : String}
    {violation : Violation} (ids : (store.attempts.map (·.id)).Nodup)
    (ended : violationTransaction caller attemptId now store =
      .ok (.inTime violation, after)) :
    ∃ attempt assignment, IsOwn store caller.id attemptId attempt ∧
      now < attempt.deadlineAt ∧ assignment ∈ store.assignments ∧
      assignment.id = attempt.assignmentId ∧
      violation.Shows (attempt.reported assignment now)
        (attempt.nextEscalation assignment) ∧
      after = store.reporting attempt.id assignment now := by
  obtain ⟨-, -, attempt, found, student, running, ended⟩ :=
    whileOpen_eq_ok.mp ended
  obtain ⟨listed, same⟩ := mem_and_key_of_find? found
  split at ended
  · obtain ⟨_, -, other⟩ := ended
    cases other
  · next left =>
      obtain ⟨_, ended, same'⟩ := ended
      cases same'
      simp only [bind_eq_ok, Transaction.lift_eq_ok, Transaction.demand_eq_ok,
        countViolation_eq_ok] at ended
      obtain ⟨assignment, middle, read, _, _, ⟨-, -, -, rfl, rfl⟩, counted, _,
        ⟨here, rfl⟩, escalated⟩ := ended
      obtain ⟨unchanged, known, sameAssignment⟩ := assignment_inverts read
      obtain rfl := unchanged.symm
      rw [find?_hasStatus ids listed running, Option.map_some,
        Option.some.injEq] at here
      subst here
      have ids' : (updateWhere (hasStatus attempt.id .inProgress) (violated now)
          store.attempts).map (·.id) = store.attempts.map (·.id) :=
        map_updateWhere fun _ => rfl
      obtain ⟨shows, rfl⟩ := @escalate_inverts _ _ _ (violated now attempt) _ _
        (ids'.symm ▸ ids) (mem_updateWhere_of_holds listed
          (hasStatus_eq_true.mpr ⟨rfl, running⟩)) running escalated
      refine ⟨attempt, assignment, ⟨listed, same, student, running⟩,
        lt_of_not_isExpired left, known, sameAssignment, shows, ?_⟩
      refine congrArg (fun attempts => { store with attempts })
        (updateWhere_updateWhere fun row _ => ?_)
      split <;> rfl

/-- A report that is taken note of in time is told, and ends with the attempt as
it is then. -/
theorem reportViolation_apply {context : Context} {world : World}
    {caller : Caller} {attemptId : String} {violation : Violation}
    (ended : violationTransaction caller attemptId context.now world.store =
      .ok (.inTime violation, after)) :
    reportViolation caller attemptId context world =
      match variant violation.attempt.variantId after with
      | .ok (variant, _) =>
        let told := World.telling context
          (eventOf .violation (violation.submitted.getD violation.attempt)
            variant context.now after) { world with store := after }
        match violation.submitted with
        | none => (.ok ⟨violation.attempt, violation.escalation⟩, told)
        | some submitted =>
          ((fun given => ⟨given, violation.escalation⟩) <$> complete submitted)
            context told
      | .error fault => (.error (.refused (.storage fault)),
            { world with store := after }) := by
  unfold reportViolation
  rw [Action.read_bind_apply,
    Action.bind_apply_of_ok (Action.commit_of_ok ended)]
  have settled :
    (settleEntry (.inTime violation) : Action AttemptError Violation) context
      { world with store := after } =
        (.ok violation, { world with store := after }) := rfl
  rw [Action.bind_apply_of_ok settled]
  cases read : variant violation.attempt.variantId after with
  | error fault =>
      exact Action.bind_apply_of_error
        (Action.commit_of_error (by unfold Transaction.run; rw [read]; rfl))
  | ok step =>
      obtain ⟨shown, left⟩ := step
      obtain rfl := isRead_variant _ _ _ _ read
      rw [Action.bind_apply_of_ok (Action.query_of_ok read)]
      cases violation.submitted with
      | none => exact bind_notify_apply
      | some submitted => exact bind_notify_apply

/-- What a report that has been counted leaves, and how it ends: with the
attempt as it is then, unless something stands in the way after it has been
counted. -/
structure ReportsInto (now : Instant) (store : Store) (attempt : Attempt)
    (assignment : Assignment)
    (result : Except (Halt AttemptError) ViolationOutcome) (after : Store) :
    Prop where
  goesOn : attempt.nextEscalation assignment ≠ .autoSubmit →
    after = store.reporting attempt.id assignment now
  closes : attempt.nextEscalation assignment = .autoSubmit →
    Completes now attempt.id (store.reporting attempt.id assignment now) after
  shows : ∀ outcome, result = .ok outcome →
    outcome.attempt ∈ after.attempts ∧ outcome.attempt.id = attempt.id
  succeeds : store.IsReliable → ∃ outcome, result = .ok outcome

theorem ReportsInto.keepsMarks
    {result : Except (Halt AttemptError) ViolationOutcome}
    (into : ReportsInto now store attempt assignment result after) :
    (store.reporting attempt.id assignment now).KeepsMarks after := by
  by_cases closing : attempt.nextEscalation assignment = .autoSubmit
  · exact (into.closes closing).keepsMarks
  · rw [into.goesOn closing]
    exact .refl _

/-- Other attempts stay as they are. -/
theorem ReportsInto.mem_of_ne {other : Attempt}
    {result : Except (Halt AttemptError) ViolationOutcome}
    (into : ReportsInto now store attempt assignment result after)
    (listed : other ∈ store.attempts) (different : other.id ≠ attempt.id) :
    other ∈ after.attempts := by
  have stays : other ∈ (store.reporting attempt.id assignment now).attempts :=
    mem_updateWhere_of_not listed (by simp [hasStatus, different])
  by_cases closing : attempt.nextEscalation assignment = .autoSubmit
  · exact (into.closes closing).touches.mem_of_ne stays different
  · rwa [into.goesOn closing]

/-- A report that submits the attempt has it graded, where nothing stands in the
way. -/
theorem ReportsInto.exists_scored
    {result : Except (Halt AttemptError) ViolationOutcome}
    (into : ReportsInto now store attempt assignment result after)
    (listed : attempt ∈ store.attempts) (running : attempt.status = .inProgress)
    (closing : attempt.nextEscalation assignment = .autoSubmit)
    (reliable : (store.reporting attempt.id assignment now).IsReliable) :
    ∃ graded ∈ after.attempts, graded.id = attempt.id ∧
      graded.status.isScored = true := by
  cases into.closes closing with
  | passed idle =>
      have waits : hasStatus attempt.id .submitted
          (attempt.reported assignment now) = true :=
        hasStatus_eq_true.mpr ⟨(Attempt.Kept.reported assignment now
            attempt).id, (Attempt.reported_of_autoSubmit closing).1⟩
      exact (Bool.false_ne_true ((idle reliable _
          (mem_reporting listed running)).symm.trans waits)).elim
  | graded same into =>
      obtain ⟨present, sameId, -, scored⟩ := into.listed
      exact ⟨_, present, sameId.trans same, scored⟩

/-- A report that is not counted fails, and leaves no marks. -/
theorem reportViolation_of_uncounted {context : Context} {caller : Caller}
    {attemptId : String} (lawful : store.Lawful)
    (uncounted : ∀ violation after, violationTransaction caller attemptId
      context.now store ≠ .ok (.inTime violation, after)) :
    Ends context (fun world => world.store = store)
      (reportViolation caller attemptId) fun result world =>
        (∃ halt, result = .error halt) ∧ store.KeepsMarks world.store := by
  have found : Finds context.now store caller attemptId :=
    finds lawful caller attemptId
  refine Ends.reading ?_
  rcases found with
    ends | @⟨attempt, own, passed, ends⟩ | @⟨attempt, own, inTime, ends⟩
  · exact .bind_commit_error (ends _) fun world same =>
      ⟨⟨_, rfl⟩, same ▸ .refl _⟩
  · refine Ends.bind_commit (ends _)
      ((lateEntry_ends lawful own passed).weaken (fun _ same => same) ?_)
    rintro (halt | value) world ⟨finishes, ending⟩
    · exact ⟨⟨_, rfl⟩, finishes.keepsMarks⟩
    · cases ending
  · cases worked : violationTransaction caller attemptId context.now store with
    | error halt =>
        exact .bind_commit_error worked fun world same =>
        ⟨⟨_, rfl⟩, same ▸ .refl _⟩
    | ok step =>
        obtain ⟨entry, after⟩ := step
        obtain ⟨violation, -, rfl⟩ := map_eq_ok.mp ((ends _).symm.trans worked)
        exact (uncounted violation after worked).elim

/-- What has been completed is as it was submitted, or has its scores. -/
theorem complete_gives {context : Context} {submitted : Attempt}
    (lawful : store.Lawful) :
    Ends context (fun world => world.store = store) (complete submitted)
      fun result world => Completes context.now submitted.id store world.store ∧
    (store.IsReliable → Column.hasNul submitted.id = false →
      ∃ given, result = .ok given) ∧ ∀ given, result = .ok given →
      given = submitted ∧ world.store = store ∨ ∃ row, row.id = submitted.id ∧
        GradesInto context.now store row given world.store := by
  rintro world rfl
  obtain ⟨completes, succeeds, -⟩ := complete_ends lawful world rfl
  refine ⟨completes, succeeds, fun given => ?_⟩
  rw [complete_apply]
  cases ended : gradeTransaction submitted.id context.now world.store with
  | error halt =>
      cases halt with
      | refused error =>
          rintro ⟨rfl⟩
          exact .inl ⟨rfl, store_announced _ _ _⟩
      | outOfRange =>
          intro failed
          cases failed
  | ok step =>
      obtain ⟨found, after⟩ := step
      rcases gradeTransaction_gradesInto lawful ended with
        ⟨rfl, rfl, -⟩ | ⟨row, graded, variant, same, rfl, into⟩
      · rintro ⟨rfl⟩
        exact .inl ⟨rfl, rfl⟩
      · rintro ⟨rfl⟩
        exact .inr ⟨row, same, by simpa using into⟩

/-- A report that is counted comes to what the assignment says. -/
theorem reportViolation_ends {context : Context} {caller : Caller}
    {attemptId : String} {violation : Violation} (lawful : store.Lawful)
    (listed : attempt ∈ store.attempts) (running : attempt.status = .inProgress)
    (counted : violationTransaction caller attemptId context.now store = .ok
      (.inTime violation, store.reporting attempt.id assignment context.now))
    (shows : violation.Shows (attempt.reported assignment context.now)
      (attempt.nextEscalation assignment)) :
    Ends context (fun world => world.store = store)
      (reportViolation caller attemptId) fun result world => ReportsInto
      context.now store attempt assignment result world.store := by
  obtain ⟨handed, dealt⟩ := violationTransaction_handsOver lawful counted
  have dealt := dealt violation rfl
  have lawful' := handed.reached.lawful lawful
  have here := @mem_reporting context.now _ _ assignment listed running
  have id := (Attempt.Kept.reported assignment context.now attempt).id
  refine Ends.reading (Ends.bind_commit counted ?_)
  change Ends context _
    (Action.query (variant violation.attempt.variantId) >>= _) _
  refine .bind (fun result world => world.store =
        store.reporting attempt.id assignment context.now ∧ match result with
    | .ok _ => True
    | .error _ =>
        ¬(store.reporting attempt.id assignment context.now).IsReliable)
    (.readQuery (isRead_variant _) ?_ ?_) (fun variant => ?_) ?_
  · exact fun world same _ _ => ⟨same, trivial⟩
  · intro world same fault failed
    refine ⟨same, fun reliable => ?_⟩
    obtain ⟨_, read⟩ := reliable.exists_variant dealt
    cases failed.symm.trans (same ▸ read)
  · obtain ⟨given, escalation, submitted⟩ := violation
    cases submitted with
    | none =>
        obtain rfl : given = attempt.reported assignment context.now :=
          shows.row
        refine bind_notify_ends (fun _ _ reached => reached) (.pure ?_)
        rintro world ⟨same, -⟩
        refine ⟨fun _ => same, fun closing => ?_, ?_, fun _ => ⟨_, rfl⟩⟩
        · cases shows.submitted.mpr closing
        · rintro _ ⟨rfl⟩
          exact ⟨same ▸ here, id⟩
    | some submitted =>
        obtain rfl : submitted = attempt.reported assignment context.now :=
          shows.row
        have closing : attempt.nextEscalation assignment = .autoSubmit :=
          shows.submitted.mp rfl
        refine bind_notify_ends (fun _ _ reached => reached) ?_
        refine .bind _ ((complete_gives lawful').weaken (fun _ reached =>
            reached.1) fun _ _ ended => ended) (fun completed => .pure ?_) ?_
        · rintro world ⟨completes, -, gives⟩
          rw [id] at completes
          refine ⟨fun other => (other closing).elim, fun _ => completes, ?_,
            fun _ => ⟨_, rfl⟩⟩
          rintro _ ⟨rfl⟩
          rcases gives completed rfl with ⟨rfl, same⟩ | ⟨row, same, into⟩
          · exact ⟨same ▸ here, id⟩
          · obtain ⟨listed, sameId, -⟩ := into.listed
            exact ⟨listed, sameId.trans (same.trans id)⟩
        · rintro halt world ⟨completes, ends, -⟩
          rw [id] at completes ends
          refine ⟨fun other => (other closing).elim, fun _ => completes,
            fun _ same => ?_, fun reliable => ?_⟩
          · cases same
          · obtain ⟨_, done⟩ := ends (handed.reached.reliable reliable)
              (lawful.sittings.keys attempt listed).plain
            cases done
  · rintro halt world ⟨same, unreliable⟩
    refine ⟨fun _ => same, fun _ => ?_, fun _ failed => ?_,
      fun reliable => (unreliable (handed.reached.reliable reliable)).elim⟩
    · rw [same]
      exact .passed fun reliable => (unreliable reliable).elim
    · cases failed

end Exam

end ExamHall
