import ExamHall.Proofs.Exam.Saving

/-!
# Working on an attempt

Saves and violations are made on an attempt that is found in progress.  Before
its deadline they change its answers or its counters; after it they submit the
attempt as of the deadline.  An attempt that they submit is in their result.
-/

namespace ExamHall

open Store

variable {now : Instant} {before after : Store} {attempt : Attempt}

theorem IsWorkedOn.violated (worked : IsWorkedOn now before attempt) :
    IsWorkedOn now
      { before with
        attempts := updateWhere (hasStatus attempt.id .inProgress)
          (Store.violated now) before.attempts }
      (Store.violated now attempt) where
  listed := mem_updateWhere_of_holds worked.listed
    (hasStatus_eq_true.mpr ⟨rfl, worked.running⟩)
  running := worked.running
  inTime := worked.inTime

theorem IsWorkedOn.marked (worked : IsWorkedOn now before attempt)
    (reason : String) : IsWorkedOn now
      { before with
        attempts := updateWhere (fun other => other.id == attempt.id)
          (Store.marked reason now) before.attempts }
      (Store.marked reason now attempt) where
  listed := mem_updateWhere_of_holds worked.listed (by simp)
  running := worked.running
  inTime := worked.inTime

theorem IsWorkedOn.closes (worked : IsWorkedOn now before attempt) :
    Closes now before attempt now :=
  ⟨worked.listed, worked.running, .inr ⟨rfl, worked.inTime⟩⟩

theorem isExpired_eq_true {deadline : Instant} :
    isExpired deadline now = true ↔ deadline ≤ now :=
  decide_eq_true_iff

theorem lt_of_not_isExpired {deadline : Instant}
    (running : ¬isExpired deadline now = true) : now < deadline :=
  Int.not_le.mp fun passed => running (isExpired_eq_true.mpr passed)

namespace Exam

/-! ## Attempts in progress -/

theorem whileOpen_eq_ok {α : Type} {caller : Caller} {attemptId : String}
    {work : Attempt → Transaction AttemptError α} {entry : Entry α} :
    whileOpen caller attemptId now work before = .ok (entry, after) ↔
      Column.hasNul attemptId = false ∧ before.CanReach [.attempts] ∧
        ∃ attempt, before.attempts.find? (·.id == attemptId) = some attempt ∧
          attempt.studentId = caller.id ∧ attempt.status = .inProgress ∧
          if isExpired attempt.deadlineAt now then
            ∃ submitted, markSubmitted attempt.id attempt.deadlineAt now
              before = .ok (submitted, after) ∧ entry = .late submitted
          else ∃ value, work attempt before = .ok (value, after) ∧
              entry = .inTime value := by
  simp only [whileOpen, bind_eq_ok, Transaction.lift_eq_ok,
    Transaction.demand_eq_ok, Transaction.require_eq_ok, attempt?_eq_ok,
    beq_iff_eq, decide_eq_true_eq]
  constructor
  · rintro ⟨_, _, ⟨plain, reached, rfl, rfl⟩, attempt, _, ⟨found, rfl⟩, _, _,
      ⟨own, rfl⟩, _, _, ⟨running, rfl⟩, ended⟩
    refine ⟨plain, reached, attempt, found, own, running, ?_⟩
    split at ended
    · next passed => simpa [passed] using ended
    · next left => simpa [left] using ended
  · rintro ⟨plain, reached, attempt, found, own, running, ended⟩
    refine ⟨_, before, ⟨plain, reached, rfl, rfl⟩, attempt, before,
      ⟨found, rfl⟩, ⟨⟩, before, ⟨own, rfl⟩, ⟨⟩, before, ⟨running, rfl⟩, ?_⟩
    split at ended
    · next passed => simpa [passed] using ended
    · next left => simpa [left] using ended

/-- The attempt that a transaction has submitted, by what its work in time has
submitted. -/
def Entry.pending {α : Type} (submitted : α → Option Attempt) :
    Entry α → Option Attempt
  | .inTime value => submitted value
  | .late submitted => submitted

/-- What a transaction on an attempt in progress does: its work, or the
submission as of the deadline. -/
theorem whileOpen_handsOver {α : Type} {caller : Caller} {attemptId : String}
    {work : Attempt → Transaction AttemptError α} {entry : Entry α}
    {submitted : α → Option Attempt}
    (working : ∀ attempt value, IsWorkedOn now before attempt →
      work attempt before = .ok (value, after) →
      HandsOver now (submitted value) before after)
    (ended : whileOpen caller attemptId now work before = .ok (entry, after)) :
    HandsOver now (entry.pending submitted) before after := by
  obtain ⟨-, -, attempt, found, -, running, ended⟩ := whileOpen_eq_ok.mp ended
  obtain ⟨listed, -⟩ := mem_and_key_of_find? found
  split at ended
  · next passed =>
      obtain ⟨_, marked, rfl⟩ := ended
      obtain ⟨-, -, rfl, rfl⟩ := markSubmitted_eq_ok.mp marked
      refine .single (.submitted ⟨listed, running, .inl ⟨rfl, .inl ?_⟩⟩)
        .markSubmitted
      exact isExpired_eq_true.mp passed
  · next left =>
      obtain ⟨value, worked, rfl⟩ := ended
      exact working attempt value ⟨listed, running,
        lt_of_not_isExpired left⟩ worked

/-! ## Saving answers -/

/-- A store that is reached by changes of answers only. -/
def SavesInto (now : Instant) (before after : Store) : Prop :=
  Reaches now before after ∧
    ∃ answers issued, after = { before with answers, issued }

theorem SavesInto.attempts {now : Instant} {before after : Store}
    (saves : SavesInto now before after) :
    after.attempts = before.attempts := by
  obtain ⟨-, _, _, rfl⟩ := saves
  rfl

theorem SavesInto.handsOver {now : Instant} {before after : Store}
    (saves : SavesInto now before after) : HandsOver now none before after :=
  ⟨saves.1, .of_attempts_eq saves.attempts⟩

theorem savesInto_of_writesEach {questions : List VariantQuestion}
    {saves : List AcceptedSave}
    (writes : WritesEach now attempt questions saves before after) :
    SavesInto now before after := by
  induction writes with
  | nil => exact ⟨.refl, _, _, rfl⟩
  | cons here _ ih =>
      obtain ⟨reached, answers, issued, rfl⟩ := ih
      obtain ⟨_, _, rfl⟩ := here.answersOnly
      exact ⟨.head here.change reached, answers, issued, rfl⟩

theorem saveOne_savesInto {variant : Variant (List VariantQuestion)}
    {input : AnswerInput} {saved : SavedAnswer Answer} (lawful : before.Lawful)
    (worked : IsWorkedOn now before attempt)
    (shown : HasVariant before attempt.variantId variant.questions)
    (ended : saveOne attempt variant now input before = .ok (saved, after)) :
    SavesInto now before after :=
  savesInto_of_writesEach (.cons (saveOne_writes lawful worked shown ended)
      .nil)

/-- A batch makes the changes of its entries one after another. -/
theorem saveEach_savesInto {variant : Variant (List VariantQuestion)}
    {inputs : List AnswerInput} {outcome : BatchOutcome}
    (lawful : before.Lawful) (worked : IsWorkedOn now before attempt)
    (shown : HasVariant before attempt.variantId variant.questions)
    (ended : saveEach attempt variant now inputs before =
      .ok (outcome, after)) : SavesInto now before after :=
  savesInto_of_writesEach (saveEach_writes lawful worked shown ended).2

/-- Work on the variant of an attempt reads the variant first. -/
theorem savesInto_of_worked {α : Type}
    {work : Variant (List VariantQuestion) → Transaction AttemptError α}
    {result : Worked α}
    (working : ∀ variant value,
      HasVariant before attempt.variantId variant.questions →
      work variant before = .ok (value, after) → SavesInto now before after)
    (ended : (do
      let variant ← variant attempt.variantId
      let value ← work variant
      pure ⟨attempt, variant, value⟩ : Transaction AttemptError (Worked α))
        before = .ok (result, after)) : SavesInto now before after := by
  simp only [bind_eq_ok, Transaction.lift_eq_ok, variant_eq_ok, pure_eq_ok]
    at ended
  obtain ⟨variant, _, ⟨-, -, rfl, row, found, read⟩, value, _, written, -,
    rfl⟩ := ended
  exact working variant value (hasVariant_of_find? found read) written

theorem saveTransaction_handsOver {caller : Caller} {attemptId : String}
    {input : AnswerInput} {entry : Entry (Worked (SavedAnswer Answer))}
    (lawful : before.Lawful)
    (ended : saveTransaction caller attemptId now input before =
      .ok (entry, after)) :
    HandsOver now (entry.pending fun _ => none) before after :=
  whileOpen_handsOver (fun _ _ worked written =>
      (savesInto_of_worked (fun _ _ shown saved =>
      saveOne_savesInto lawful worked shown saved) written).handsOver) ended

theorem batchTransaction_handsOver {caller : Caller} {attemptId : String}
    {inputs : List AnswerInput} {entry : Entry (Worked BatchOutcome)}
    (lawful : before.Lawful)
    (ended : batchTransaction caller attemptId now inputs before =
      .ok (entry, after)) :
    HandsOver now (entry.pending fun _ => none) before after :=
  whileOpen_handsOver (fun _ _ worked written =>
      (savesInto_of_worked (fun _ _ shown saved =>
      saveEach_savesInto lawful worked shown saved) written).handsOver) ended

/-! ## Violations -/

theorem addsOnly_marked (id reason : String) :
    AddsOnly none before { before with
      attempts := updateWhere (fun other => other.id == id)
        (Store.marked reason now) before.attempts } :=
  .updateWhere (.marked reason now) fun _ _ _ submitted => submitted

theorem escalate_handsOver {assignment : Assignment} {violation : Violation}
    (ids : (before.attempts.map (·.id)).Nodup)
    (worked : IsWorkedOn now before attempt)
    (ended : escalate attempt assignment now before = .ok (violation, after)) :
    HandsOver now violation.submitted before after ∧
    violation.attempt.variantId = attempt.variantId ∧
    after.variants = before.variants := by
  simp only [escalate] at ended
  cases kind : escalation attempt.violationCount assignment.tabSwitchThreshold
      assignment.tabSwitchAction with
  | none =>
      simp only [kind, pure_eq_ok] at ended
      obtain ⟨rfl, rfl⟩ := ended
      exact ⟨.refl after, rfl, rfl⟩
  | warn =>
      simp only [kind, pure_eq_ok] at ended
      obtain ⟨rfl, rfl⟩ := ended
      exact ⟨.refl after, rfl, rfl⟩
  | flag =>
      simp only [kind, bind_eq_ok, Transaction.lift_eq_ok, flag_eq_ok,
        pure_eq_ok] at ended
      obtain ⟨flagged, _, ⟨-, -, found, rfl⟩, rfl, rfl⟩ := ended
      refine ⟨.single (.flagged worked) (addsOnly_marked _ _), ?_, rfl⟩
      rw [find?_key_eq_some ids worked.listed, Option.map_some] at found
      rw [found]
      rfl
  | autoSubmit =>
      simp only [kind, bind_eq_ok, Transaction.lift_eq_ok, flag_eq_ok,
        markSubmitted_eq_ok, pure_eq_ok] at ended
      obtain ⟨_, _, ⟨-, -, -, rfl⟩, _, _, ⟨-, -, rfl, rfl⟩, rfl, rfl⟩ := ended
      have closing := Change.submitted (worked.marked (flagReason
          attempt.violationCount assignment.tabSwitchThreshold)).closes
      refine ⟨.trans (.single (.flagged worked) (addsOnly_marked _ _))
        (.single closing ?_), rfl, rfl⟩
      exact .markSubmitted

/-- A violation of an attempt is counted, and then does what the assignment
says. -/
theorem exists_escalate {violation : Violation}
    (ids : (before.attempts.map (·.id)).Nodup)
    (worked : IsWorkedOn now before attempt) (ended : (do
      let assignment ← assignment attempt.assignmentId
      let counted ←
        Transaction.demand (← countViolation attempt.id now) .noLongerInProgress
      escalate counted assignment now : Transaction AttemptError Violation)
        before = .ok (violation, after)) :
    ∃ assignment, escalate (violated now attempt) assignment now
      { before with
        attempts := updateWhere (hasStatus attempt.id .inProgress)
          (violated now) before.attempts } = .ok (violation, after) := by
  simp only [bind_eq_ok, Transaction.lift_eq_ok, Transaction.demand_eq_ok,
    countViolation_eq_ok] at ended
  obtain ⟨assignment, _, read, _, _, ⟨-, -, -, rfl, rfl⟩, counted, _,
      ⟨found, rfl⟩, escalated⟩ :=
    ended
  obtain rfl := isRead_assignment _ _ _ _ read
  rw [find?_hasStatus ids worked.listed worked.running, Option.map_some,
    Option.some.injEq] at found
  exact ⟨assignment, found ▸ escalated⟩

/-- A violation is counted, and may flag or submit the attempt.  Its variant is
there to be shown. -/
theorem violation_handsOver {violation : Violation} (lawful : before.Lawful)
    (worked : IsWorkedOn now before attempt)
    (ended : (do
      let assignment ← assignment attempt.assignmentId
      let counted ←
        Transaction.demand (← countViolation attempt.id now) .noLongerInProgress
      escalate counted assignment now : Transaction AttemptError Violation)
        before = .ok (violation, after)) :
    HandsOver now violation.submitted before after ∧
      violation.attempt.variantId ∈ after.variants.map (·.id) := by
  obtain ⟨assignment, escalated⟩ :=
    exists_escalate lawful.sittings.ids worked ended
  have change := Change.violated worked
  obtain ⟨handed, sameVariant, variants⟩ :=
    escalate_handsOver (change.lawful lawful).sittings.ids worked.violated
      escalated
  refine ⟨.trans (.single change ?_) handed, ?_⟩
  · exact .updateWhere (.violated now) fun _ _ _ submitted => submitted
  · rw [sameVariant, variants]
    exact lawful.sittings.variants attempt worked.listed

theorem violationTransaction_handsOver {caller : Caller} {attemptId : String}
    {entry : Entry Violation} (lawful : before.Lawful)
    (ended : violationTransaction caller attemptId now before =
      .ok (entry, after)) :
    HandsOver now (entry.pending Violation.submitted) before after ∧
    ∀ violation, entry = .inTime violation →
      violation.attempt.variantId ∈ after.variants.map (·.id) := by
  refine ⟨whileOpen_handsOver (fun attempt violation worked written =>
    (violation_handsOver lawful worked written).1) ended, ?_⟩
  rintro violation rfl
  obtain ⟨-, -, attempt, found, -, running, ended⟩ := whileOpen_eq_ok.mp ended
  split at ended
  · obtain ⟨_, -, same⟩ := ended
    cases same
  · next left =>
      obtain ⟨_, written, same⟩ := ended
      cases same
      exact (violation_handsOver lawful ⟨(mem_and_key_of_find? found).1,
        running, lt_of_not_isExpired left⟩ written).2

end Exam

end ExamHall
