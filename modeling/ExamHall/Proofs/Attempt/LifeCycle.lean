import ExamHall.Proofs.Store.Columns
import ExamHall.Proofs.Store.Enforced

/-!
# The life cycle of an attempt

An attempt is started once, submitted once and then graded, perhaps several
times.  Its status says which of its fields are filled, and each change moves it
along the edges of the life cycle only.
-/

namespace ExamHall

open Store

/-- The edges along which the status of an attempt moves. -/
inductive AttemptStatus.Moves : AttemptStatus → AttemptStatus → Prop where
  | submits : Moves .inProgress .submitted
  | grades : Moves .submitted .autoGraded
  | defers : Moves .submitted .needsReview
  | overrides : Moves .autoGraded .graded
  | reviews : Moves .needsReview .needsReview
  | settles : Moves .needsReview .graded
  | revises : Moves .graded .graded

/-- Nothing comes back to the state `in_progress`. -/
theorem AttemptStatus.eq_inProgress_of_moves {status : AttemptStatus}
    (path : Relation.ReflTransGen Moves status .inProgress) :
    status = .inProgress := by
  rcases Relation.ReflTransGen.cases_tail_iff _ _ _ |>.mp path
    with same | ⟨_, _, edge⟩
  · exact same.symm
  · cases edge

/-- A later state of an attempt. -/
structure Attempt.Evolves (before after : Attempt) : Prop where
  kept : Attempt.Kept before after
  status : Relation.ReflTransGen AttemptStatus.Moves before.status after.status
  submittedAt : before.status ≠ .inProgress →
    after.submittedAt = before.submittedAt

namespace Attempt.Evolves

theorem refl (attempt : Attempt) : Attempt.Evolves attempt attempt :=
  ⟨.refl attempt, .refl, fun _ => rfl⟩

theorem trans {first second third : Attempt}
    (early : Attempt.Evolves first second)
    (late : Attempt.Evolves second third) : Attempt.Evolves first third := by
  refine ⟨early.kept.trans late.kept, early.status.trans late.status,
    fun left => ?_⟩
  have left' : second.status ≠ .inProgress := by
    intro back
    have path := early.status
    rw [back] at path
    exact left (AttemptStatus.eq_inProgress_of_moves path)
  rw [late.submittedAt left', early.submittedAt left]

theorem submitted {attempt : Attempt} (running : attempt.status = .inProgress)
    (submittedAt now : Instant) :
    Attempt.Evolves attempt (Store.submitted submittedAt now attempt) := by
  refine ⟨.submitted submittedAt now attempt, ?_,
    fun left => absurd running left⟩
  rw [running]
  exact .single .submits

theorem scored {attempt : Attempt} {rawScore maxScore percentage : Decimal}
    {update : ScoreUpdate}
    (edge : AttemptStatus.Moves attempt.status update.status) :
    Attempt.Evolves attempt
      (Store.scored rawScore maxScore percentage update attempt) :=
  ⟨.scored rawScore maxScore percentage update attempt, .single edge,
    fun _ => rfl⟩

end Attempt.Evolves

/-- What holds of an attempt at each point of its life. -/
structure Attempt.IsRegular (assignments : List Assignment) (now : Instant)
    (attempt : Attempt) : Prop where
  started : attempt.startedAt ≤ Column.time now
  due : Column.time attempt.deadlineAt = attempt.deadlineAt
  deadline : ∃ assignment ∈ assignments, assignment.id = attempt.assignmentId ∧
    IsDeadline attempt.startedAt assignment.durationMinutes attempt.deadlineAt
  ordered : attempt.startedAt ≤ attempt.deadlineAt
  unsubmitted : attempt.submittedAt = none ↔ attempt.status = .inProgress
  inTime : ∀ time, attempt.submittedAt = some time →
    attempt.startedAt ≤ time ∧ time ≤ attempt.deadlineAt
  rawScore : attempt.rawScore = none ↔ attempt.status.isScored = false
  percentage : attempt.percentage = none ↔ attempt.status.isScored = false
  gradedAt : attempt.gradedAt = none ↔ attempt.status.isScored = false

namespace Attempt.IsRegular

variable {assignments assignments' : List Assignment} {now later : Instant}
  {attempt : Attempt}

theorem mono (regular : attempt.IsRegular assignments now) (order : now ≤ later)
    (kept : ∀ assignment ∈ assignments, ∃ successor ∈ assignments',
      successor.id = assignment.id ∧
      successor.durationMinutes = assignment.durationMinutes) :
    attempt.IsRegular assignments' later := by
  obtain ⟨assignment, inside, same, deadline⟩ := regular.deadline
  obtain ⟨successor, inside', sameId, sameDuration⟩ := kept assignment inside
  exact
    { regular with
      started := Int.le_trans regular.started (Column.time_mono order)
      deadline := ⟨successor, inside', sameId.trans same,
        sameDuration ▸ deadline⟩ }

theorem begun {assignment : Assignment} {id studentId variantId : String}
    {number : Nat} {variantIndex : Int} {maxScore : Decimal}
    {deadlineAt : Instant} (listed : assignment ∈ assignments)
    (positive : 0 < assignment.durationMinutes)
    (due : deadline? now assignment.durationMinutes = some deadlineAt) :
    (Attempt.begun id assignment studentId number variantId variantIndex
      maxScore deadlineAt now).IsRegular assignments now := by
  have deadline := isDeadline_time positive due
  exact
    { started := Int.le_refl _
      due := Column.time_time deadlineAt
      deadline := ⟨assignment, listed, rfl, deadline⟩
      ordered := deadline.le positive
      unsubmitted := ⟨fun _ => rfl, fun _ => rfl⟩
      inTime := nofun
      rawScore := ⟨fun _ => rfl, fun _ => rfl⟩
      percentage := ⟨fun _ => rfl, fun _ => rfl⟩
      gradedAt := ⟨fun _ => rfl, fun _ => rfl⟩ }

theorem submitted {store : Store} {submittedAt : Instant}
    (regular : attempt.IsRegular assignments now)
    (closes : Closes now store attempt submittedAt) :
    (Store.submitted submittedAt now attempt).IsRegular assignments now := by
  have unscored : attempt.status.isScored = false := by
    rw [closes.running]
    rfl
  have bounds : attempt.startedAt ≤ Column.time submittedAt ∧
      Column.time submittedAt ≤ attempt.deadlineAt := by
    rcases closes.time with ⟨rfl, -⟩ | ⟨rfl, early⟩
    · rw [regular.due]
      exact ⟨regular.ordered, Int.le_refl _⟩
    · exact ⟨regular.started, Column.time_lt_of_lt early regular.due⟩
  exact
    { regular with
      unsubmitted := ⟨nofun, nofun⟩
      inTime := fun time same => Option.some.inj same ▸ bounds
      rawScore := ⟨fun _ => rfl, fun _ => regular.rawScore.mpr unscored⟩
      percentage := ⟨fun _ => rfl, fun _ => regular.percentage.mpr unscored⟩
      gradedAt := ⟨fun _ => rfl, fun _ => regular.gradedAt.mpr unscored⟩ }

theorem scored {rawScore maxScore percentage : Decimal} {update : ScoreUpdate}
    (regular : attempt.IsRegular assignments now)
    (left : attempt.status ≠ .inProgress)
    (status : update.status.isScored = true) :
    (Store.scored rawScore maxScore percentage update attempt).IsRegular
      assignments now := by
  have running := AttemptStatus.ne_inProgress_of_isScored status
  exact
    { regular with
      unsubmitted := ⟨fun none => absurd (regular.unsubmitted.mp none) left,
        fun back => absurd back running⟩
      rawScore := by simp [status, Store.scored]
      percentage := by simp [status, Store.scored]
      gradedAt := by simp [status, Store.scored] }

end Attempt.IsRegular

/-! ## Answers that wait for a reviewer -/

/-- Some answer of an attempt waits for a reviewer. -/
def AwaitsReview (answers : List (SavedAnswer (Stored Answer)))
    (attemptId : String) : Prop :=
  ∃ row ∈ answers, row.attemptId = attemptId ∧ row.needsManual = true

/-- Rows may change in what says nothing about reviews. -/
theorem awaitsReview_congr {rows rows' : List (SavedAnswer (Stored Answer))}
    {attemptId : String}
    (same : rows'.map (fun row => (row.attemptId, row.needsManual)) =
      rows.map fun row => (row.attemptId, row.needsManual)) :
    AwaitsReview rows' attemptId ↔ AwaitsReview rows attemptId := by
  have known : ∀ {rows : List (SavedAnswer (Stored Answer))},
      AwaitsReview rows attemptId ↔ (attemptId, true) ∈ rows.map fun row =>
        (row.attemptId, row.needsManual) := by
    intro rows
    simp only [AwaitsReview, List.mem_map, Prod.mk.injEq]
  rw [known, known, same]

/-- Rows of other attempts and rows that nobody has to review do not matter. -/
theorem awaitsReview_append {rows added : List (SavedAnswer (Stored Answer))}
    {attemptId : String}
    (quiet : ∀ row ∈ added, row.attemptId = attemptId →
      row.needsManual = false) :
    AwaitsReview (rows ++ added) attemptId ↔ AwaitsReview rows attemptId := by
  constructor
  · rintro ⟨row, inside, same, waits⟩
    rcases List.mem_append.mp inside with old | new
    · exact ⟨row, old, same, waits⟩
    · rw [quiet row new same] at waits
      cases waits
  · rintro ⟨row, inside, same, waits⟩
    exact ⟨row, List.mem_append_left added inside, same, waits⟩

end ExamHall
