import ExamHall.Proofs.Attempt.LifeCycle
import ExamHall.Proofs.Exam.Grading

/-!
# Changes follow the life cycle

In an orderly store every attempt is regular, and waits for a review exactly
when one of its answers does.  Each change keeps a store orderly and moves its
attempts along the edges of the life cycle.
-/

namespace ExamHall

open Store

/-- A store whose attempts are regular at a time. -/
structure Store.IsOrderly (now : Instant) (store : Store) : Prop where
  regular : ∀ attempt ∈ store.attempts, attempt.IsRegular store.assignments now
  reviews : ∀ attempt ∈ store.attempts,
    attempt.status = .needsReview ↔ AwaitsReview store.answers attempt.id

variable {now : Instant} {before after : Store}

theorem Store.IsOrderly.mono {later : Instant} (orderly : before.IsOrderly now)
    (order : now ≤ later) : before.IsOrderly later :=
  ⟨fun attempt inside => (orderly.regular attempt inside).mono order
    fun assignment listed => ⟨assignment, listed, rfl, rfl⟩, orderly.reviews⟩

/-- Every attempt lives on. -/
def Carries (attempts attempts' : List Attempt) : Prop :=
  ∀ attempt ∈ attempts, ∃ later ∈ attempts', Attempt.Evolves attempt later

namespace Carries

theorem refl (attempts : List Attempt) : Carries attempts attempts :=
  fun attempt inside => ⟨attempt, inside, .refl attempt⟩

theorem append (attempts added : List Attempt) :
    Carries attempts (attempts ++ added) :=
  fun attempt inside =>
    ⟨attempt, List.mem_append_left added inside, .refl attempt⟩

theorem trans {first second third : List Attempt} (early : Carries first second)
    (late : Carries second third) : Carries first third := by
  intro attempt inside
  obtain ⟨middle, present, evolves⟩ := early attempt inside
  obtain ⟨last, listed, evolves'⟩ := late middle present
  exact ⟨last, listed, evolves.trans evolves'⟩

theorem updateWhere {attempts : List Attempt} {holds : Attempt → Bool}
    {change : Attempt → Attempt}
    (evolves : ∀ attempt ∈ attempts, holds attempt = true →
      Attempt.Evolves attempt (change attempt)) :
    Carries attempts (updateWhere holds change attempts) := by
  intro attempt inside
  cases selected : holds attempt with
  | true => exact ⟨_, mem_updateWhere_of_holds inside selected,
    evolves attempt inside selected⟩
  | false => exact ⟨_, mem_updateWhere_of_not inside selected, .refl attempt⟩

end Carries

/-! ## Changes of attempts -/

theorem Closes.orderly {attempt : Attempt} {submittedAt : Instant}
    (lawful : before.Lawful) (orderly : before.IsOrderly now)
    (closes : Closes now before attempt submittedAt) :
    Store.IsOrderly now { before with
        attempts := updateWhere (hasStatus attempt.id .inProgress)
          (Store.submitted submittedAt now) before.attempts } ∧
      Carries before.attempts (updateWhere (hasStatus attempt.id .inProgress)
          (Store.submitted submittedAt now) before.attempts) := by
  have only : ∀ other ∈ before.attempts,
      hasStatus attempt.id .inProgress other = true → other = attempt := by
    intro other inside selected
    exact eq_of_key lawful.sittings.ids inside closes.listed
      (hasStatus_eq_true.mp selected).1
  refine
    ⟨⟨forall_mem_updateWhere orderly.regular fun other inside selected => ?_,
      forall_mem_updateWhere orderly.reviews fun other inside selected => ?_⟩,
      Carries.updateWhere fun other inside selected => ?_⟩
  · obtain rfl := only other inside selected
    exact (orderly.regular other inside).submitted closes
  · have quiet := orderly.reviews other inside
    rw [(hasStatus_eq_true.mp selected).2] at quiet
    exact ⟨nofun, fun waits => absurd (quiet.mpr waits) nofun⟩
  · exact .submitted (hasStatus_eq_true.mp selected).2 submittedAt now

/-- A change of counters and flags. -/
theorem orderly_of_sameLife {holds : Attempt → Bool}
    {change : Attempt → Attempt} (orderly : before.IsOrderly now)
    (kept : ∀ attempt, Attempt.Kept attempt (change attempt))
    (status : ∀ attempt, (change attempt).status = attempt.status)
    (regular : ∀ attempt, attempt.IsRegular before.assignments now →
      (change attempt).IsRegular before.assignments now)
    (submittedAt : ∀ attempt,
      (change attempt).submittedAt = attempt.submittedAt) :
    Store.IsOrderly now
      { before with attempts := updateWhere holds change before.attempts } ∧
    Carries before.attempts (updateWhere holds change before.attempts) := by
  refine ⟨⟨forall_mem_updateWhere orderly.regular fun attempt inside _ => ?_,
    forall_mem_updateWhere orderly.reviews fun attempt inside _ => ?_⟩,
    Carries.updateWhere fun attempt _ _ => ?_⟩
  · exact regular attempt (orderly.regular attempt inside)
  · rw [status, (kept attempt).id]
    exact orderly.reviews attempt inside
  · refine ⟨kept attempt, ?_, fun _ => submittedAt attempt⟩
    rw [status]

/-! ## Changes of answers -/

theorem needsReview_of_totals? {tallies : List Tally} {totals : Totals}
    (summed : totals? tallies = some totals) :
    totals.needsReview = tallies.any (·.needsManual) := by
  simp only [totals?, Option.bind_eq_bind, Option.bind_eq_some_iff,
    Option.some.injEq] at summed
  obtain ⟨_, -, _, -, _, -, rfl⟩ := summed
  rfl

theorem statusAfterAuto_eq {totals : Totals} :
    totals.statusAfterAuto = .needsReview ↔ totals.needsReview = true := by
  unfold Totals.statusAfterAuto
  split <;> simp_all

theorem statusAfterManual_eq {totals : Totals} :
    totals.statusAfterManual = .needsReview ↔ totals.needsReview = true := by
  unfold Totals.statusAfterManual
  split <;> simp_all

/-- What a graded row says about reviews is what it adds to the totals. -/
theorem RowGraded.awaits {questions : List VariantQuestion}
    {row graded : SavedAnswer (Stored Answer)}
    (change : RowGraded questions now row graded)
    (quiet : row.needsManual = false) :
    graded.needsManual = true ↔ ∃ tally, tally? questions row = some tally ∧
      tally.needsManual = true := by
  cases change with
  | passedOver foreign => simp [quiet, tally?_of_foreign foreign]
  | scored found read graded _ _ =>
      simp [tally?_of_graded found read graded, gradedAnswer]

/-- After grading, an attempt waits for a review exactly when its totals do. -/
theorem Grades.awaitsReview {attempt : Attempt}
    {added answers : List (SavedAnswer (Stored Answer))} {totals : Totals}
    (grades : Grades now before attempt added answers totals)
    (quiet : ¬AwaitsReview before.answers attempt.id) :
    totals.needsReview = true ↔ AwaitsReview answers attempt.id := by
  obtain ⟨questions, -, fills, pairs, summed⟩ := grades.rows
  have still : ∀ row ∈ before.answers ++ added, row.attemptId = attempt.id →
      row.needsManual = false := by
    intro row inside same
    rcases List.mem_append.mp inside with old | new
    · rw [Bool.eq_false_iff]
      intro waits
      exact quiet ⟨row, old, same, waits⟩
    · rw [(fills.rows row new).2]
      rfl
  rw [needsReview_of_totals? summed, List.any_eq_true]
  constructor
  · rintro ⟨tally, inside, waits⟩
    obtain ⟨row, shown, found⟩ := List.mem_filterMap.mp inside
    obtain ⟨present, same⟩ := mem_sheet.mp shown
    obtain ⟨graded, listed, change⟩ := exists_mem_right_of_forall₂ pairs present
    rw [if_pos same] at change
    have sameAttempt : graded.attemptId = row.attemptId :=
      congrArg (·.2.1) change.key
    exact ⟨graded, listed, sameAttempt.trans same,
      (change.awaits (still row present same)).mpr ⟨tally, found, waits⟩⟩
  · rintro ⟨graded, listed, same, waits⟩
    obtain ⟨row, present, change⟩ := exists_mem_left_of_forall₂ pairs listed
    by_cases here : row.attemptId = attempt.id
    · rw [if_pos here] at change
      obtain ⟨tally, found, waits⟩ :=
        (change.awaits (still row present here)).mp waits
      exact ⟨tally, List.mem_filterMap.mpr ⟨row, mem_sheet.mpr ⟨present, here⟩,
        found⟩, waits⟩
    · rw [if_neg here] at change
      rw [change] at same
      exact absurd same here

/-- Grading an attempt does not touch the answers of others. -/
theorem Grades.awaitsReview_other {attempt : Attempt}
    {added answers : List (SavedAnswer (Stored Answer))} {totals : Totals}
    (grades : Grades now before attempt added answers totals)
    {attemptId : String} (other : attemptId ≠ attempt.id) :
    AwaitsReview answers attemptId ↔ AwaitsReview before.answers attemptId := by
  obtain ⟨questions, -, fills, pairs, -⟩ := grades.rows
  have grown : AwaitsReview (before.answers ++ added) attemptId ↔
      AwaitsReview before.answers attemptId := by
    apply awaitsReview_append
    intro row inside same
    rw [(fills.rows row inside).2] at same
    exact absurd same.symm other
  rw [← grown]
  constructor
  · rintro ⟨graded, listed, same, waits⟩
    obtain ⟨row, present, change⟩ := exists_mem_left_of_forall₂ pairs listed
    by_cases here : row.attemptId = attempt.id
    · rw [if_pos here] at change
      have sameAttempt : graded.attemptId = row.attemptId :=
        congrArg (·.2.1) change.key
      exact absurd (same.symm.trans (sameAttempt.trans here)) other
    · rw [if_neg here] at change
      exact ⟨row, present, change ▸ same, change ▸ waits⟩
  · rintro ⟨row, present, same, waits⟩
    obtain ⟨graded, listed, change⟩ := exists_mem_right_of_forall₂ pairs present
    rw [if_neg (by rw [same]; exact other)] at change
    exact ⟨graded, listed, change ▸ same, change ▸ waits⟩

/-- New scores of one attempt keep an orderly store orderly, if its new status
tells whether its answers wait for a review, and those of other attempts wait as
before. -/
theorem Store.IsOrderly.scored {attempt : Attempt}
    {answers : List (SavedAnswer (Stored Answer))}
    {rawScore maxScore percentage : Decimal} {update : ScoreUpdate}
    {issued : Issued} (orderly : before.IsOrderly now) (lawful : before.Lawful)
    (listed : attempt ∈ before.attempts)
    (settled : attempt.status ≠ .inProgress)
    (moves : AttemptStatus.Moves attempt.status update.status)
    (isScored : update.status.isScored = true)
    (awaits : update.status = .needsReview ↔ AwaitsReview answers attempt.id)
    (others : ∀ id ≠ attempt.id, AwaitsReview answers id ↔
      AwaitsReview before.answers id) :
    Store.IsOrderly now { before with
        attempts := updateWhere (hasStatus attempt.id attempt.status)
          (Store.scored rawScore maxScore percentage update) before.attempts
        answers, issued } ∧
      Carries before.attempts (updateWhere (hasStatus attempt.id attempt.status)
        (Store.scored rawScore maxScore percentage update)
        before.attempts) := by
  refine ⟨⟨forall_mem_updateWhere orderly.regular fun other inside selected =>
      ?_, ?_⟩, Carries.updateWhere fun other inside selected => ?_⟩
  · refine (orderly.regular other inside).scored ?_ isScored
    rw [(hasStatus_eq_true.mp selected).2]
    exact settled
  · intro other membership
    obtain ⟨old, inside, rfl⟩ := mem_updateWhere.mp membership
    by_cases same : old.id = attempt.id
    · obtain rfl := eq_of_key lawful.sittings.ids inside listed same
      rw [if_pos (hasStatus_eq_true.mpr ⟨rfl, rfl⟩)]
      exact awaits
    · rw [if_neg (by simp [hasStatus, same]), others _ same]
      exact orderly.reviews old inside
  · apply Attempt.Evolves.scored
    rw [(hasStatus_eq_true.mp selected).2]
    exact moves

theorem Grades.orderly {attempt : Attempt}
    {added answers : List (SavedAnswer (Stored Answer))} {totals : Totals}
    {rawScore maxScore percentage : Decimal} {issued : Issued}
    (lawful : before.Lawful) (orderly : before.IsOrderly now)
    (grades : Grades now before attempt added answers totals) :
    Store.IsOrderly now { before with
        attempts := updateWhere (hasStatus attempt.id .submitted)
          (Store.scored rawScore maxScore percentage
            (Exam.scoreUpdate totals totals.statusAfterAuto now))
          before.attempts
        answers, issued } ∧
      Carries before.attempts (updateWhere (hasStatus attempt.id .submitted)
        (Store.scored rawScore maxScore percentage
          (Exam.scoreUpdate totals totals.statusAfterAuto now))
          before.attempts) := by
  have quiet : ¬AwaitsReview before.answers attempt.id := by
    rw [← orderly.reviews attempt grades.listed, grades.submitted]
    exact nofun
  have moves : AttemptStatus.Moves .submitted totals.statusAfterAuto := by
    unfold Totals.statusAfterAuto
    split
    · exact .defers
    · exact .grades
  rw [← grades.submitted] at moves ⊢
  refine orderly.scored lawful grades.listed ?_ moves
    totals.isScored_statusAfterAuto
    (statusAfterAuto_eq.trans (grades.awaitsReview quiet)) fun id other =>
      grades.awaitsReview_other other
  rw [grades.submitted]
  exact nofun

/-! ## Reviews -/

theorem Reviews.awaitsReview {attempt : Attempt}
    {row : SavedAnswer (Stored Answer)} {outcome : GradeOutcome}
    {earned : Decimal} {answers : List (SavedAnswer (Stored Answer))}
    {totals : Totals}
    (reviews : Reviews before attempt row outcome earned answers totals) :
    totals.needsReview = true ↔ AwaitsReview answers attempt.id := by
  rw [needsReview_of_totals? reviews.totals, List.any_eq_true]
  constructor
  · rintro ⟨tally, inside, waits⟩
    obtain ⟨answer, shown, rfl⟩ := List.mem_map.mp inside
    obtain ⟨present, same⟩ := mem_sheet.mp shown
    exact ⟨answer, present, same, waits⟩
  · rintro ⟨answer, present, same, waits⟩
    exact ⟨answer.tally,
      List.mem_map_of_mem (mem_sheet.mpr ⟨present, same⟩), waits⟩

/-- A review leaves no more answers waiting than before. -/
theorem Reviews.awaitsReview_of_after {attempt : Attempt}
    {row : SavedAnswer (Stored Answer)} {outcome : GradeOutcome}
    {earned : Decimal} {answers : List (SavedAnswer (Stored Answer))}
    {totals : Totals}
    (reviews : Reviews before attempt row outcome earned answers totals)
    {attemptId : String} (waits : AwaitsReview answers attemptId) :
    AwaitsReview before.answers attemptId := by
  obtain ⟨gradedBy, score, -, rfl⟩ := reviews.changed
  obtain ⟨answer, inside, same, waits⟩ := waits
  obtain ⟨old, present, rfl⟩ := mem_updateWhere.mp inside
  by_cases here : old.id == row.id
  · rw [if_pos here] at waits
    cases waits
  · rw [if_neg here] at same waits
    exact ⟨old, present, same, waits⟩

theorem Reviews.awaitsReview_other {attempt : Attempt}
    {row : SavedAnswer (Stored Answer)} {outcome : GradeOutcome}
    {earned : Decimal} {answers : List (SavedAnswer (Stored Answer))}
    {totals : Totals} (lawful : before.Lawful)
    (reviews : Reviews before attempt row outcome earned answers totals)
    {attemptId : String} (other : attemptId ≠ attempt.id) :
    AwaitsReview answers attemptId ↔ AwaitsReview before.answers attemptId := by
  refine ⟨reviews.awaitsReview_of_after, ?_⟩
  obtain ⟨gradedBy, score, -, rfl⟩ := reviews.changed
  rintro ⟨answer, present, same, waits⟩
  refine ⟨answer, mem_updateWhere_of_not present ?_, same, waits⟩
  rw [beq_eq_false_iff_ne]
  intro sameId
  obtain rfl :=
    eq_of_key lawful.sittings.answerIds present reviews.rowListed sameId
  exact other (same.symm.trans reviews.rowAttempt)

/-- A review overrides or revises the scores of an attempt, or settles them once
no answer waits. -/
theorem Reviews.moves {attempt : Attempt} {row : SavedAnswer (Stored Answer)}
    {outcome : GradeOutcome} {earned : Decimal}
    {answers : List (SavedAnswer (Stored Answer))} {totals : Totals}
    (orderly : before.IsOrderly now)
    (reviews : Reviews before attempt row outcome earned answers totals) :
    AttemptStatus.Moves attempt.status totals.statusAfterManual := by
  have settled : attempt.status ≠ .needsReview →
      totals.statusAfterManual = .graded := by
    intro quiet
    have none : totals.needsReview = false := by
      rw [Bool.eq_false_iff]
      intro waits
      exact quiet ((orderly.reviews attempt reviews.listed).mpr
        (reviews.awaitsReview_of_after (reviews.awaitsReview.mp waits)))
    rw [Totals.statusAfterManual, none]
    rfl
  have scored := reviews.scored
  cases status : attempt.status with
  | inProgress | submitted =>
      rw [status] at scored
      cases scored
  | autoGraded =>
      rw [settled (by rw [status]; decide)]
      exact .overrides
  | graded =>
      rw [settled (by rw [status]; decide)]
      exact .revises
  | needsReview =>
      unfold Totals.statusAfterManual
      split
      · exact .reviews
      · exact .settles

theorem Reviews.orderly {attempt : Attempt} {row : SavedAnswer (Stored Answer)}
    {outcome : GradeOutcome} {earned : Decimal}
    {answers : List (SavedAnswer (Stored Answer))}
    {totals : Totals} {rawScore maxScore percentage : Decimal}
    (lawful : before.Lawful) (orderly : before.IsOrderly now)
    (reviews : Reviews before attempt row outcome earned answers totals) :
    Store.IsOrderly now { before with
        attempts := updateWhere (hasStatus attempt.id attempt.status)
          (Store.scored rawScore maxScore percentage
            (Exam.scoreUpdate totals totals.statusAfterManual now))
          before.attempts
        answers } ∧
      Carries before.attempts (updateWhere (hasStatus attempt.id attempt.status)
        (Store.scored rawScore maxScore percentage
          (Exam.scoreUpdate totals totals.statusAfterManual now))
          before.attempts) := by
  refine orderly.scored lawful reviews.listed ?_ (reviews.moves orderly)
    totals.isScored_statusAfterManual
    (statusAfterManual_eq.trans reviews.awaitsReview) fun id other =>
      reviews.awaitsReview_other lawful other
  intro running
  have scored := reviews.scored
  rw [running] at scored
  cases scored

/-! ## All changes -/

theorem Opens.orderly {assignment : Assignment}
    {variant : Variant (Stored (List VariantQuestion))} {attempt : Attempt}
    {issued : Issued} (lawful : before.Lawful) (orderly : before.IsOrderly now)
    (opens : Opens now before assignment variant attempt) :
    Store.IsOrderly now
      { before with attempts := before.attempts ++ [attempt], issued } := by
  obtain ⟨_, _, _, _, -, -, -, due, begun⟩ := opens.begun
  have regular : attempt.IsRegular before.assignments now := by
    rw [begun]
    exact .begun opens.listed
      (lawful.assignments.duration assignment opens.listed) due
  have quiet : attempt.status = .needsReview ↔
      AwaitsReview before.answers attempt.id := by
    constructor
    · rw [begun]
      exact nofun
    · rintro ⟨row, inside, same, -⟩
      exact absurd (same ▸ lawful.sittings.answered row inside) opens.fresh
  constructor
  · intro other inside
    rcases List.mem_append.mp inside with old | new
    · exact orderly.regular other old
    · exact List.mem_singleton.mp new ▸ regular
  · intro other inside
    rcases List.mem_append.mp inside with old | new
    · exact orderly.reviews other old
    · exact List.mem_singleton.mp new ▸ quiet

theorem Saves.awaitsReview_append {attempt : Attempt}
    {row : SavedAnswer (Stored Answer)} (saves : Saves now before attempt row)
    (attemptId : String) :
    AwaitsReview (before.answers ++ [row]) attemptId ↔
      AwaitsReview before.answers attemptId := by
  apply ExamHall.awaitsReview_append
  intro other inside _
  obtain ⟨_, _, _, same⟩ := saves.unscored
  rw [List.mem_singleton.mp inside, same]
  rfl

/-- Every change keeps a store orderly and its attempts on their way. -/
theorem Change.orderly (change : Change now before after)
    (lawful : before.Lawful) (orderly : before.IsOrderly now) :
    after.IsOrderly now ∧ Carries before.attempts after.attempts := by
  cases change with
  | generated => exact ⟨⟨orderly.regular, orderly.reviews⟩, .refl _⟩
  | assigned =>
      refine ⟨⟨fun attempt inside => ?_, orderly.reviews⟩, .refl _⟩
      exact (orderly.regular attempt inside).mono (Int.le_refl _)
        fun assignment listed =>
          ⟨assignment, List.mem_append_left _ listed, rfl, rfl⟩
  | @closed id =>
      refine ⟨⟨fun attempt inside => ?_, orderly.reviews⟩, .refl _⟩
      refine (orderly.regular attempt inside).mono (Int.le_refl _)
        fun assignment listed => ?_
      cases selected : isOpen id assignment with
      | true => exact ⟨_, mem_updateWhere_of_holds listed selected, rfl, rfl⟩
      | false => exact ⟨_, mem_updateWhere_of_not listed selected, rfl, rfl⟩
  | opened opens => exact ⟨opens.orderly lawful orderly, .append _ _⟩
  | submitted closes => exact closes.orderly lawful orderly
  | violated =>
      exact orderly_of_sameLife orderly (.violated now) (fun _ => rfl)
        (fun _ regular => { regular with }) fun _ => rfl
  | flagged =>
      exact orderly_of_sameLife orderly (.marked _ now) (fun _ => rfl)
        (fun _ regular => { regular with }) fun _ => rfl
  | saved saves =>
      refine ⟨⟨orderly.regular, fun attempt inside => ?_⟩, .refl _⟩
      rw [saves.awaitsReview_append]
      exact orderly.reviews attempt inside
  | @resaved _ row =>
      refine ⟨⟨orderly.regular, fun attempt inside => ?_⟩, .refl _⟩
      have same :=
        @map_updateWhere _ _ (isAnswerTo row.attemptId row.questionId)
          (Store.resaved row) before.answers
          (fun row => (row.attemptId, row.needsManual)) fun _ => rfl
      exact (orderly.reviews attempt inside).trans
        (awaitsReview_congr same).symm
  | graded grades => exact grades.orderly lawful orderly
  | reviewed reviews => exact reviews.orderly lawful orderly

theorem Reaches.orderly (changes : Reaches now before after)
    (lawful : before.Lawful) (orderly : before.IsOrderly now) :
    after.IsOrderly now ∧ Carries before.attempts after.attempts := by
  induction changes with
  | refl => exact ⟨orderly, .refl _⟩
  | tail early change ih =>
      obtain ⟨reached, carried⟩ := ih
      obtain ⟨orderly', carried'⟩ :=
        change.orderly (Reaches.lawful early lawful) reached
      exact ⟨orderly', carried.trans carried'⟩

end ExamHall
