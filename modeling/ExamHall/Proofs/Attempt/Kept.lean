import ExamHall.Proofs.Attempt.Scores
import ExamHall.Proofs.Store.Enforced

/-!
# Changes keep the sheets

Each change concerns the rows of one attempt at most.  It leaves that attempt a
sitting of its paper, and the others what they were.
-/

namespace ExamHall

open Store

variable {now : Instant} {before after : Store}
  {questions : List VariantQuestion}

namespace IsSitting

variable {answers answers' : List (SavedAnswer (Stored Answer))}
  {attempt attempt' : Attempt}

/-- Fields of an attempt that have nothing to do with its scores do not
matter. -/
theorem withAttempt (sitting : IsSitting questions answers attempt)
    (id : attempt'.id = attempt.id)
    (maxScore : attempt'.maxScore = attempt.maxScore)
    (scored : attempt'.status.isScored = true → attempt.status.isScored = true ∧
      attempt'.rawScore = attempt.rawScore ∧
      attempt'.percentage = attempt.percentage) :
    IsSitting questions answers attempt' := by
  refine ⟨sitting.fits, maxScore ▸ sitting.maxScore, id ▸ sitting.rows,
    fun isScored => ?_⟩
  obtain ⟨before, raw, percent⟩ := scored isScored
  have old := sitting.scored before
  rw [id]
  exact ⟨old.complete, raw ▸ old.rawScore, percent ▸ old.percentage⟩

/-- Answers of other attempts do not matter. -/
theorem withAnswers (sitting : IsSitting questions answers attempt)
    (same : rowsOf attempt.id answers' = rowsOf attempt.id answers) :
    IsSitting questions answers' attempt :=
  ⟨sitting.fits, sitting.maxScore, same ▸ sitting.rows, same ▸ sitting.scored⟩

/-- As long as an attempt has no scores, only its rows matter. -/
theorem withRows (sitting : IsSitting questions answers attempt)
    (unscored : attempt.status.isScored = false)
    (rows : ∀ row ∈ rowsOf attempt.id answers', IsSheetRow questions row) :
    IsSitting questions answers' attempt := by
  refine ⟨sitting.fits, sitting.maxScore, rows, fun scored => ?_⟩
  rw [unscored] at scored
  cases scored

end IsSitting

theorem rowsOf_append_of_other {attemptId : String}
    {answers added : List (SavedAnswer (Stored Answer))}
    (others : ∀ row ∈ added, row.attemptId ≠ attemptId) :
    rowsOf attemptId (answers ++ added) = rowsOf attemptId answers := by
  unfold rowsOf
  rw [List.filter_append, List.append_right_eq_self, List.filter_eq_nil_iff]
  intro row inside
  simpa using others row inside

theorem rowsOf_updateWhere_of_other {holds : SavedAnswer (Stored Answer) → Bool}
    {change : SavedAnswer (Stored Answer) → SavedAnswer (Stored Answer)}
    {answers : List (SavedAnswer (Stored Answer))} {attemptId : String}
    (kept : ∀ row, (change row).attemptId = row.attemptId)
    (others : ∀ row ∈ answers, row.attemptId = attemptId → holds row = false) :
    rowsOf attemptId (updateWhere holds change answers) =
      rowsOf attemptId answers := by
  rw [rowsOf_updateWhere kept]
  apply updateWhere_of_forall_not
  intro row inside
  obtain ⟨present, same⟩ := mem_rowsOf.mp inside
  exact others row present same

/-- Rows of other attempts are passed by. -/
theorem rowsOf_of_forall₂
    {related : SavedAnswer (Stored Answer) → SavedAnswer (Stored Answer) → Prop}
    {rows graded : List (SavedAnswer (Stored Answer))}
    {attemptId other : String} (pairs : List.Forall₂ (fun row graded =>
      if row.attemptId = attemptId then related row graded
      else graded = row) rows graded)
    (kept : ∀ row graded, related row graded → graded.attemptId = row.attemptId)
    (different : other ≠ attemptId) :
    rowsOf other graded = rowsOf other rows := by
  induction pairs with
  | nil => rfl
  | @cons row graded rows others here _ ih =>
      unfold rowsOf at ih ⊢
      by_cases same : row.attemptId = attemptId
      · rw [if_pos same] at here
        have skipped : ¬(row.attemptId == other) = true := by
          rw [beq_iff_eq, same]
          exact different.symm
        have skipped' : ¬(graded.attemptId == other) = true := by
          rw [beq_iff_eq, kept row graded here, same]
          exact different.symm
        rw [List.filter_cons, List.filter_cons, if_neg skipped,
          if_neg skipped', ih]
      · rw [if_neg same] at here
        rw [here, List.filter_cons, List.filter_cons, ih]

/-! ## Attempts -/

/-- The points of a test whose attempt can be opened fit into the column. -/
theorem maxScore_of_begun {most maxScore : Decimal} (paper : IsPaper questions)
    (summed : Exam.maxScore? questions = some most)
    (kept : Column.points most = .ok maxScore) :
    totalPoints questions < Column.pointsBound ∧
    maxScore.toRat = totalPoints questions := by
  obtain ⟨sum, added, rfl⟩ := Option.map_eq_some_iff.mp summed
  have amounts : ∀ value ∈ questions.map (·.points), value.IsAmount := by
    intro value inside
    obtain ⟨question, listed, rfl⟩ := List.mem_map.mp inside
    exact paper.points question listed
  have bound : roundCents Column.pointsBound = Column.pointsBound := by
    have := roundCents_cents (Column.pointsBound * 100)
    push_cast at this
    rwa [mul_div_cancel_right₀ _ (by norm_num : (100 : ℚ) ≠ 0)] at this
  have small : sum.toRat < Column.pointsBound := by
    by_contra large
    rw [not_lt] at large
    obtain ⟨same, -, below⟩ := Column.points_eq_ok kept
    have rounded : (Column.pointsBound : ℚ) ≤ roundCents sum.toRat := by
      rw [← bound]
      exact roundCents_mono large
    have twice :
        (Column.pointsBound : ℚ) ≤ roundCents (roundCents sum.toRat) := by
      rw [← bound]
      exact roundCents_mono rounded
    rw [same, Decimal.toRat_roundPoints] at below
    exact absurd (twice.trans (le_abs_self _)) (not_le.mpr below)
  obtain ⟨amount, total, fits⟩ :=
    Decimal.sum?_eq_some (by decide) amounts added small
  rw [List.map_map] at total fits
  refine ⟨fits, ?_⟩
  rw [Column.toRat_of_points (amount.congr amount.toRat_roundPoints) kept,
    amount.toRat_roundPoints, total]
  rfl

theorem Opens.keepsSheets {assignment : Assignment}
    {variant : Variant (Stored (List VariantQuestion))}
    {attempt : Attempt} {issued : Issued} (lawful : before.Lawful)
    (opens : Opens now before assignment variant attempt)
    (keeps : before.KeepsSheets) :
    Store.KeepsSheets
      { before with attempts := before.attempts ++ [attempt], issued } := by
  intro other membership questions shown paper
  rcases List.mem_append.mp membership with old | new
  · exact keeps other old questions shown paper
  · obtain rfl := List.mem_singleton.mp new
    obtain ⟨dealt, most, maxScore, deadlineAt, read, summed, kept, -, begun⟩ :=
      opens.begun
    have variantId : other.variantId = variant.id := by rw [begun]; rfl
    have here : HasVariant before other.variantId dealt :=
      ⟨variant, opens.dealt, variantId.symm, read⟩
    obtain rfl := here.unique lawful.tests.variantIds shown
    obtain ⟨fits, same⟩ := maxScore_of_begun paper summed kept
    refine ⟨fits, ?_, ?_, ?_⟩
    · rw [begun]
      exact same
    · intro row inside
      obtain ⟨present, sameAttempt⟩ := mem_rowsOf.mp inside
      have taken := lawful.sittings.answered row present
      rw [sameAttempt] at taken
      exact absurd taken opens.fresh
    · rw [begun]
      exact nofun

/-! ## All changes -/

theorem Saves.hasVariant {attempt : Attempt} {row : SavedAnswer (Stored Answer)}
    (lawful : before.Lawful) (saves : Saves now before attempt row)
    (paper : IsPaper questions)
    (shown : HasVariant before attempt.variantId questions) :
    IsSheetRow questions row := by
  obtain ⟨_, variant, question, asked, made⟩ := saves.question
  obtain rfl := shown.unique lawful.tests.variantIds variant
  obtain ⟨_, _, _, same⟩ := saves.unscored
  refine isSheetRow_of_unscored paper asked made ?_ saves.readable
  rw [same]
  rfl

/-- The attempt that someone works on is the only one with its id, and has no
scores. -/
theorem IsWorkedOn.only {attempt other : Attempt} (lawful : before.Lawful)
    (worked : IsWorkedOn now before attempt) (inside : other ∈ before.attempts)
    (same : other.id = attempt.id) :
    other = attempt ∧ other.status.isScored = false := by
  obtain rfl := eq_of_key lawful.sittings.ids inside worked.listed same
  rw [worked.running]
  exact ⟨rfl, rfl⟩

theorem Saves.keepsSheets {attempt : Attempt}
    {row : SavedAnswer (Stored Answer)} {issued : Issued}
    (lawful : before.Lawful) (saves : Saves now before attempt row)
    (keeps : before.KeepsSheets) :
    Store.KeepsSheets
      { before with answers := before.answers ++ [row], issued } := by
  intro other inside questions shown paper
  have sitting := keeps other inside questions shown paper
  by_cases same : other.id = attempt.id
  · obtain ⟨rfl, unscored⟩ := saves.worked.only lawful inside same
    refine sitting.withRows unscored fun found membership => ?_
    obtain ⟨present, sameAttempt⟩ := mem_rowsOf.mp membership
    rcases List.mem_append.mp present with old | new
    · exact sitting.rows found (mem_rowsOf.mpr ⟨old, sameAttempt⟩)
    · exact List.mem_singleton.mp new ▸ saves.hasVariant lawful paper shown
  · apply sitting.withAnswers
    apply rowsOf_append_of_other
    intro found membership
    rw [List.mem_singleton.mp membership, saves.attemptId]
    exact Ne.symm same

theorem Saves.keepsSheets_resaved {attempt : Attempt}
    {row : SavedAnswer (Stored Answer)} (lawful : before.Lawful)
    (saves : Saves now before attempt row) (keeps : before.KeepsSheets) :
    Store.KeepsSheets { before with
      answers := updateWhere (isAnswerTo row.attemptId row.questionId)
        (Store.resaved row) before.answers } := by
  intro other inside questions shown paper
  have sitting := keeps other inside questions shown paper
  by_cases same : other.id = attempt.id
  · obtain ⟨rfl, unscored⟩ := saves.worked.only lawful inside same
    refine sitting.withRows unscored fun found membership => ?_
    obtain ⟨present, sameAttempt⟩ := mem_rowsOf.mp membership
    obtain ⟨old, listed, rfl⟩ := mem_updateWhere.mp present
    by_cases selected : isAnswerTo row.attemptId row.questionId old
    · rw [if_pos selected] at sameAttempt ⊢
      have here := sitting.rows old (mem_rowsOf.mpr ⟨listed, sameAttempt⟩)
      exact { here with readable := isSome_read?_congr (by rfl) saves.readable }
    · rw [if_neg selected] at sameAttempt ⊢
      exact sitting.rows old (mem_rowsOf.mpr ⟨listed, sameAttempt⟩)
  · apply sitting.withAnswers
    refine rowsOf_updateWhere_of_other (fun _ => rfl) fun found _ sameAttempt =>
      ?_
    rw [isAnswerTo, saves.attemptId, sameAttempt, Bool.and_eq_false_iff,
      beq_eq_false_iff_ne]
    exact .inl same

theorem Grades.keepsSheets {attempt : Attempt}
    {added answers : List (SavedAnswer (Stored Answer))} {totals : Totals}
    {rawScore maxScore percentage : Decimal} {issued : Issued}
    (lawful : before.Lawful)
    (grades : Grades now before attempt added answers totals)
    (scores : Scores totals rawScore maxScore percentage)
    (keeps : before.KeepsSheets) (update : ScoreUpdate) :
    Store.KeepsSheets { before with
      attempts := updateWhere (hasStatus attempt.id .submitted)
        (Store.scored rawScore maxScore percentage update) before.attempts
      answers, issued } := by
  intro other membership questions shown paper
  obtain ⟨old, inside, rfl⟩ := mem_updateWhere.mp membership
  by_cases same : old.id = attempt.id
  · obtain rfl := eq_of_key lawful.sittings.ids inside grades.listed same
    rw [if_pos (hasStatus_eq_true.mpr ⟨rfl, grades.submitted⟩)] at shown ⊢
    exact grades.isSitting lawful scores paper shown
      (keeps old inside questions shown paper) update
  · rw [if_neg (by simp [hasStatus, same])] at shown ⊢
    obtain ⟨_, _, fills, pairs, _⟩ := grades.rows
    refine (keeps old inside questions shown paper).withAnswers ?_
    rw [rowsOf_of_forall₂ pairs
      (fun _ _ change => congrArg (·.2.1) change.key) same]
    apply rowsOf_append_of_other
    intro row listed
    rw [(fills.rows row listed).2]
    exact Ne.symm same

theorem Reviews.keepsSheets {attempt : Attempt}
    {row : SavedAnswer (Stored Answer)} {outcome : GradeOutcome}
    {earned : Decimal} {answers : List (SavedAnswer (Stored Answer))}
    {totals : Totals} {rawScore maxScore percentage : Decimal}
    (lawful : before.Lawful)
    (reviews : Reviews before attempt row outcome earned answers totals)
    (scores : Scores totals rawScore maxScore percentage)
    (keeps : before.KeepsSheets) (update : ScoreUpdate) :
    Store.KeepsSheets { before with
      attempts := updateWhere (hasStatus attempt.id attempt.status)
        (Store.scored rawScore maxScore percentage update) before.attempts
      answers } := by
  intro other membership questions shown paper
  obtain ⟨old, inside, rfl⟩ := mem_updateWhere.mp membership
  by_cases same : old.id = attempt.id
  · obtain rfl := eq_of_key lawful.sittings.ids inside reviews.listed same
    rw [if_pos (hasStatus_eq_true.mpr ⟨rfl, rfl⟩)] at shown ⊢
    exact reviews.isSitting lawful scores paper
      (keeps old inside questions shown paper) update
  · rw [if_neg (by simp [hasStatus, same])] at shown ⊢
    obtain ⟨gradedBy, manual, -, changed⟩ := reviews.changed
    refine (keeps old inside questions shown paper).withAnswers ?_
    rw [changed]
    refine rowsOf_updateWhere_of_other (fun _ => rfl)
      fun found listed sameAttempt => ?_
    rw [beq_eq_false_iff_ne]
    intro sameRow
    obtain rfl :=
      eq_of_key lawful.sittings.answerIds listed reviews.rowListed sameRow
    exact same (sameAttempt.symm.trans reviews.rowAttempt)

/-- Attempts may change in what has nothing to do with their scores. -/
theorem keepsSheets_updateWhere {holds : Attempt → Bool}
    {change : Attempt → Attempt} (keeps : before.KeepsSheets)
    (kept : ∀ attempt, Attempt.Kept attempt (change attempt))
    (maxScore : ∀ attempt, (change attempt).maxScore = attempt.maxScore)
    (scored : ∀ attempt, (change attempt).status.isScored = true →
      attempt.status.isScored = true ∧
      (change attempt).rawScore = attempt.rawScore ∧
      (change attempt).percentage = attempt.percentage) :
    Store.KeepsSheets
      { before with attempts := updateWhere holds change before.attempts } := by
  intro other membership questions shown paper
  obtain ⟨old, inside, rfl⟩ := mem_updateWhere.mp membership
  by_cases selected : holds old
  · rw [if_pos selected] at shown ⊢
    rw [(kept old).variantId] at shown
    exact (keeps old inside questions shown paper).withAttempt (kept old).id
      (maxScore old) (scored old)
  · rw [if_neg selected] at shown ⊢
    exact keeps old inside questions shown paper

/-- Every change keeps the sheets. -/
theorem Change.keepsSheets (change : Change now before after)
    (lawful : before.Lawful) (keeps : before.KeepsSheets) :
    after.KeepsSheets := by
  cases change with
  | generated generates =>
      intro attempt inside questions shown paper
      have used := lawful.sittings.variants attempt inside
      exact keeps attempt inside questions
        ((hasVariant_append_iff rfl generates.variantIds used).mp shown) paper
  | assigned => exact keeps
  | closed => exact keeps
  | opened opens => exact opens.keepsSheets lawful keeps
  | submitted closes =>
      exact keepsSheets_updateWhere keeps (.submitted _ now) (fun _ => rfl)
        fun _ scored => (Bool.false_ne_true scored).elim
  | violated =>
      exact keepsSheets_updateWhere keeps (.violated now) (fun _ => rfl)
        fun _ scored => ⟨scored, rfl, rfl⟩
  | flagged =>
      exact keepsSheets_updateWhere keeps (.marked _ now) (fun _ => rfl)
        fun _ scored => ⟨scored, rfl, rfl⟩
  | saved saves => exact saves.keepsSheets lawful keeps
  | resaved saves => exact saves.keepsSheets_resaved lawful keeps
  | graded grades scores => exact grades.keepsSheets lawful scores keeps _
  | reviewed reviews scores => exact reviews.keepsSheets lawful scores keeps _

end ExamHall
