import ExamHall.Proofs.Grading.Totals
import ExamHall.Proofs.Store.Change
import ExamHall.Proofs.Store.Columns

/-!
# The sheet of an attempt

The rows of an attempt belong to questions of its variant, at most one to each.
When it is graded there is exactly one for each question, so what the rows can
earn together is what the questions give together.
-/

namespace ExamHall

open Store

/-- The points of a list of questions together. -/
def totalPoints (questions : List VariantQuestion) : ℚ :=
  (questions.map fun question => question.points.toRat).sum

/-- What a list of rows has earned together. -/
def earnedPoints (rows : List (SavedAnswer (Stored Answer))) : ℚ :=
  (rows.map fun row => row.earnedPoints.toRat).sum

/-- What a list of rows could earn together. -/
def maxPoints (rows : List (SavedAnswer (Stored Answer))) : ℚ :=
  (rows.map fun row => row.maxPoints.toRat).sum

/-- The rows of an attempt. -/
def rowsOf (attemptId : String) (answers : List (SavedAnswer (Stored Answer))) :
    List (SavedAnswer (Stored Answer)) :=
  answers.filter fun row => row.attemptId == attemptId

theorem mem_rowsOf {attemptId : String}
    {answers : List (SavedAnswer (Stored Answer))}
    {row : SavedAnswer (Stored Answer)} :
    row ∈ rowsOf attemptId answers ↔ row ∈ answers ∧
    row.attemptId = attemptId := by
  rw [rowsOf, List.mem_filter, beq_iff_eq]

theorem sheet_perm (store : Store) (attemptId : String) :
    (store.sheet attemptId).Perm (rowsOf attemptId store.answers) :=
  Collation.sortBy_perm _ _ _

/-- A row of an attempt on a list of questions. -/
structure IsSheetRow (questions : List VariantQuestion)
    (row : SavedAnswer (Stored Answer)) : Prop where
  readable : row.read?.isSome
  question : ∃ question ∈ questions, question.questionId = row.questionId ∧
    row.maxPoints.toRat = question.points.toRat
  earned : row.earnedPoints.IsAmount
  less : row.earnedPoints.toRat ≤ row.maxPoints.toRat
  earnedScale : row.earnedPoints.scale ≤ 2
  maxScale : row.maxPoints.scale ≤ 2

theorem IsSheetRow.max {questions : List VariantQuestion}
    {row : SavedAnswer (Stored Answer)} (paper : IsPaper questions)
    (shown : IsSheetRow questions row) : row.maxPoints.IsAmount := by
  obtain ⟨question, inside, -, same⟩ := shown.question
  exact (paper.points question inside).congr same

/-- The scores of an attempt are those of its rows, one for each question. -/
structure IsScoredBy (questions : List VariantQuestion)
    (rows : List (SavedAnswer (Stored Answer))) (attempt : Attempt) : Prop where
  complete : ∀ question ∈ questions, ∃ row ∈ rows,
    row.questionId = question.questionId
  rawScore : ∃ score, attempt.rawScore = some score ∧
    score.toRat = earnedPoints rows
  percentage : ∃ share, attempt.percentage = some share ∧
    share.toRat = percentOf (earnedPoints rows) (maxPoints rows)

/-- An attempt on a list of questions, with its rows and scores. -/
structure IsSitting (questions : List VariantQuestion)
    (answers : List (SavedAnswer (Stored Answer))) (attempt : Attempt) :
    Prop where
  fits : totalPoints questions < Column.pointsBound
  maxScore : attempt.maxScore.toRat = totalPoints questions
  rows : ∀ row ∈ rowsOf attempt.id answers, IsSheetRow questions row
  scored : attempt.status.isScored = true →
    IsScoredBy questions (rowsOf attempt.id answers) attempt

/-- Each attempt on a paper is a sitting of it. -/
def Store.KeepsSheets (store : Store) : Prop :=
  ∀ attempt ∈ store.attempts, ∀ questions,
    HasVariant store attempt.variantId questions →
    IsPaper questions → IsSitting questions store.answers attempt

/-! ## Rows and questions -/

/-- The points of the question with an id. -/
def pointsOf (questions : List VariantQuestion) (questionId : String) : ℚ :=
  ((questions.find? (·.questionId == questionId)).map fun question =>
      question.points.toRat).getD 0

theorem find?_question {questions : List VariantQuestion}
    (paper : IsPaper questions) {question : VariantQuestion}
    (inside : question ∈ questions) {questionId : String}
    (same : question.questionId = questionId) :
    questions.find? (·.questionId == questionId) = some question :=
  same ▸ find?_key_eq_some paper.ids inside

theorem pointsOf_eq {questions : List VariantQuestion}
    (paper : IsPaper questions) {question : VariantQuestion}
    (inside : question ∈ questions) :
    pointsOf questions question.questionId = question.points.toRat := by
  rw [pointsOf, find?_question paper inside rfl]
  rfl

/-- Rows of one attempt are for different questions. -/
theorem nodup_rowsOf {answers : List (SavedAnswer (Stored Answer))}
    {attemptId : String}
    (apart : answers.Pairwise fun left right =>
      isAnswerTo left.attemptId left.questionId right = false) :
    ((rowsOf attemptId answers).map (·.questionId)).Nodup := by
  rw [List.Nodup, List.pairwise_map]
  refine (apart.filter _).imp_of_mem
    fun {left right} leftInside rightInside differs same => ?_
  have leftAttempt := (mem_rowsOf.mp leftInside).2
  have rightAttempt := (mem_rowsOf.mp rightInside).2
  simp [isAnswerTo, leftAttempt, rightAttempt, same] at differs

/-- A complete sheet has one row for each question and no other row. -/
theorem questionIds_perm {questions : List VariantQuestion}
    {rows : List (SavedAnswer (Stored Answer))}
    (paper : IsPaper questions) (shown : ∀ row ∈ rows, IsSheetRow questions row)
    (distinct : (rows.map (·.questionId)).Nodup)
    (complete : ∀ question ∈ questions, ∃ row ∈ rows,
      row.questionId = question.questionId) :
    (rows.map (·.questionId)).Perm (questions.map (·.questionId)) := by
  rw [List.perm_ext_iff_of_nodup distinct paper.ids]
  intro id
  constructor
  · intro inside
    obtain ⟨row, listed, rfl⟩ := List.mem_map.mp inside
    obtain ⟨question, present, sameId, -⟩ := (shown row listed).question
    exact List.mem_map.mpr ⟨question, present, sameId⟩
  · intro inside
    obtain ⟨question, present, rfl⟩ := List.mem_map.mp inside
    obtain ⟨row, listed, sameId⟩ := complete question present
    exact List.mem_map.mpr ⟨row, listed, sameId⟩

/-- A complete sheet can earn what its questions give. -/
theorem maxPoints_eq_totalPoints {questions : List VariantQuestion}
    {rows : List (SavedAnswer (Stored Answer))}
    (paper : IsPaper questions) (shown : ∀ row ∈ rows, IsSheetRow questions row)
    (distinct : (rows.map (·.questionId)).Nodup)
    (complete : ∀ question ∈ questions, ∃ row ∈ rows, row.questionId =
      question.questionId) : maxPoints rows = totalPoints questions := by
  have same := questionIds_perm paper shown distinct complete
  calc maxPoints rows =
      ((rows.map (·.questionId)).map (pointsOf questions)).sum := by
        rw [maxPoints, List.map_map]
        congr 1
        apply List.map_congr_left
        intro row inside
        obtain ⟨question, present, sameId, points⟩ :=
          (shown row inside).question
        rw [points, Function.comp_apply, ← sameId, pointsOf_eq paper present]
    _ = ((questions.map (·.questionId)).map (pointsOf questions)).sum :=
      (same.map _).sum_eq
    _ = totalPoints questions := by
        rw [totalPoints, List.map_map]
        congr 1
        apply List.map_congr_left
        intro question inside
        exact pointsOf_eq paper inside

/-! ## Variants -/

theorem HasVariant.unique {store : Store} {variantId : String}
    {questions questions' : List VariantQuestion}
    (ids : (store.variants.map (·.id)).Nodup)
    (first : HasVariant store variantId questions)
    (second : HasVariant store variantId questions') :
    questions = questions' := by
  obtain ⟨left, leftInside, leftSame, leftRead⟩ := first
  obtain ⟨right, rightInside, rightSame, rightRead⟩ := second
  obtain rfl :=
    eq_of_key ids leftInside rightInside (leftSame.trans rightSame.symm)
  exact Option.some.inj (leftRead.symm.trans rightRead)

/-- A variant that has been stored stays as it is. -/
theorem Change.hasVariant {now : Instant} {before after : Store}
    {variantId : String} {questions : List VariantQuestion}
    (change : Change now before after)
    (shown : HasVariant before variantId questions) :
    HasVariant after variantId questions := by
  obtain ⟨variant, listed, same, read⟩ := shown
  cases change with
  | generated => exact ⟨variant, List.mem_append_left _ listed, same, read⟩
  | _ => exact ⟨variant, listed, same, read⟩

/-- More variants show nothing new for an id that is in use. -/
theorem hasVariant_append_iff {store store' : Store}
    {added : List (Variant (Stored (List VariantQuestion)))}
    {variantId : String} {questions : List VariantQuestion}
    (grown : store'.variants = store.variants ++ added)
    (ids : (store'.variants.map (·.id)).Nodup)
    (used : variantId ∈ store.variants.map (·.id)) :
    HasVariant store' variantId questions ↔
      HasVariant store variantId questions := by
  constructor
  · rintro ⟨variant, inside, same, read⟩
    obtain ⟨old, listed, sameOld⟩ := List.mem_map.mp used
    have present : old ∈ store'.variants :=
      grown ▸ List.mem_append_left added listed
    obtain rfl := eq_of_key ids inside present (same.trans sameOld.symm)
    exact ⟨variant, listed, same, read⟩
  · rintro ⟨variant, inside, same, read⟩
    exact ⟨variant, grown ▸ List.mem_append_left added inside, same, read⟩

end ExamHall
