import ExamHall.Proofs.Attempt.Sheet
import ExamHall.Proofs.Exam.Grading
import ExamHall.Proofs.Grading.Outcomes

/-!
# Scores are sums

Grading gives each row of a sheet what its answer earns, and a reviewer may give
a row something else.  Either way the scores that are then written are the sums
of what the rows say.
-/

namespace ExamHall

open Store

variable {now : Instant} {before after : Store}
  {questions : List VariantQuestion}

theorem points_le_totalPoints (paper : IsPaper questions)
    {question : VariantQuestion} (inside : question ∈ questions) :
    question.points.toRat ≤ totalPoints questions := by
  apply List.single_le_sum
  · intro points listed
    obtain ⟨other, present, rfl⟩ := List.mem_map.mp listed
    exact (paper.points other present).nonneg
  · exact List.mem_map_of_mem inside

theorem pointsBound_le : (Column.pointsBound : ℚ) ≤ tenTo 26 := by
  exact_mod_cast tenTo_mono (by decide)

/-! ## Graded rows -/

/-- The row for a question of a paper has the id and the points of the
question. -/
theorem IsRowFor.points {question : VariantQuestion}
    {row : SavedAnswer (Stored Answer)} (paper : IsPaper questions)
    (inside : question ∈ questions) (made : IsRowFor question row) :
    question.questionId = row.questionId ∧
    row.maxPoints.toRat = question.points.toRat ∧ row.maxPoints.scale ≤ 2 := by
  have kept := made.questionId
  rw [(paper.keys question inside).id_eq_ok] at kept
  exact ⟨Except.ok.inj kept,
    Column.toRat_of_points (paper.points question inside) made.maxPoints,
    (Column.points_eq_ok made.maxPoints).2.1⟩

/-- A row that is not scored yet belongs on the sheet. -/
theorem isSheetRow_of_unscored {question : VariantQuestion}
    {row : SavedAnswer (Stored Answer)} (paper : IsPaper questions)
    (inside : question ∈ questions) (made : IsRowFor question row)
    (earned : row.earnedPoints = .zero) (readable : row.read?.isSome) :
    IsSheetRow questions row := by
  obtain ⟨sameId, points, scale⟩ := made.points paper inside
  refine ⟨readable, ⟨question, inside, sameId, points⟩, ?_, ?_, ?_, scale⟩
  · rw [earned]
    exact Decimal.isAmount_zero
  · rw [earned, points, Decimal.toRat_zero]
    exact (paper.points question inside).nonneg
  · rw [earned]
    exact Nat.zero_le 2

/-- What a graded row says is what it adds to the totals. -/
structure RowTallied (questions : List VariantQuestion)
    (row graded : SavedAnswer (Stored Answer)) (tally : Tally) : Prop where
  found : tally? questions row = some tally
  fair : tally.IsFair
  earned : tally.earned.toRat = graded.earnedPoints.toRat
  most : tally.most.toRat = graded.maxPoints.toRat

/-- A graded row stays on the sheet and is counted. -/
theorem RowGraded.tallied {row graded : SavedAnswer (Stored Answer)}
    (paper : IsPaper questions)
    (fits : totalPoints questions < Column.pointsBound)
    (shown : IsSheetRow questions row)
    (change : RowGraded questions now row graded) :
    IsSheetRow questions graded ∧
    ∃ tally, RowTallied questions row graded tally := by
  obtain ⟨question, inside, sameId, points⟩ := shown.question
  have only := find?_question paper inside sameId
  cases change with
  | passedOver foreign =>
      rw [only] at foreign
      cases foreign
  | @scored _ answer outcome earned most found read graded earnedPoints
      maxPoints =>
      rw [only, Option.some.injEq] at found
      subst found
      have amount := paper.points question inside
      have small : question.points.toRat ≤ tenTo 26 :=
        (points_le_totalPoints paper inside).trans
          (fits.le.trans pointsBound_le)
      obtain ⟨found, same, within⟩ :=
        Grading.exists_grade? amount small question.payload answer.value
      rw [graded, Option.some.injEq] at same
      subst same
      have earnedSame := Column.toRat_of_points within.earned earnedPoints
      have roundAmount := amount.congr amount.toRat_roundPoints
      have maxSame : most.toRat = question.points.toRat :=
        (Column.toRat_of_points roundAmount maxPoints).trans
          amount.toRat_roundPoints
      refine ⟨⟨isSome_read?_congr (by rfl) shown.readable,
        ⟨question, inside, sameId, maxSame⟩, within.earned.congr earnedSame, ?_,
        (Column.points_eq_ok earnedPoints).2.1,
        (Column.points_eq_ok maxPoints).2.1⟩,
        _, tally?_of_graded only read graded, ⟨within.earned, roundAmount, ?_,
          within.scale, Decimal.scale_roundPoints_le _⟩, earnedSame.symm, ?_⟩
      · change earned.toRat ≤ most.toRat
        rw [earnedSame, maxSame]
        exact within.less
      · rw [amount.toRat_roundPoints]
        exact within.less
      · exact amount.toRat_roundPoints.trans maxSame.symm

/-- The tallies of a sheet add up to what the graded rows say. -/
theorem sums_of_tallied {rows graded : List (SavedAnswer (Stored Answer))}
    (pairs : List.Forall₂ (fun row graded => ∃ tally,
      RowTallied questions row graded tally) rows graded) :
    (∀ tally ∈ rows.filterMap (tally? questions), tally.IsFair) ∧
    earnedSum (rows.filterMap (tally? questions)) = earnedPoints graded ∧
    mostSum (rows.filterMap (tally? questions)) = maxPoints graded := by
  induction pairs with
  | nil => exact ⟨nofun, rfl, rfl⟩
  | cons here _ ih =>
      obtain ⟨tally, tallied⟩ := here
      obtain ⟨fair, earned, most⟩ := ih
      rw [List.filterMap_cons, tallied.found]
      refine ⟨List.forall_mem_cons.mpr ⟨tallied.fair, fair⟩, ?_, ?_⟩
      · rw [earnedSum, earnedPoints, List.map_cons, List.map_cons,
          List.sum_cons, List.sum_cons, tallied.earned]
        exact congrArg _ earned
      · rw [mostSum, maxPoints, List.map_cons, List.map_cons, List.sum_cons,
          List.sum_cons, tallied.most]
        exact congrArg _ most

/-! ## Totals in columns -/

/-- The columns of an attempt keep totals as they are. -/
theorem Scores.values {totals : Totals} {tallies : List Tally}
    {rawScore maxScore percentage : Decimal}
    (scores : Scores totals rawScore maxScore percentage)
    (sums : totals.Sums tallies) :
    rawScore.toRat = earnedSum tallies ∧ maxScore.toRat = mostSum tallies ∧
    percentage.toRat = percentOf (earnedSum tallies) (mostSum tallies) :=
  ⟨(Column.toRat_of_points sums.rawAmount scores.rawScore).trans sums.rawScore,
    (Column.toRat_of_points sums.maxAmount scores.maxScore).trans sums.maxScore,
    (Column.toRat_of_percent sums.percentAmount scores.percentage).trans
      sums.percentage⟩

/-- Totals that are small enough fit into the columns. -/
theorem exists_scores {totals : Totals} {tallies : List Tally}
    (sums : totals.Sums tallies) (bounded : ∀ tally ∈ tallies, tally.IsBounded)
    (fits : mostSum tallies < Column.pointsBound) :
    ∃ rawScore maxScore percentage,
      Scores totals rawScore maxScore percentage := by
  have less := earnedSum_le bounded
  have nonneg : 0 ≤ earnedSum tallies := by
    rw [← sums.rawScore]
    exact sums.rawAmount.nonneg
  obtain ⟨rawScore, raw, -, -⟩ :=
    Column.exists_points sums.rawAmount
      (by rw [sums.rawScore]; exact less.trans_lt fits)
  obtain ⟨maxScore, most, -, -⟩ :=
    Column.exists_points sums.maxAmount (by rw [sums.maxScore]; exact fits)
  obtain ⟨percentage, percent, -⟩ :=
    Column.exists_percent sums.percentAmount
      (by rw [sums.percentage]; exact percentOf_le nonneg less)
  exact ⟨rawScore, maxScore, percentage, raw, most, percent⟩

/-! ## Sheets after grading and after a review -/

theorem filter_forall₂
    {related : SavedAnswer (Stored Answer) → SavedAnswer (Stored Answer) → Prop}
    {rows graded : List (SavedAnswer (Stored Answer))} {attemptId : String}
    (pairs : List.Forall₂ (fun row graded =>
      if row.attemptId = attemptId then related row graded
      else graded = row) rows graded)
    (kept : ∀ row graded, related row graded →
      graded.attemptId = row.attemptId) :
    List.Forall₂ related (rowsOf attemptId rows) (rowsOf attemptId graded) := by
  induction pairs with
  | nil => exact .nil
  | @cons row graded rows others here _ ih =>
      unfold rowsOf at ih ⊢
      by_cases same : row.attemptId = attemptId
      · rw [if_pos same] at here
        have same' := (kept row graded here).trans same
        rw [List.filter_cons_of_pos (by simpa using same),
          List.filter_cons_of_pos (by simpa using same')]
        exact .cons here ih
      · rw [if_neg same] at here
        subst here
        rw [List.filter_cons_of_neg (by simpa using same),
          List.filter_cons_of_neg (by simpa using same)]
        exact ih

/-- Before it is graded, a filled sheet is complete. -/
theorem Fills.sheet {attempt : Attempt}
    {added : List (SavedAnswer (Stored Answer))} (paper : IsPaper questions)
    (fills : Fills now before attempt questions added)
    (shown : ∀ row ∈ rowsOf attempt.id before.answers,
      IsSheetRow questions row) :
    (∀ row ∈ rowsOf attempt.id (before.answers ++ added),
      IsSheetRow questions row) ∧
    ∀ question ∈ questions, ∃ row ∈ rowsOf attempt.id (before.answers ++ added),
        row.questionId = question.questionId := by
  constructor
  · intro row inside
    obtain ⟨present, same⟩ := mem_rowsOf.mp inside
    rcases List.mem_append.mp present with old | new
    · exact shown row (mem_rowsOf.mpr ⟨old, same⟩)
    · obtain ⟨⟨question, asked, made⟩, fresh⟩ := fills.rows row new
      apply isSheetRow_of_unscored paper asked made
      · rw [fresh]
        rfl
      · rw [fresh]
        rfl
  · intro question inside
    obtain ⟨row, present, sameAttempt, sameQuestion⟩ :=
      fills.complete question inside
    refine ⟨row, mem_rowsOf.mpr ⟨present, sameAttempt⟩, ?_⟩
    rcases sameQuestion with same | kept
    · exact same
    · rw [(paper.keys question inside).id_eq_ok] at kept
      exact (Except.ok.inj kept).symm

/-- A sheet with a row for each question, and what grading makes of it. -/
structure SheetGraded (questions : List VariantQuestion)
    (rows graded : List (SavedAnswer (Stored Answer))) : Prop where
  shown : ∀ row ∈ graded, IsSheetRow questions row
  complete : ∀ question ∈ questions, ∃ row ∈ graded,
    row.questionId = question.questionId
  whole : maxPoints graded = totalPoints questions
  fair : ∀ tally ∈ rows.filterMap (tally? questions), tally.IsFair
  earned : earnedSum (rows.filterMap (tally? questions)) = earnedPoints graded
  most : mostSum (rows.filterMap (tally? questions)) = maxPoints graded

theorem sheetGraded_of_rowGraded
    {rows graded : List (SavedAnswer (Stored Answer))}
    (paper : IsPaper questions)
    (fits : totalPoints questions < Column.pointsBound)
    (shown : ∀ row ∈ rows, IsSheetRow questions row)
    (distinct : (rows.map (·.questionId)).Nodup)
    (complete : ∀ question ∈ questions, ∃ row ∈ rows,
      row.questionId = question.questionId)
    (changes : List.Forall₂ (RowGraded questions now) rows graded) :
    SheetGraded questions rows graded := by
  have tallied : List.Forall₂ (fun row graded => IsSheetRow questions graded ∧
      ∃ tally, RowTallied questions row graded tally) rows graded :=
    forall₂_imp_mem changes fun row inside graded change =>
      change.tallied paper fits (shown row inside)
  have ids : graded.map (·.questionId) = rows.map (·.questionId) :=
    map_eq_of_forall₂ changes fun _ _ change => congrArg (·.2.2) change.key
  have shown' : ∀ row ∈ graded, IsSheetRow questions row := by
    intro row inside
    obtain ⟨old, -, shown, -⟩ := exists_mem_left_of_forall₂ tallied inside
    exact shown
  have complete' : ∀ question ∈ questions, ∃ row ∈ graded,
      row.questionId = question.questionId := by
    intro question inside
    obtain ⟨row, present, same⟩ := complete question inside
    obtain ⟨row', present', change⟩ :=
      exists_mem_right_of_forall₂ changes present
    exact ⟨row', present', (congrArg (·.2.2) change.key).trans same⟩
  obtain ⟨fair, earned, most⟩ :=
    sums_of_tallied (tallied.imp fun _ _ here => here.2)
  exact ⟨shown', complete',
    maxPoints_eq_totalPoints paper shown' (ids ▸ distinct) complete', fair,
    earned, most⟩

/-- The order of a sheet does not matter to its totals. -/
theorem SheetGraded.of_perm
    {rows rows' graded : List (SavedAnswer (Stored Answer))}
    (sheet : SheetGraded questions rows graded) (reordered : rows'.Perm rows) :
    SheetGraded questions rows' graded := by
  have tallies := reordered.filterMap (tally? questions)
  refine ⟨sheet.shown, sheet.complete, sheet.whole, ?_, ?_, ?_⟩
  · intro tally inside
    exact sheet.fair tally (tallies.mem_iff.mp inside)
  · rw [← sheet.earned]
    exact (tallies.map _).sum_eq
  · rw [← sheet.most]
    exact (tallies.map _).sum_eq

theorem SheetGraded.exists_totals
    {rows graded : List (SavedAnswer (Stored Answer))}
    (sheet : SheetGraded questions rows graded)
    (fits : totalPoints questions < Column.pointsBound) :
    ∃ totals, totals? (rows.filterMap (tally? questions)) = some totals ∧
      totals.Sums (rows.filterMap (tally? questions)) ∧
      ∃ rawScore maxScore percentage,
        Scores totals rawScore maxScore percentage := by
  have small : mostSum (rows.filterMap (tally? questions)) <
      Column.pointsBound := by
    rw [sheet.most, sheet.whole]
    exact fits
  have bounded : ∀ tally ∈ rows.filterMap (tally? questions), tally.IsBounded :=
    fun tally inside => (sheet.fair tally inside).isBounded
  obtain ⟨totals, summed, sums⟩ := exists_totals? bounded small.le
  exact ⟨totals, summed, sums, exists_scores sums bounded small⟩

/-- Grading makes a sitting of an attempt one with scores. -/
theorem Grades.isSitting {attempt : Attempt}
    {added answers : List (SavedAnswer (Stored Answer))} {totals : Totals}
    {rawScore maxScore percentage : Decimal} (lawful : before.Lawful)
    (grades : Grades now before attempt added answers totals)
    (scores : Scores totals rawScore maxScore percentage)
    (paper : IsPaper questions)
    (shown : HasVariant before attempt.variantId questions)
    (sitting : IsSitting questions before.answers attempt)
    (update : ScoreUpdate) :
    IsSitting questions answers
      (Store.scored rawScore maxScore percentage update attempt) := by
  obtain ⟨_, variant, fills, pairs, summed⟩ := grades.rows
  obtain rfl := shown.unique lawful.tests.variantIds variant
  obtain ⟨rows, complete⟩ := fills.sheet paper sitting.rows
  have sheet :=
    (sheetGraded_of_rowGraded paper sitting.fits rows (nodup_rowsOf fills.apart)
      complete (filter_forall₂ pairs fun _ _ change =>
        congrArg (·.2.1) change.key)).of_perm
      (sheet_perm { before with answers := before.answers ++ added } attempt.id)
  obtain ⟨found, same, sums, -⟩ := sheet.exists_totals sitting.fits
  rw [summed, Option.some.injEq] at same
  subst same
  obtain ⟨raw, most, percent⟩ := scores.values sums
  rw [sheet.earned] at raw percent
  rw [sheet.most] at most percent
  refine ⟨sitting.fits, most.trans sheet.whole, sheet.shown, fun _ => ?_⟩
  exact ⟨sheet.complete, ⟨rawScore, rfl, raw⟩, ⟨percentage, rfl, percent⟩⟩

/-! ## Reviews -/

theorem IsSheetRow.tally_isFair {row : SavedAnswer (Stored Answer)}
    (paper : IsPaper questions) (shown : IsSheetRow questions row) :
    row.tally.IsFair :=
  ⟨shown.earned, shown.max paper, shown.less, shown.earnedScale, shown.maxScale⟩

/-- A reviewed row stays on the sheet. -/
theorem isSheetRow_reviewed {row : SavedAnswer (Stored Answer)}
    {score earned : Decimal} {outcome : GradeOutcome}
    (paper : IsPaper questions) (shown : IsSheetRow questions row)
    (granted : manualOutcome row.maxPoints score = .ok outcome)
    (stored : Column.points outcome.earned = .ok earned) (gradedBy : String)
    (manual : ManualScore) :
    IsSheetRow questions (reviewedAnswer earned gradedBy manual row) := by
  obtain ⟨within, -⟩ := manualOutcome_within (shown.max paper) granted
  have same := Column.toRat_of_points within.earned stored
  refine ⟨isSome_read?_congr (by rfl) shown.readable, shown.question,
    within.earned.congr same, ?_, (Column.points_eq_ok stored).2.1,
    shown.maxScale⟩
  change earned.toRat ≤ row.maxPoints.toRat
  rw [same]
  exact within.less

theorem rowsOf_updateWhere {holds : SavedAnswer (Stored Answer) → Bool}
    {change : SavedAnswer (Stored Answer) → SavedAnswer (Stored Answer)}
    {answers : List (SavedAnswer (Stored Answer))} {attemptId : String}
    (kept : ∀ row, (change row).attemptId = row.attemptId) :
    rowsOf attemptId (updateWhere holds change answers) =
      updateWhere holds change (rowsOf attemptId answers) := by
  unfold rowsOf updateWhere
  rw [List.filter_map]
  congr 1
  apply List.filter_congr
  intro row _
  by_cases selected : holds row
  · simp [selected, kept]
  · simp [selected]

theorem earnedSum_sheet (store : Store) (attemptId : String) :
    earnedSum ((store.sheet attemptId).map SavedAnswer.tally) =
      earnedPoints (rowsOf attemptId store.answers) := by
  rw [earnedSum,
    (((sheet_perm store attemptId).map SavedAnswer.tally).map _).sum_eq,
    List.map_map]
  rfl

theorem mostSum_sheet (store : Store) (attemptId : String) :
    mostSum ((store.sheet attemptId).map SavedAnswer.tally) =
      maxPoints (rowsOf attemptId store.answers) := by
  rw [mostSum,
    (((sheet_perm store attemptId).map SavedAnswer.tally).map _).sum_eq,
    List.map_map]
  rfl

/-- A sheet with a row for each question. -/
structure IsFullSheet (questions : List VariantQuestion)
    (rows : List (SavedAnswer (Stored Answer))) : Prop where
  shown : ∀ row ∈ rows, IsSheetRow questions row
  complete : ∀ question ∈ questions, ∃ row ∈ rows,
    row.questionId = question.questionId
  whole : maxPoints rows = totalPoints questions

/-- The rows of a full sheet can be summed up, and the columns of an attempt can
keep the sums. -/
theorem IsFullSheet.exists_totals {store : Store} {attemptId : String}
    (full : IsFullSheet questions (rowsOf attemptId store.answers))
    (paper : IsPaper questions)
    (fits : totalPoints questions < Column.pointsBound) :
    ∃ totals,
      totals? ((store.sheet attemptId).map SavedAnswer.tally) = some totals ∧
      totals.Sums ((store.sheet attemptId).map SavedAnswer.tally) ∧
      ∃ rawScore maxScore percentage,
        Scores totals rawScore maxScore percentage := by
  have bounded : ∀ tally ∈ (store.sheet attemptId).map SavedAnswer.tally,
      tally.IsBounded := by
    intro tally inside
    obtain ⟨row, present, rfl⟩ := List.mem_map.mp inside
    exact ((full.shown row ((sheet_perm _ _).mem_iff.mp present)).tally_isFair
        paper).isBounded
  have small : mostSum ((store.sheet attemptId).map SavedAnswer.tally) <
      Column.pointsBound := by
    rw [mostSum_sheet, full.whole]
    exact fits
  obtain ⟨totals, summed, sums⟩ := exists_totals? bounded small.le
  exact ⟨totals, summed, sums, exists_scores sums bounded small⟩

/-- A review of one row leaves a sheet full. -/
theorem IsSitting.isFullSheet_reviewed {attempt : Attempt}
    {row : SavedAnswer (Stored Answer)} {score earned : Decimal}
    {outcome : GradeOutcome} (lawful : before.Lawful)
    (paper : IsPaper questions)
    (sitting : IsSitting questions before.answers attempt)
    (scored : attempt.status.isScored = true) (listed : row ∈ before.answers)
    (granted : manualOutcome row.maxPoints score = .ok outcome)
    (stored : Column.points outcome.earned = .ok earned) (gradedBy : String)
    (manual : ManualScore) :
    IsFullSheet questions
      (rowsOf attempt.id (updateWhere (fun other => other.id == row.id)
        (reviewedAnswer earned gradedBy manual) before.answers)) := by
  have rows : rowsOf attempt.id (updateWhere (fun other => other.id == row.id)
        (reviewedAnswer earned gradedBy manual) before.answers) =
      updateWhere (fun other => other.id == row.id) (reviewedAnswer earned
        gradedBy manual) (rowsOf attempt.id before.answers) :=
    rowsOf_updateWhere fun _ => rfl
  rw [rows]
  have shown : ∀ other ∈ updateWhere (fun other => other.id == row.id)
      (reviewedAnswer earned gradedBy manual)
      (rowsOf attempt.id before.answers), IsSheetRow questions other := by
    refine forall_mem_updateWhere sitting.rows fun other inside selected => ?_
    have here := sitting.rows other inside
    obtain rfl := eq_of_key lawful.sittings.answerIds (mem_rowsOf.mp inside).1
      listed (beq_iff_eq.mp selected)
    exact isSheetRow_reviewed paper here granted stored gradedBy manual
  have ids : (updateWhere (fun other => other.id == row.id) (reviewedAnswer
        earned gradedBy manual) (rowsOf attempt.id before.answers)).map
      (·.questionId) = (rowsOf attempt.id before.answers).map (·.questionId) :=
    map_updateWhere fun _ => rfl
  have complete : ∀ question ∈ questions, ∃ other ∈ updateWhere
      (fun other => other.id == row.id) (reviewedAnswer earned gradedBy manual)
      (rowsOf attempt.id before.answers),
      other.questionId = question.questionId := by
    intro question inside
    obtain ⟨other, present, same⟩ :=
      (sitting.scored scored).complete question inside
    apply List.mem_map.mp
    rw [ids, ← same]
    exact List.mem_map_of_mem present
  exact ⟨shown, complete, maxPoints_eq_totalPoints paper shown
    (ids ▸ nodup_rowsOf lawful.sittings.answersApart) complete⟩

/-- A review leaves a sitting with its scores. -/
theorem Reviews.isSitting {attempt : Attempt}
    {row : SavedAnswer (Stored Answer)} {outcome : GradeOutcome}
    {earned : Decimal} {answers : List (SavedAnswer (Stored Answer))}
    {totals : Totals} {rawScore maxScore percentage : Decimal}
    (lawful : before.Lawful)
    (reviews : Reviews before attempt row outcome earned answers totals)
    (scores : Scores totals rawScore maxScore percentage)
    (paper : IsPaper questions)
    (sitting : IsSitting questions before.answers attempt)
    (update : ScoreUpdate) :
    IsSitting questions answers
      (Store.scored rawScore maxScore percentage update attempt) := by
  obtain ⟨gradedBy, manual, -, rfl⟩ := reviews.changed
  obtain ⟨score, granted⟩ := reviews.granted
  have full := sitting.isFullSheet_reviewed lawful paper reviews.scored
    reviews.rowListed granted reviews.stored gradedBy manual
  obtain ⟨found, same, sums, -⟩ := @IsFullSheet.exists_totals _
    { before with answers := _ } _ full paper sitting.fits
  cases reviews.totals.symm.trans same
  obtain ⟨raw, max, percent⟩ := scores.values sums
  rw [earnedSum_sheet] at raw percent
  rw [mostSum_sheet] at max percent
  refine ⟨sitting.fits, max.trans full.whole, full.shown, fun _ => ?_⟩
  exact ⟨full.complete, ⟨rawScore, rfl, raw⟩, ⟨percentage, rfl, percent⟩⟩

end ExamHall
