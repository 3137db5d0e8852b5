import ExamHall.Proofs.Attempt.Scores
import ExamHall.Proofs.Store.Enforced

/-!
# Grading does not fail

A submitted attempt on a paper is graded whenever the tables can be reached: its
answers can be read, its points fit into their columns, and no calculation
leaves the range of decimals.
-/

namespace ExamHall

open Store

variable (now : Instant) {before : Store} {attempt : Attempt}
  {questions : List VariantQuestion}

theorem canReach_of_noOutages (reach : before.outages = [])
    (tables : List Table) : before.CanReach tables := by
  intro table _ lost
  rw [reach] at lost
  cases lost

theorem exists_answersOf (plain : Column.hasNul attempt.id = false)
    (reach : before.outages = [])
    (shown : ∀ row ∈ rowsOf attempt.id before.answers,
      IsSheetRow questions row) :
    ∃ answers, answersOf attempt.id before = .ok (answers, before) ∧
      (before.sheet attempt.id).mapM SavedAnswer.read? = some answers := by
  obtain ⟨answers, read⟩ := @exists_mapM_eq_some _ _ SavedAnswer.read?
    (before.sheet attempt.id) fun row inside =>
      (shown row ((sheet_perm before attempt.id).mem_iff.mp inside)).readable
  exact ⟨answers,
    answersOf_eq_ok.mpr ⟨plain, canReach_of_noOutages reach _, rfl, read⟩, read⟩

namespace Exam

/-- The rows for the questions without an answer can be made. -/
theorem exists_unansweredRows (paper : IsPaper questions)
    (fits : totalPoints questions < Column.pointsBound)
    {missing : List (String × Decimal)}
    (asked : ∀ question ∈ missing, ∃ original ∈ questions,
      question = (original.questionId, original.points)) :
    ∃ rows, missing.mapM unansweredRow = .ok rows := by
  induction missing with
  | nil => exact ⟨[], rfl⟩
  | cons question rest ih =>
      obtain ⟨here, later⟩ := List.forall_mem_cons.mp asked
      obtain ⟨original, inside, rfl⟩ := here
      obtain ⟨rows, others⟩ := ih later
      have small := (points_le_totalPoints paper inside).trans_lt fits
      obtain ⟨points, kept, -, -⟩ :=
        Column.exists_points (paper.points original inside) small
      have made : unansweredRow (original.questionId, original.points) =
          .ok (original.questionId, points) :=
        unansweredRow_eq_ok.mpr ⟨(paper.keys original inside).id_eq_ok, kept⟩
      refine ⟨(original.questionId, points) :: rows, ?_⟩
      rw [mapM_ok_iff_forall₂] at others ⊢
      exact .cons made others

theorem exists_fillSheet (lawful : before.Lawful) (reach : before.outages = [])
    (listed : attempt ∈ before.attempts) (paper : IsPaper questions)
    (sitting : IsSitting questions before.answers attempt) :
    ∃ after, fillSheet attempt questions now before = .ok ((), after) := by
  have plain := (lawful.sittings.keys attempt listed).plain
  obtain ⟨answers, -, read⟩ := exists_answersOf plain reach sitting.rows
  by_cases full : (unanswered questions answers).isEmpty
  · refine ⟨before, fillSheet_eq_ok.mpr ⟨plain, canReach_of_noOutages reach _,
      answers, read, ?_⟩⟩
    rw [if_pos full]
  · have asked :
        ∀ question ∈ unanswered questions answers, ∃ original ∈ questions,
            question = (original.questionId, original.points) := by
      intro question inside
      obtain ⟨original, present, same, -⟩ := mem_of_unanswered inside
      exact ⟨original, present, same⟩
    obtain ⟨rows, made⟩ := exists_unansweredRows paper sitting.fits asked
    have texts : ∀ text ∈ attempt.id :: (unanswered questions answers).map
        (·.1), Column.hasNul text = false := by
      intro text inside
      rcases List.mem_cons.mp inside with rfl | named
      · exact plain
      · obtain ⟨question, missing, rfl⟩ := List.mem_map.mp named
        obtain ⟨original, present, rfl⟩ := asked question missing
        exact (paper.keys original present).plain
    refine ⟨rows.foldl (withUnanswered attempt.id now) before, ?_⟩
    rw [fillSheet_eq_ok]
    refine ⟨plain, canReach_of_noOutages reach _, answers, read, ?_⟩
    rw [if_neg full, insertUnanswered_eq_ok]
    exact ⟨texts, canReach_of_noOutages reach _, rows, made,
      .inr (List.mem_map_of_mem listed), rfl⟩

/-! ## Marking -/

theorem exists_gradeAnswer {variant : Variant (List VariantQuestion)}
    (reach : before.outages = []) (paper : IsPaper variant.questions)
    (fits : totalPoints variant.questions < Column.pointsBound)
    {answer : SavedAnswer Answer} (plain : Column.hasNul answer.id = false) :
    ∃ tally after, gradeAnswer variant now answer before = .ok (tally, after) ∧
      after.outages = [] := by
  cases found : variant.questions.find? (·.questionId == answer.questionId) with
  | none => exact ⟨none, before,
    gradeAnswer_eq_ok.mpr (by rw [found]; exact ⟨rfl, rfl⟩), reach⟩
  | some question =>
      have inside := List.mem_of_find?_eq_some found
      have amount := paper.points question inside
      have small := (points_le_totalPoints paper inside).trans_lt fits
      obtain ⟨outcome, graded, within⟩ := Grading.exists_grade? amount
        (small.le.trans pointsBound_le) question.payload answer.value
      obtain ⟨earned, keptEarned, -⟩ := Column.exists_points within.earned
        (within.less.trans_lt small)
      obtain ⟨most, keptMost, -⟩ :=
        Column.exists_points (amount.congr amount.toRat_roundPoints)
          (amount.toRat_roundPoints.trans_lt small)
      refine ⟨some ⟨outcome.earned, roundPoints question.points,
        outcome.needsManual⟩,
        { before with
          answers := updateWhere (fun other => other.id == answer.id)
            (gradedAnswer earned most ⟨outcome, roundPoints question.points,
              now⟩) before.answers }, ?_, reach⟩
      rw [gradeAnswer_eq_ok, found]
      exact ⟨outcome, graded, plain, canReach_of_noOutages reach _, earned,
        most, keptEarned, keptMost, rfl, rfl⟩

theorem exists_gradeAnswers {variant : Variant (List VariantQuestion)}
    (reach : before.outages = []) (paper : IsPaper variant.questions)
    (fits : totalPoints variant.questions < Column.pointsBound)
    {answers : List (SavedAnswer Answer)}
    (plain : ∀ answer ∈ answers, Column.hasNul answer.id = false) :
    ∃ tallies after,
      gradeAnswers variant now answers before = .ok (tallies, after) := by
  induction answers generalizing before with
  | nil => exact ⟨[], before, rfl⟩
  | cons answer rest ih =>
      obtain ⟨here, later⟩ := List.forall_mem_cons.mp plain
      obtain ⟨tally, middle, graded, reached⟩ :=
        exists_gradeAnswer now reach paper fits here
      obtain ⟨tallies, after, others⟩ := ih reached later
      refine ⟨tally.toList ++ tallies, after, ?_⟩
      rw [gradeAnswers, bind_eq_ok]
      refine ⟨tally, middle, graded, ?_⟩
      rw [bind_eq_ok]
      exact ⟨tallies, after, others, rfl⟩

/-- The answers of a complete sheet are graded, and the totals are written. -/
theorem exists_gradeSheet {variant : Variant (List VariantQuestion)}
    (lawful : LawfulSittings before.assignments before.variants before.attempts
      before.answers) (reach : before.outages = [])
    (listed : attempt ∈ before.attempts)
    (submitted : attempt.status = .submitted)
    (paper : IsPaper variant.questions)
    (fits : totalPoints variant.questions < Column.pointsBound)
    (shown : ∀ row ∈ rowsOf attempt.id before.answers,
      IsSheetRow variant.questions row)
    (complete : ∀ question ∈ variant.questions,
      ∃ row ∈ rowsOf attempt.id before.answers,
        row.questionId = question.questionId) :
    ∃ graded after,
      gradeSheet attempt variant now before = .ok (some graded, after) := by
  have plain := (lawful.keys attempt listed).plain
  obtain ⟨answers, found, read⟩ := exists_answersOf plain reach shown
  have plainIds : ∀ answer ∈ answers, Column.hasNul answer.id = false := by
    intro answer inside
    obtain ⟨row, present, value⟩ :=
      exists_mem_left_of_forall₂ (mapM_eq_some_iff_forall₂.mp read) inside
    obtain ⟨_, rfl⟩ := exists_value_of_read? value
    exact lawful.answerKeys row (mem_sheet.mp present).1
  obtain ⟨tallies, middle, marked⟩ :=
    exists_gradeAnswers now reach paper fits plainIds
  obtain ⟨rfl, rows, rfl, changes⟩ :=
    gradeAnswers_sheet lawful.answerIds read marked
  have sheet := (sheetGraded_of_rowGraded paper fits shown (nodup_rowsOf
      lawful.answersApart) complete (filter_forall₂ changes fun _ _ change =>
        congrArg (·.2.1) change.key)).of_perm (sheet_perm before attempt.id)
  obtain ⟨totals, summed, -, rawScore, maxScore, percentage, scores⟩ :=
    sheet.exists_totals fits
  have here : before.attempts.any (hasStatus attempt.id .submitted) = true :=
    List.any_eq_true.mpr ⟨attempt, listed,
      hasStatus_eq_true.mpr ⟨rfl, submitted⟩⟩
  have found? := find?_hasStatus lawful.ids listed submitted
  refine ⟨scored rawScore maxScore percentage
    (scoreUpdate totals totals.statusAfterAuto now) attempt,
    { before with
      attempts := updateWhere (hasStatus attempt.id .submitted)
        (scored rawScore maxScore percentage
          (scoreUpdate totals totals.statusAfterAuto now)) before.attempts
      answers := rows }, ?_⟩
  simp only [gradeSheet, bind_eq_ok, Transaction.lift_eq_ok,
    Transaction.inRange_eq_ok, recordScores_eq_ok]
  refine ⟨answers, before, found, _, _, marked, totals, _, ⟨summed, rfl⟩, plain,
    canReach_of_noOutages reach _, ?_⟩
  rw [if_pos here, found?]
  exact ⟨rawScore, maxScore, percentage, scores.rawScore, scores.maxScore,
    scores.percentage, rfl,
    rfl⟩

/-- A submitted attempt on a paper is graded. -/
theorem exists_gradeTransaction (lawful : before.Lawful)
    (reach : before.outages = []) (listed : attempt ∈ before.attempts)
    (submitted : attempt.status = .submitted)
    (variant : HasVariant before attempt.variantId questions)
    (paper : IsPaper questions)
    (sitting : IsSitting questions before.answers attempt) :
    ∃ graded shown after, gradeTransaction attempt.id now before =
        .ok (some (graded, shown), after) := by
  have plain := (lawful.sittings.keys attempt listed).plain
  obtain ⟨row, dealt, same, read⟩ := variant
  have found : before.variants.find? (·.id == attempt.variantId) = some row :=
    same ▸ find?_key_eq_some lawful.tests.variantIds dealt
  have plainVariant : Column.hasNul attempt.variantId = false :=
    same ▸ (lawful.tests.variantKeys row dealt).plain
  obtain ⟨middle, filling⟩ :=
    exists_fillSheet now lawful reach listed paper sitting
  obtain ⟨-, added, issued, fills, rfl⟩ :=
    fillSheet_fills lawful.sittings filling
  obtain ⟨shown, complete⟩ := fills.sheet paper sitting.rows
  obtain ⟨graded, after, marking⟩ := @exists_gradeSheet now
    { before with answers := before.answers ++ added, issued } attempt
      { row with questions }
    (fills.lawfulSittings listed lawful.sittings) reach listed submitted paper
      sitting.fits shown
    complete
  refine ⟨graded, { row with questions }, after, ?_⟩
  simp only [gradeTransaction, bind_eq_ok, Transaction.lift_eq_ok,
    attempt?_eq_ok]
  refine ⟨_, before, ⟨plain, canReach_of_noOutages reach _, rfl, rfl⟩, ?_⟩
  rw [find?_key_eq_some lawful.sittings.ids listed]
  simp only [submitted, if_true, gradeLocked, bind_eq_ok,
    Transaction.lift_eq_ok, variant_eq_ok]
  exact ⟨{ row with questions }, before,
    ⟨plainVariant, canReach_of_noOutages reach _, rfl, row, found, by
      rw [Variant.read?, read]
      rfl⟩, ⟨⟩, _, filling, some graded, after, marking, rfl⟩

end Exam

end ExamHall
