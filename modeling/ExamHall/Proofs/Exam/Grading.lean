import ExamHall.Proofs.Attempt.Pending
import ExamHall.Proofs.Exam.Marking

/-!
# Grading an attempt

The transaction that grades an attempt fills its sheet, grades every row of it
and writes the totals.  On a lawful store it is one change of the kind
`Change.graded`, or none at all.
-/

namespace ExamHall

open Store

/-- An attempt of the store has been graded, and is since then as given. -/
def GradesInto (now : Instant) (before : Store) (attempt : Attempt)
    (graded : Attempt) (after : Store) : Prop :=
  ∃ added answers totals rawScore maxScore percentage issued,
    Grades now before attempt added answers totals ∧
      Scores totals rawScore maxScore percentage ∧
      graded = scored rawScore maxScore percentage
        (Exam.scoreUpdate totals totals.statusAfterAuto now) attempt ∧
      after = { before with
        attempts := updateWhere (hasStatus attempt.id .submitted)
          (scored rawScore maxScore percentage
            (Exam.scoreUpdate totals totals.statusAfterAuto now))
          before.attempts
        answers, issued }

theorem GradesInto.mem {now : Instant} {before after : Store}
    {attempt graded : Attempt}
    (into : GradesInto now before attempt graded after) :
    attempt ∈ before.attempts := by
  obtain ⟨_, _, _, _, _, _, _, grades, -⟩ := into
  exact grades.listed

/-- A graded attempt has its scores and keeps its time of submission. -/
theorem GradesInto.listed {now : Instant} {before after : Store}
    {attempt graded : Attempt}
    (into : GradesInto now before attempt graded after) :
    graded ∈ after.attempts ∧ graded.id = attempt.id ∧
    graded.submittedAt = attempt.submittedAt ∧
    graded.status.isScored = true := by
  obtain ⟨_, _, totals, _, _, _, _, grades, -, rfl, rfl⟩ := into
  refine ⟨mem_updateWhere_of_holds grades.listed ?_, rfl, rfl,
    totals.isScored_statusAfterAuto⟩
  exact hasStatus_eq_true.mpr ⟨rfl, grades.submitted⟩

theorem GradesInto.change {now : Instant} {before after : Store}
    {attempt graded : Attempt}
    (into : GradesInto now before attempt graded after) :
    Change now before after := by
  obtain ⟨added, answers, totals, rawScore, maxScore, percentage, issued,
      grades, scores, -, rfl⟩ :=
    into
  exact .graded grades scores

/-- A graded attempt does not wait any longer, and no other has come to wait. -/
theorem GradesInto.awaitsOnly_none {now : Instant} {before after : Store}
    {attempt graded given : Attempt}
    (into : GradesInto now before attempt graded after)
    (same : given.id = attempt.id) (only : before.AwaitsOnly (some given)) :
    after.AwaitsOnly none := by
  obtain ⟨_, _, totals, _, _, _, _, -, -, -, rfl⟩ := into
  intro other membership submitted
  obtain ⟨old, inside, rfl⟩ := mem_updateWhere.mp membership
  cases selected : hasStatus attempt.id .submitted old with
  | true =>
      rw [if_pos selected] at submitted
      exact absurd submitted
        (AttemptStatus.ne_submitted_of_isScored totals.isScored_statusAfterAuto)
  | false =>
      rw [if_neg (by simp [selected])] at submitted
      obtain ⟨_, handed, sameId⟩ := only old inside submitted
      cases handed
      rw [hasStatus_eq_true.mpr ⟨sameId.symm.trans same, submitted⟩] at selected
      cases selected

theorem GradesInto.handsOver {now : Instant} {before after : Store}
    {attempt graded : Attempt}
    (into : GradesInto now before attempt graded after) :
    HandsOver now none before after := by
  refine .single into.change ?_
  obtain ⟨_, _, totals, _, _, _, _, -, -, -, rfl⟩ := into
  exact .updateWhere (.scored _ _ _ _) fun _ _ _ waits => absurd waits
    (AttemptStatus.ne_submitted_of_isScored totals.isScored_statusAfterAuto)

/-- A caller owns an assignment or administrates all. -/
def Manages (store : Store) (caller : Caller) (assignmentId : String) : Prop :=
  ∃ assignment ∈ store.assignments, assignment.id = assignmentId ∧
    caller.mayManage assignment.ownerId = true

/-- A reviewer has scored an answer of an attempt. -/
def ReviewsInto (now : Instant) (before : Store) (attempt : Attempt)
    (after : Store) : Prop :=
  ∃ row outcome earned answers totals rawScore maxScore percentage,
    Reviews before attempt row outcome earned answers totals ∧
      Scores totals rawScore maxScore percentage ∧
      after = { before with
        attempts := updateWhere (hasStatus attempt.id attempt.status)
          (scored rawScore maxScore percentage
            (Exam.scoreUpdate totals totals.statusAfterManual now))
          before.attempts
        answers }

theorem ReviewsInto.handsOver {now : Instant} {before after : Store}
    {attempt : Attempt} (into : ReviewsInto now before attempt after) :
    HandsOver now none before after := by
  obtain ⟨_, _, _, _, totals, _, _, _, reviews, scores, rfl⟩ := into
  refine .single (.reviewed reviews scores) (.updateWhere (.scored _ _ _ _) ?_)
  exact fun _ _ _ waits => absurd waits
    (AttemptStatus.ne_submitted_of_isScored totals.isScored_statusAfterManual)

/-- The read answers of an attempt and the rows that they were read from. -/
theorem mem_sheet {store : Store} {attemptId : String}
    {row : SavedAnswer (Stored Answer)} :
    row ∈ store.sheet attemptId ↔ row ∈ store.answers ∧
    row.attemptId = attemptId := by
  unfold Store.sheet
  rw [Collation.mem_sortBy, List.mem_filter, beq_iff_eq]

namespace Exam

variable {now : Instant} {before after : Store} {attempt : Attempt}

theorem fillSheet_eq_ok {questions : List VariantQuestion} {found : Unit} :
    fillSheet attempt questions now before = .ok (found, after) ↔
      Column.hasNul attempt.id = false ∧ before.CanReach [.answers] ∧ ∃ answers,
      (before.sheet attempt.id).mapM SavedAnswer.read? = some answers ∧
      if (unanswered questions answers).isEmpty then after = before
          else insertUnanswered attempt.id (unanswered questions answers) now
              before = .ok (found, after) := by
  simp only [fillSheet, bind_eq_ok, Transaction.lift_eq_ok, answersOf_eq_ok]
  constructor
  · rintro ⟨answers, _, ⟨plain, reached, rfl, read⟩, ended⟩
    refine ⟨plain, reached, answers, read, ?_⟩
    split at ended
    · next none => simpa [none] using ended
    · next some => simpa [some] using ended
  · rintro ⟨plain, reached, answers, read, ended⟩
    refine ⟨answers, before, ⟨plain, reached, rfl, read⟩, ?_⟩
    split at ended
    · next none => simpa [none] using ended
    · next some => simpa [some] using ended

/-- What grading adds to the answers that it has read is a row for each question
without an answer. -/
theorem fills_of_filled {questions : List VariantQuestion}
    {answers : List (SavedAnswer Answer)} {rows : List (String × Decimal)}
    {added : List (SavedAnswer (Stored Answer))}
    (filled : Filled attempt.id now rows before added)
    (lawful : LawfulSittings before.assignments before.variants before.attempts
      before.answers)
    (answered : ∀ answer ∈ answers, ∃ row ∈ before.answers,
      row.attemptId = attempt.id ∧ row.questionId = answer.questionId)
    (stored : List.Forall₂ (fun question row =>
      unansweredRow question = .ok row) (unanswered questions answers) rows) :
    Fills now before attempt questions added := by
  refine ⟨fun row inside => ?_, filled.ids lawful.answerIds, filled.plain,
    filled.apart lawful.answersApart, fun asked listed => ?_⟩
  · obtain ⟨listed, made⟩ := filled.rows row inside
    obtain ⟨question, asked, kept⟩ := exists_mem_left_of_forall₂ stored listed
    obtain ⟨original, present, rfl, -⟩ := mem_of_unanswered asked
    obtain ⟨questionId, maxPoints⟩ := unansweredRow_eq_ok.mp kept
    exact ⟨⟨original, present, questionId, maxPoints⟩, made⟩
  · by_cases missing : ∀ answer ∈ answers, answer.questionId ≠ asked.questionId
    · obtain ⟨row, inside, kept⟩ :=
        exists_mem_right_of_forall₂ stored (mem_unanswered listed missing)
      obtain ⟨answer, present, same⟩ := filled.complete row inside
      obtain ⟨sameAttempt, sameQuestion⟩ : answer.attemptId = attempt.id ∧
          answer.questionId = row.1 := by simpa [isAnswerTo] using same
      refine ⟨answer, present, sameAttempt, .inr ?_⟩
      rw [sameQuestion]
      exact (unansweredRow_eq_ok.mp kept).1
    · push Not at missing
      obtain ⟨answer, inside, same⟩ := missing
      obtain ⟨row, present, sameAttempt, sameQuestion⟩ := answered answer inside
      exact ⟨row, List.mem_append_left added present, sameAttempt,
        .inl (sameQuestion.trans same)⟩

/-- A filled sheet has a row for each question. -/
theorem fillSheet_fills {questions : List VariantQuestion} {found : Unit}
    (lawful : LawfulSittings before.assignments before.variants before.attempts
      before.answers)
    (ended : fillSheet attempt questions now before = .ok (found, after)) :
    (∀ row ∈ before.answers, row.attemptId = attempt.id → row.read?.isSome) ∧
    ∃ added issued, Fills now before attempt questions added ∧
      after = { before with answers := before.answers ++ added, issued } := by
  obtain ⟨-, -, answers, read, ended⟩ := fillSheet_eq_ok.mp ended
  have pairs := mapM_eq_some_iff_forall₂.mp read
  have readable : ∀ row ∈ before.answers, row.attemptId = attempt.id →
      row.read?.isSome := by
    intro row inside same
    obtain ⟨answer, -, value⟩ :=
      exists_mem_right_of_forall₂ pairs (mem_sheet.mpr ⟨inside, same⟩)
    rw [value]
    rfl
  have answered : ∀ answer ∈ answers, ∃ row ∈ before.answers,
      row.attemptId = attempt.id ∧ row.questionId = answer.questionId := by
    intro answer inside
    obtain ⟨row, listed, value⟩ := exists_mem_left_of_forall₂ pairs inside
    obtain ⟨_, rfl⟩ := exists_value_of_read? value
    obtain ⟨present, same⟩ := mem_sheet.mp listed
    exact ⟨row, present, same, rfl⟩
  refine ⟨readable, ?_⟩
  split at ended
  · next none =>
      subst ended
      refine ⟨[], after.issued,
        fills_of_filled (.nil attempt.id now after) lawful answered ?_, by
        rw [List.append_nil]⟩
      rw [List.isEmpty_iff.mp none]
      exact .nil
  · next some =>
      obtain ⟨-, -, rows, made, -, rfl⟩ := insertUnanswered_eq_ok.mp ended
      obtain ⟨added, issued, filled, same⟩ :=
        exists_filled attempt.id now rows before
      exact ⟨added, issued,
        fills_of_filled filled lawful answered (mapM_ok_iff_forall₂.mp made),
        same⟩

/-- The answers that are read of an attempt have the ids of its rows. -/
theorem mem_ids_iff {answers : List (SavedAnswer Answer)}
    (ids : (before.answers.map (·.id)).Nodup)
    (pairs : List.Forall₂ (fun row answer =>
      SavedAnswer.read? row = some answer) (before.sheet attempt.id) answers)
    {row : SavedAnswer (Stored Answer)} (inside : row ∈ before.answers) :
    row.id ∈ answers.map (·.id) ↔ row.attemptId = attempt.id := by
  constructor
  · intro listed
    obtain ⟨answer, present, same⟩ := List.mem_map.mp listed
    obtain ⟨other, shown, read⟩ := exists_mem_left_of_forall₂ pairs present
    obtain ⟨_, rfl⟩ := exists_value_of_read? read
    obtain ⟨otherInside, sameAttempt⟩ := mem_sheet.mp shown
    rw [← eq_of_key ids otherInside inside same]
    exact sameAttempt
  · intro same
    obtain ⟨answer, present, read⟩ :=
      exists_mem_right_of_forall₂ pairs (mem_sheet.mpr ⟨inside, same⟩)
    obtain ⟨_, rfl⟩ := exists_value_of_read? read
    exact List.mem_map.mpr ⟨_, present, rfl⟩

theorem sheet_ids_nodup (ids : (before.answers.map (·.id)).Nodup)
    (attemptId : String) : ((before.sheet attemptId).map (·.id)).Nodup := by
  unfold Store.sheet
  rw [((Collation.sortBy_perm _ _ _).map _).nodup_iff]
  exact ids.sublist (List.filter_sublist.map _)

theorem filterMap_answerTally? {questions : List VariantQuestion}
    {rows : List (SavedAnswer (Stored Answer))}
    {answers : List (SavedAnswer Answer)}
    (pairs : List.Forall₂
      (fun row answer => SavedAnswer.read? row = some answer) rows answers) :
    answers.filterMap (answerTally? questions) =
      rows.filterMap (tally? questions) := by
  induction pairs with
  | nil => rfl
  | cons here _ ih => rw [List.filterMap_cons, List.filterMap_cons, tally?,
    here, Option.bind_some, ih]

/-- Grading the answers of a sheet grades its rows and no others. -/
theorem gradeAnswers_sheet {variant : Variant (List VariantQuestion)}
    {answers : List (SavedAnswer Answer)} {tallies : List Tally}
    (ids : (before.answers.map (·.id)).Nodup)
    (read : (before.sheet attempt.id).mapM SavedAnswer.read? = some answers)
    (marked : gradeAnswers variant now answers before = .ok (tallies, after)) :
    tallies = (before.sheet attempt.id).filterMap (tally? variant.questions) ∧
      ∃ rows, after = { before with answers := rows } ∧
        List.Forall₂ (fun row graded =>
          if row.attemptId = attempt.id
            then RowGraded variant.questions now row graded
          else graded = row) before.answers rows := by
  have pairs := mapM_eq_some_iff_forall₂.mp read
  have sameIds : answers.map (·.id) = (before.sheet attempt.id).map (·.id) := by
    apply map_eq_of_forall₂ pairs
    intro row answer value
    obtain ⟨_, rfl⟩ := exists_value_of_read? value
    rfl
  have listed : ∀ answer ∈ answers, ∃ row ∈ before.answers,
      row.read? = some answer := by
    intro answer inside
    obtain ⟨row, shown, value⟩ := exists_mem_left_of_forall₂ pairs inside
    exact ⟨row, (mem_sheet.mp shown).1, value⟩
  obtain ⟨rfl, rows, rfl, graded⟩ :=
    gradeAnswers_areGraded ids (sameIds ▸ sheet_ids_nodup ids attempt.id)
      listed marked
  refine ⟨filterMap_answerTally? pairs, rows, rfl, ?_⟩
  apply forall₂_imp_mem graded
  intro row inside after change
  simp only [mem_ids_iff ids pairs inside] at change
  exact change

/-- The answers of a filled sheet are all graded, and the totals are theirs. -/
theorem gradeSheet_grades {variant : Variant (List VariantQuestion)}
    {result : Option Attempt}
    (ended : gradeSheet attempt variant now before = .ok (result, after))
    (attemptIds : (before.attempts.map (·.id)).Nodup)
    (ids : (before.answers.map (·.id)).Nodup)
    (listed : attempt ∈ before.attempts)
    (submitted : attempt.status = .submitted) :
    ∃ answers totals rawScore maxScore percentage,
      List.Forall₂ (fun row graded =>
          if row.attemptId = attempt.id
            then RowGraded variant.questions now row graded
          else graded = row) before.answers answers ∧
        totals? ((before.sheet attempt.id).filterMap (tally? variant.questions))
          = some totals ∧ Scores totals rawScore maxScore percentage ∧
        result = some
        (scored rawScore maxScore percentage
          (scoreUpdate totals totals.statusAfterAuto now) attempt) ∧
        after = { before with
          attempts := updateWhere (hasStatus attempt.id .submitted)
            (scored rawScore maxScore percentage
              (scoreUpdate totals totals.statusAfterAuto now)) before.attempts
          answers } := by
  simp only [gradeSheet, bind_eq_ok, Transaction.lift_eq_ok,
    Transaction.inRange_eq_ok, answersOf_eq_ok, recordScores_eq_ok] at ended
  obtain ⟨answers, store, ⟨-, -, rfl, read⟩, tallies, middle, marked, totals, _,
    ⟨summed, rfl⟩, -, -, written⟩ := ended
  obtain ⟨rfl, rows, rfl, graded⟩ := gradeAnswers_sheet ids read marked
  have here : hasStatus attempt.id .submitted attempt = true :=
    hasStatus_eq_true.mpr ⟨rfl, submitted⟩
  rw [if_pos (List.any_eq_true.mpr ⟨attempt, listed, here⟩)] at written
  obtain ⟨rawScore, maxScore, percentage, raw, most, percent, rfl, rfl⟩ :=
    written
  refine ⟨rows, totals, rawScore, maxScore, percentage, graded, summed,
    ⟨raw, most, percent⟩, ?_,
    rfl⟩
  rw [find?_hasStatus attemptIds listed submitted]
  rfl

/-- Grading a submitted attempt is one change, and gives the attempt as it is
since then. -/
theorem gradeLocked_gradesInto
    {result : Option (Attempt × Variant (List VariantQuestion))}
    (lawful : before.Lawful) (listed : attempt ∈ before.attempts)
    (submitted : attempt.status = .submitted)
    (ended : gradeLocked attempt now before = .ok (result, after)) :
    ∃ graded variant, result = some (graded, variant) ∧
      GradesInto now before attempt graded after := by
  simp only [gradeLocked, bind_eq_ok, Transaction.lift_eq_ok, variant_eq_ok,
    pure_eq_ok] at ended
  obtain ⟨variant, store, ⟨-, -, rfl, row, found, read⟩, _, middle, filling,
    graded, _, marking, rfl,
    rfl⟩ := ended
  have sittings := lawful.sittings
  obtain ⟨readable, added, issued, fills, rfl⟩ :=
    fillSheet_fills sittings filling
  obtain ⟨answers, totals, rawScore, maxScore, percentage, rows, summed, scores,
      rfl, rfl⟩ :=
    gradeSheet_grades marking sittings.ids
      (fills.lawfulSittings listed sittings).answerIds listed submitted
  refine ⟨_, variant, rfl, added, answers, totals, rawScore, maxScore,
    percentage, issued, ?_, scores, rfl, rfl⟩
  exact ⟨listed, submitted, readable, variant.questions,
    hasVariant_of_find? found read, fills, rows, summed⟩

/-- The transaction of grading does nothing, or grades the submitted attempt
with the given id. -/
theorem gradeTransaction_gradesInto {attemptId : String}
    {result : Option (Attempt × Variant (List VariantQuestion))}
    (lawful : before.Lawful)
    (ended : gradeTransaction attemptId now before = .ok (result, after)) :
    (result = none ∧ after = before ∧ ∀ attempt ∈ before.attempts,
      hasStatus attemptId .submitted attempt = false) ∨
    ∃ attempt graded variant, attempt.id = attemptId ∧
      result = some (graded, variant) ∧
      GradesInto now before attempt graded after := by
  simp only [gradeTransaction, bind_eq_ok, Transaction.lift_eq_ok,
    attempt?_eq_ok] at ended
  obtain ⟨_, store, ⟨-, -, rfl, rfl⟩, ended⟩ := ended
  cases found : store.attempts.find? (·.id == attemptId) with
  | none =>
      rw [found] at ended
      obtain ⟨rfl, rfl⟩ := pure_eq_ok.mp ended
      refine .inl ⟨rfl, rfl, fun attempt inside => ?_⟩
      have := List.find?_eq_none.mp found attempt inside
      simp [hasStatus, this]
  | some attempt =>
      rw [found] at ended
      obtain ⟨listed, same⟩ := mem_and_key_of_find? found
      by_cases submitted : attempt.status = .submitted
      · simp only [submitted, if_true] at ended
        obtain ⟨graded, variant, rfl, into⟩ :=
          gradeLocked_gradesInto lawful listed submitted ended
        exact .inr ⟨attempt, graded, variant, same, rfl, into⟩
      · simp only [submitted, if_false, pure_eq_ok] at ended
        refine .inl ⟨ended.1, ended.2, fun other inside => ?_⟩
        rw [Bool.eq_false_iff]
        intro present
        obtain ⟨sameId, isSubmitted⟩ := hasStatus_eq_true.mp present
        rw [eq_of_key lawful.sittings.ids inside listed
          (sameId.trans same.symm)] at isSubmitted
        exact submitted isSubmitted

/-! ## Reviews -/

theorem tally_of_read? {row : SavedAnswer (Stored Answer)}
    {answer : SavedAnswer Answer} (read : row.read? = some answer) :
    answer.tally = row.tally := by
  obtain ⟨_, rfl⟩ := exists_value_of_read? read
  rfl

theorem map_tally {rows : List (SavedAnswer (Stored Answer))}
    {answers : List (SavedAnswer Answer)}
    (read : rows.mapM SavedAnswer.read? = some answers) :
    answers.map SavedAnswer.tally = rows.map SavedAnswer.tally :=
  map_eq_of_forall₂ (mapM_eq_some_iff_forall₂.mp read) fun _ _ value =>
    tally_of_read? value

theorem managedAssignment_eq_ok {caller : Caller} {assignmentId : String}
    {assignment : Assignment} :
    managedAssignment caller assignmentId before = .ok (assignment, after) ↔
      Column.hasNul assignmentId = false ∧
    before.CanReach [.assignments] ∧ after = before ∧
    before.assignments.find? (·.id == assignmentId) = some assignment ∧
    caller.mayManage assignment.ownerId = true := by
  simp only [managedAssignment, bind_eq_ok, Transaction.lift_eq_ok,
    Transaction.demand_eq_ok, Transaction.require_eq_ok, assignment?_eq_ok,
    pure_eq_ok]
  constructor
  · rintro ⟨_, _, ⟨plain, reach, rfl, rfl⟩, _, _, ⟨found, rfl⟩, _, _,
      ⟨may, rfl⟩, rfl, rfl⟩
    exact ⟨plain, reach, rfl, found, may⟩
  · rintro ⟨plain, reach, rfl, found, may⟩
    exact ⟨_, _, ⟨plain, reach, rfl, rfl⟩, _, _, ⟨found, rfl⟩, ⟨⟩, _,
      ⟨may, rfl⟩, rfl, rfl⟩

/-- An assignment of the store is handed to whoever manages it. -/
theorem managedAssignment_of_listed {caller : Caller}
    {assignment found : Assignment} (lawful : before.Lawful)
    (listed : assignment ∈ before.assignments) :
    managedAssignment caller assignment.id before = .ok (found, after) ↔
      before.CanReach [.assignments] ∧ after = before ∧ found = assignment ∧
    caller.mayManage assignment.ownerId = true := by
  have plain := (lawful.assignments.keys assignment listed).plain
  have only := find?_key_eq_some lawful.assignments.ids listed
  rw [managedAssignment_eq_ok, only]
  constructor
  · rintro ⟨-, reach, rfl, same, may⟩
    cases same
    exact ⟨reach, rfl, rfl, may⟩
  · rintro ⟨reach, rfl, rfl, may⟩
    exact ⟨plain, reach, rfl, rfl, may⟩

theorem managedAssignment_manages {caller : Caller} {assignmentId : String}
    {assignment : Assignment}
    (ended : managedAssignment caller assignmentId before =
      .ok (assignment, after)) : Manages before caller assignmentId := by
  obtain ⟨-, -, -, found, manages⟩ := managedAssignment_eq_ok.mp ended
  obtain ⟨listed, same⟩ := mem_and_key_of_find? found
  exact ⟨_, listed, same, manages⟩

end Exam

end ExamHall
