import ExamHall.Proofs.Store.Reading

/-!
# What statements write

For each statement that changes the store: when it succeeds, what it finds, and
what store it leaves.
-/

namespace ExamHall.Store

variable {before after : Store}

/-! ## Attempts -/

theorem updateAttempts_eq_ok {holds : Attempt → Bool}
    {change : Attempt → Attempt} {found : Option Attempt} :
    updateAttempts holds change before = .ok (found, after) ↔
      found = (before.attempts.find? holds).map change ∧
    after =
      { before with attempts := updateWhere holds change before.attempts } := by
  constructor
  · intro ended
    cases ended
    exact ⟨rfl, rfl⟩
  · rintro ⟨rfl, rfl⟩
    rfl

theorem markSubmitted_eq_ok {id : String} {submittedAt now : Instant}
    {found : Option Attempt} :
    markSubmitted id submittedAt now before = .ok (found, after) ↔
      Column.hasNul id = false ∧ before.CanReach [.attempts] ∧
    found = (before.attempts.find? (hasStatus id .inProgress)).map
      (submitted submittedAt now) ∧
        after = { before with
          attempts := updateWhere (hasStatus id .inProgress)
            (submitted submittedAt now) before.attempts } := by
  simp [markSubmitted, updateAttempts_eq_ok]

theorem countViolation_eq_ok {id : String} {now : Instant}
    {found : Option Attempt} :
    countViolation id now before = .ok (found, after) ↔
      Column.hasNul id = false ∧ before.CanReach [.attempts] ∧
    (∀ attempt ∈ before.attempts, hasStatus id .inProgress attempt = true →
      attempt.violationCount + 1 < twoTo 31) ∧
    found =
      (before.attempts.find? (hasStatus id .inProgress)).map (violated now) ∧
        after = { before with
          attempts := updateWhere (hasStatus id .inProgress) (violated now)
            before.attempts } := by
  simp [countViolation, updateAttempts_eq_ok]
  grind

theorem flag_eq_ok {id reason : String} {now : Instant}
    {found : Option Attempt} :
    flag id reason now before = .ok (found, after) ↔
      (Column.hasNul reason = false ∧ Column.hasNul id = false) ∧
    before.CanReach [.attempts] ∧
    found = (before.attempts.find? (fun attempt => attempt.id == id)).map
      (marked reason now) ∧
        after = { before with
          attempts := updateWhere (fun attempt => attempt.id == id)
            (marked reason now) before.attempts } := by
  simp [flag, updateAttempts_eq_ok]

theorem recordScores_eq_ok {id : String} {expected : AttemptStatus}
    {update : ScoreUpdate} {found : Option Attempt} :
    recordScores id expected update before = .ok (found, after) ↔
      Column.hasNul id = false ∧ before.CanReach [.attempts] ∧
    if before.attempts.any (hasStatus id expected) then
          ∃ rawScore maxScore percentage,
              Column.points update.rawScore = .ok rawScore ∧
              Column.points update.maxScore = .ok maxScore ∧
              Column.percent update.percentage = .ok percentage ∧
              found = (before.attempts.find? (hasStatus id expected)).map
                (scored rawScore maxScore percentage update) ∧
            after = { before with
              attempts := updateWhere (hasStatus id expected)
                (scored rawScore maxScore percentage update) before.attempts }
        else found = none ∧ after = before := by
  simp only [recordScores, bind_eq_ok, Statement.plain_eq_ok,
    Statement.reach_eq_ok, get_eq_ok]
  split
  · next present => simp [present, updateAttempts_eq_ok]
  · next absent => simp [absent, and_comm]

theorem attemptRow_eq_ok {id : String} {attempt : NewAttempt} {row : Attempt} :
    attemptRow id attempt = .ok row ↔
      ∃ assignmentId studentId variantId maxScore,
        Column.id attempt.assignmentId = .ok assignmentId ∧
        Column.id attempt.studentId = .ok studentId ∧
        Column.id attempt.variantId = .ok variantId ∧
        Column.points attempt.maxScore = .ok maxScore ∧
        row =
          { id, assignmentId, studentId, number := attempt.number, variantId
            variantIndex := attempt.variantIndex
            status := .inProgress
            startedAt := Column.time attempt.startedAt
            deadlineAt := Column.time attempt.deadlineAt
            submittedAt := none
            gradedAt := none
            rawScore := none
            maxScore
            percentage := none
            violationCount := 0
            flagged := false
            flagReason := none
            createdAt := Column.time attempt.startedAt
            updatedAt := Column.time attempt.startedAt } := by
  simp [attemptRow, eq_comm (b := row)]

/-- The number of the next attempt's id. -/
def nextAttemptNumber (store : Store) : Nat :=
  freshNumber "attempt" (store.attempts.map (·.id)) store.issued.attempts

theorem issueAttemptId_eq_ok {id : String} :
    issueAttemptId before = .ok (id, after) ↔
      id = idOf "attempt" (nextAttemptNumber before) ∧ after =
        { before with issued := { before.issued with
            attempts := nextAttemptNumber before } } := by
  constructor
  · intro ended
    cases ended
    exact ⟨rfl, rfl⟩
  · rintro ⟨rfl, rfl⟩
    rfl

theorem createAttempt_eq_ok {attempt : NewAttempt} {found : Option Attempt} :
    createAttempt attempt before = .ok (found, after) ↔
      (∀ text ∈ [attempt.assignmentId, attempt.studentId, attempt.variantId],
        Column.hasNul text = false) ∧ before.CanReach [.attempts] ∧ ∃ row,
      attemptRow (idOf "attempt" (nextAttemptNumber before)) attempt = .ok row ∧
      1 ≤ row.number ∧ if before.attempts.any (conflicts row)
      then after = before ∧ found = none
        else row.assignmentId ∈ before.assignments.map (·.id) ∧
          row.variantId ∈ before.variants.map (·.id) ∧
          after = { before with
            attempts := before.attempts ++ [row]
            issued :=
              { before.issued with attempts := nextAttemptNumber before } } ∧
          found = some row := by
  simp only [createAttempt, bind_eq_ok, Statement.plain_eq_ok,
    Statement.reach_eq_ok, get_eq_ok, Statement.ofExcept_eq_ok,
    Statement.ensure_eq_ok, issueAttemptId_eq_ok, decide_eq_true_eq]
  constructor
  · rintro ⟨_, _, ⟨plain, rfl⟩, _, _, ⟨reached, rfl⟩, store, _, ⟨rfl, rfl⟩, _,
      _, ⟨rfl, rfl⟩, row, _, ⟨made, rfl⟩, _, _, ⟨positive, rfl⟩, _, _,
      ⟨rfl, rfl⟩, ended⟩
    refine ⟨plain, reached, row, made, positive, ?_⟩
    split at ended
    · next conflict =>
        rw [if_pos conflict]
        simpa using ended
    · next apart =>
        rw [if_neg apart]
        simpa [List.contains_iff_mem, and_assoc] using ended
  · rintro ⟨plain, reached, row, made, positive, ended⟩
    refine ⟨⟨⟩, before, ⟨plain, rfl⟩, ⟨⟩, before, ⟨reached, rfl⟩, before,
      before, ⟨rfl, rfl⟩, _, _, ⟨rfl, rfl⟩, row, _, ⟨made, rfl⟩, ⟨⟩, _,
      ⟨positive, rfl⟩, _, _, ⟨rfl, rfl⟩, ?_⟩
    split
    · next conflict =>
        rw [if_pos conflict] at ended
        simpa using ended
    · next apart =>
        rw [if_neg apart] at ended
        simpa [List.contains_iff_mem, and_assoc] using ended

/-! ## Answers -/

theorem answerRow_eq_ok {id : String} {save : AnswerSave}
    {row : SavedAnswer (Stored Answer)} :
    answerRow id save = .ok row ↔ ∃ attemptId questionId value maxPoints,
      Column.id save.attemptId = .ok attemptId ∧
      Column.id save.questionId = .ok questionId ∧
      valueColumn save.value = .ok value ∧
      Column.points save.maxPoints = .ok maxPoints ∧
        row = { unscored id attemptId questionId maxPoints save.savedAt with
          value, timeSpentSeconds := save.timeSpentSeconds, bookmarked :=
            save.bookmarked } := by
  simp [answerRow, eq_comm (b := row)]

theorem readSaved_eq_ok {saved : SavedAnswer (Stored Answer)}
    {found : SavedAnswer Answer} : (match saved.read? with
      | some answer => (pure answer : Statement (SavedAnswer Answer))
      | none => Statement.fail .unreadableDocument) before =
        .ok (found, after) ↔
      after = before ∧ saved.read? = some found := by
  cases saved.read? with
  | none => simp
  | some answer => simp [and_comm, eq_comm (a := found)]

theorem saveAnswer_eq_ok {save : AnswerSave} {found : SavedAnswer Answer} :
    saveAnswer save before = .ok (found, after) ↔
      (∀ text ∈ [save.attemptId, save.questionId], Column.hasNul text = false) ∧
    before.CanReach [.answers] ∧ ∃ row,
      answerRow (idOf "answer" (nextAnswerNumber before)) save = .ok row ∧
      match before.answers.find? (isAnswerTo row.attemptId row.questionId) with
        | some answer =>
          after = { before with
            answers := updateWhere (isAnswerTo row.attemptId row.questionId)
              (resaved row) before.answers } ∧
          (resaved row answer).read? = some found
        | none =>
          row.attemptId ∈ before.attempts.map (·.id) ∧
          after = withAnswer before (nextAnswerNumber before) row ∧
            row.read? = some found := by
  simp only [saveAnswer, bind_eq_ok, Statement.plain_eq_ok,
    Statement.reach_eq_ok, get_eq_ok, Statement.ofExcept_eq_ok]
  constructor
  · rintro ⟨_, _, ⟨plain, rfl⟩, _, _, ⟨reached, rfl⟩, _, _, ⟨rfl, rfl⟩, row,
      store, ⟨made, rfl⟩, ended⟩
    refine ⟨plain, reached, row, made, ?_⟩
    cases present :
        store.answers.find? (isAnswerTo row.attemptId row.questionId) with
    | none =>
        simp only [present, bind_eq_ok, Statement.ensure_eq_ok, set_eq_ok,
          pure_eq_ok] at ended
        obtain ⟨_, _, ⟨listed, rfl⟩, _, _, rfl, _, _, ⟨rfl, rfl⟩, ended⟩ :=
          ended
        obtain ⟨rfl, read⟩ := readSaved_eq_ok.mp ended
        exact ⟨List.contains_iff_mem.mp listed, rfl, read⟩
    | some answer =>
        simp only [present, bind_eq_ok, set_eq_ok, pure_eq_ok] at ended
        obtain ⟨_, _, rfl, _, _, ⟨rfl, rfl⟩, ended⟩ := ended
        exact readSaved_eq_ok.mp ended
  · rintro ⟨plain, reached, row, made, ended⟩
    refine ⟨⟨⟩, before, ⟨plain, rfl⟩, ⟨⟩, before, ⟨reached, rfl⟩, before,
      before, ⟨rfl, rfl⟩, row, before, ⟨made, rfl⟩, ?_⟩
    cases present :
        before.answers.find? (isAnswerTo row.attemptId row.questionId) with
    | none =>
        rw [present] at ended
        obtain ⟨listed, rfl, read⟩ := ended
        simp only [bind_eq_ok, Statement.ensure_eq_ok, set_eq_ok, pure_eq_ok]
        exact ⟨⟨⟩, before, ⟨List.contains_iff_mem.mpr listed, rfl⟩, ⟨⟩, _, rfl,
          row, _, ⟨rfl, rfl⟩, readSaved_eq_ok.mpr ⟨rfl, read⟩⟩
    | some answer =>
        rw [present] at ended
        simp only [bind_eq_ok, set_eq_ok, pure_eq_ok]
        exact ⟨⟨⟩, _, rfl, resaved row answer, _, ⟨rfl, rfl⟩,
          readSaved_eq_ok.mpr ended⟩

theorem unansweredRow_eq_ok {question row : String × Decimal} :
    unansweredRow question = .ok row ↔ Column.id question.1 = .ok row.1 ∧
    Column.points question.2 = .ok row.2 := by
  simp [unansweredRow, Prod.ext_iff]

theorem insertUnanswered_eq_ok {attemptId : String}
    {questions : List (String × Decimal)} {savedAt : Instant} {found : Unit} :
    insertUnanswered attemptId questions savedAt before = .ok (found, after) ↔
      (∀ text ∈ attemptId :: questions.map (·.1), Column.hasNul text = false) ∧
    before.CanReach [.answers] ∧ ∃ rows,
      questions.mapM unansweredRow = .ok rows ∧
      (rows = [] ∨ attemptId ∈ before.attempts.map (·.id)) ∧
      after = rows.foldl (withUnanswered attemptId savedAt) before := by
  simp [insertUnanswered]

theorem recordScore_eq_ok {id : String} {score : AnswerScore} {found : Unit} :
    recordScore id score before = .ok (found, after) ↔
      Column.hasNul id = false ∧ before.CanReach [.answers] ∧
      ∃ earned most, Column.points score.outcome.earned = .ok earned ∧
        Column.points score.maxPoints = .ok most ∧
        after = { before with
          answers := updateWhere (fun answer => answer.id == id)
            (gradedAnswer earned most score) before.answers } := by
  simp [recordScore, updateAnswer]

theorem recordManualScore_eq_ok {id : String} {score : ManualScore}
    {found : SavedAnswer Answer} :
    recordManualScore id score before = .ok (found, after) ↔
      (∀ text ∈ [id, score.gradedBy] ++ score.feedback.toList,
        Column.hasNul text = false) ∧ before.CanReach [.answers] ∧
    ∃ earned gradedBy, Column.points score.outcome.earned = .ok earned ∧
      Column.id score.gradedBy = .ok gradedBy ∧
        after = { before with
          answers := updateWhere (fun answer => answer.id == id)
            (reviewedAnswer earned gradedBy score) before.answers } ∧
        ∃ row, after.answers.find? (·.id == id) = some row ∧
          row.read? = some found := by
  simp only [recordManualScore, updateAnswer, bind_eq_ok, Statement.plain_eq_ok,
    Statement.reach_eq_ok, Statement.ofExcept_eq_ok, modify_eq_ok,
    answer?_eq_ok]
  constructor
  · rintro ⟨_, _, ⟨plain, rfl⟩, _, _, ⟨reached, rfl⟩, earned, _, ⟨kept, rfl⟩,
      gradedBy, store, ⟨named, rfl⟩, _, _, rfl, found?, middle,
      ⟨-, -, rfl, read⟩, ended⟩
    refine ⟨plain, reached, earned, gradedBy, kept, named, ?_⟩
    rcases read with ⟨rfl, -⟩ | ⟨row, answer, rfl, read, present⟩
    · exact (Statement.fail_ne_ok ended).elim
    · obtain ⟨rfl, rfl⟩ := pure_eq_ok.mp ended
      exact ⟨rfl, row, present, read⟩
  · rintro ⟨plain, reached, earned, gradedBy, kept, named, rfl, row,
      present, read⟩
    refine ⟨⟨⟩, before, ⟨plain, rfl⟩, ⟨⟩, before, ⟨reached, rfl⟩, earned,
      before, ⟨kept, rfl⟩, gradedBy, before, ⟨named, rfl⟩, ⟨⟩, _, rfl,
      some found, _, ⟨?_, reached, rfl, ?_⟩, rfl⟩
    · exact plain id (List.mem_append_left _ List.mem_cons_self)
    · exact .inr ⟨row, found, rfl, read, present⟩

end ExamHall.Store
