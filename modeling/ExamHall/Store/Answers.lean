import ExamHall.Store.Basic

/-!
# Statements on answers

An attempt has at most one answer for each question. Saving an answer again
replaces its value and keeps its id; a time spent is kept when the new save
brings none.
-/

namespace ExamHall

/-- What a save writes. -/
structure AnswerSave where
  attemptId : String
  questionId : String
  value : Option Answer
  maxPoints : Decimal
  timeSpentSeconds : Option Int
  bookmarked : Bool
  savedAt : Instant

/-- What grading writes into an answer. -/
structure AnswerScore where
  outcome : GradeOutcome
  maxPoints : Decimal
  gradedAt : Instant

/-- What a reviewer writes into an answer. -/
structure ManualScore where
  outcome : GradeOutcome
  feedback : Option String
  gradedBy : String
  gradedAt : Instant

namespace Store

/-- The stored form of an answer's value. -/
def valueColumn : Option Answer → Except StorageFault (Option (Stored Answer))
  | none => .ok none
  | some answer => some <$> Column.document Answer.toJson answer

/-- A new answer row without a score. -/
def unscored (id attemptId questionId : String) (maxPoints : Decimal)
    (savedAt : Instant) : SavedAnswer (Stored Answer) :=
  { id, attemptId, questionId
    value := none
    isCorrect := false
    isPartial := false
    needsManual := false
    earnedPoints := .zero
    maxPoints
    timeSpentSeconds := none
    bookmarked := false
    feedback := none
    gradedBy := none
    savedAt := Column.time savedAt
    gradedAt := none }

/-- The row of a save as it is stored. -/
def answerRow (id : String) (save : AnswerSave) :
    Except StorageFault (SavedAnswer (Stored Answer)) := do
  let attemptId ← Column.id save.attemptId
  let questionId ← Column.id save.questionId
  let value ← valueColumn save.value
  let maxPoints ← Column.points save.maxPoints
  .ok
    { unscored id attemptId questionId maxPoints save.savedAt with
      value, timeSpentSeconds := save.timeSpentSeconds, bookmarked :=
        save.bookmarked }

/-- Whether an answer is the one of an attempt to a question. -/
def isAnswerTo {π : Type} (attemptId questionId : String)
    (answer : SavedAnswer π) : Bool :=
  answer.attemptId == attemptId && answer.questionId == questionId

/-- An answer after another save of it. -/
def resaved (row answer : SavedAnswer (Stored Answer)) :
    SavedAnswer (Stored Answer) :=
  { answer with
    value := row.value
    timeSpentSeconds := row.timeSpentSeconds.or answer.timeSpentSeconds
    bookmarked := row.bookmarked
    savedAt := row.savedAt }

/-- The next number for an id of an answer. -/
def nextAnswerNumber (store : Store) : Nat :=
  freshNumber "answer" (store.answers.map (·.id)) store.issued.answers

/-- The store with one more answer, whose id has the given number. -/
def withAnswer (store : Store) (number : Nat)
    (row : SavedAnswer (Stored Answer)) : Store :=
  { store with
    answers := store.answers ++ [row]
    issued := { store.issued with answers := number } }

/-- Saves an answer, and gives it back as it is since then. -/
def saveAnswer (save : AnswerSave) : Statement (SavedAnswer Answer) := do
  Statement.plain [save.attemptId, save.questionId]
  Statement.reach [.answers]
  let store ← get
  let number := nextAnswerNumber store
  let row ← Statement.ofExcept (answerRow (idOf "answer" number) save)
  let isThis := fun (answer : SavedAnswer (Stored Answer)) =>
    isAnswerTo row.attemptId row.questionId answer
  let saved ← match store.answers.find? isThis with
    | some answer => do
      set { store with
          answers := updateWhere isThis (resaved row) store.answers }
      pure (resaved row answer)
    | none => do
      Statement.ensure ((store.attempts.map (·.id)).contains row.attemptId)
        .missingReference
      set (withAnswer store number row)
      pure row
  match saved.read? with
  | some answer => pure answer
  | none => Statement.fail .unreadableDocument

/-- The answers of an attempt, by question. -/
def answersOf (attemptId : String) : Statement (List (SavedAnswer Answer)) := do
  Statement.plain [attemptId]
  Statement.reach [.answers]
  Statement.readAll SavedAnswer.read? fun store =>
    store.collation.sortBy SavedAnswer.questionId
      (store.answers.filter fun answer => answer.attemptId == attemptId)

/-- The number of answers of an attempt that have a value. -/
def countAnswered (attemptId : String) : Statement Nat := do
  Statement.plain [attemptId]
  Statement.reach [.answers]
  let store ← get
  pure (store.answers.countP fun answer =>
      answer.attemptId == attemptId && answer.value.isSome)

/-- The store with an empty answer to a question, unless one is there. -/
def withUnanswered (attemptId : String) (savedAt : Instant) (store : Store)
    (question : String × Decimal) : Store :=
  if store.answers.any (isAnswerTo attemptId question.1) then store
  else
    let number := nextAnswerNumber store
    withAnswer store number
      (unscored (idOf "answer" number) attemptId question.1 question.2 savedAt)

/-- A question id and its points as they are stored. -/
def unansweredRow (question : String × Decimal) :
    Except StorageFault (String × Decimal) := do
  let questionId ← Column.id question.1
  let points ← Column.points question.2
  .ok (questionId, points)

/-- Adds an answer without a value for each of the questions that has none
yet. -/
def insertUnanswered (attemptId : String) (questions : List (String × Decimal))
    (savedAt : Instant) : Statement Unit := do
  Statement.plain (attemptId :: questions.map (·.1))
  Statement.reach [.answers]
  let rows ← Statement.ofExcept (questions.mapM unansweredRow)
  let store ← get
  Statement.ensure (rows.isEmpty ||
      (store.attempts.map (·.id)).contains attemptId) .missingReference
  set (rows.foldl (withUnanswered attemptId savedAt) store)

/-- Changes the answer with an id. -/
def updateAnswer (id : String)
    (change : SavedAnswer (Stored Answer) → SavedAnswer (Stored Answer)) :
    Statement Unit :=
  modify fun store =>
    { store with answers := updateWhere (fun answer => answer.id == id)
                   change store.answers }

/-- An answer with a score from grading. -/
def gradedAnswer (earned most : Decimal) (score : AnswerScore)
    (answer : SavedAnswer (Stored Answer)) : SavedAnswer (Stored Answer) :=
  { answer with
    earnedPoints := earned
    maxPoints := most
    isCorrect := score.outcome.isCorrect
    isPartial := score.outcome.isPartial
    needsManual := score.outcome.needsManual
    gradedAt := some (Column.time score.gradedAt) }

/-- Writes the score of an answer. -/
def recordScore (id : String) (score : AnswerScore) : Statement Unit := do
  Statement.plain [id]
  Statement.reach [.answers]
  let earned ← Statement.ofExcept (Column.points score.outcome.earned)
  let most ← Statement.ofExcept (Column.points score.maxPoints)
  updateAnswer id (gradedAnswer earned most score)

/-- The attempt that an answer belongs to. -/
def attemptOfAnswer? (id : String) : Statement (Option String) := do
  Statement.plain [id]
  Statement.reach [.answers]
  let store ← get
  pure ((store.answers.find? fun answer => answer.id == id).map (·.attemptId))

/-- The answer with an id. -/
def answer? (id : String) : Statement (Option (SavedAnswer Answer)) := do
  Statement.plain [id]
  Statement.reach [.answers]
  let found ← Statement.readAll SavedAnswer.read? fun store =>
    (store.answers.find? fun answer => answer.id == id).toList
  pure found.head?

/-- An answer with a score from a reviewer. -/
def reviewedAnswer (earned : Decimal) (gradedBy : String) (score : ManualScore)
    (answer : SavedAnswer (Stored Answer)) : SavedAnswer (Stored Answer) :=
  { answer with
    earnedPoints := earned
    isCorrect := score.outcome.isCorrect
    isPartial := score.outcome.isPartial
    needsManual := false
    feedback := score.feedback
    gradedBy := some gradedBy
    gradedAt := some (Column.time score.gradedAt) }

/-- Writes a reviewer's score of an answer, and gives the answer back. -/
def recordManualScore (id : String) (score : ManualScore) :
    Statement (SavedAnswer Answer) := do
  Statement.plain ([id, score.gradedBy] ++ score.feedback.toList)
  Statement.reach [.answers]
  let earned ← Statement.ofExcept (Column.points score.outcome.earned)
  let gradedBy ← Statement.ofExcept (Column.id score.gradedBy)
  updateAnswer id (reviewedAnswer earned gradedBy score)
  match ← answer? id with
  | some answer => pure answer
  | none => Statement.fail .rowNotFound

end Store

end ExamHall
