import ExamHall.Store.Basic

/-!
# Statements on the question bank

Authors find their own questions and public ones.
-/

namespace ExamHall.Store

/-- Whether an author may use a question. -/
def isVisibleTo {π : Type} (authorId : String) (question : Question π) : Bool :=
  question.ownerId == authorId || question.isPublic

/-- Whether a filter admits a value; no filter admits all. -/
def admitsValue (filter value : Option String) : Bool :=
  match filter with
  | none => true
  | some wanted => value == some wanted

/-- Whether a question is in the scope of a request. -/
def isCandidate {π : Type} (authorId : String)
    (subjectId topicId : Option String) (question : Question π) : Bool :=
  isVisibleTo authorId question && question.type.isClosed &&
    admitsValue subjectId question.subjectId &&
      admitsValue topicId question.topicId

/-- The questions of the closed types in the scope of a request, by id. -/
def candidates (authorId : String) (subjectId topicId : Option String) :
    Statement (List (Question Payload)) := do
  Statement.plain (authorId :: subjectId.toList ++ topicId.toList)
  Statement.reach [.questions]
  Statement.readAll Question.read? fun store =>
    store.collation.sortBy Question.id
      (store.questions.filter (isCandidate authorId subjectId topicId))

/-- The questions with the given ids. -/
def questionsWithIds (ids : List String) :
    Statement (List (Question Payload)) := do
  Statement.plain ids
  Statement.reach [.questions]
  Statement.readAll Question.read? fun store =>
    store.questions.filter fun question => ids.contains question.id

/-- The row of a question as it is stored. -/
def questionRow (question : Question (Stored Payload)) :
    Except StorageFault (Question (Stored Payload)) := do
  let id ← Column.id question.id
  let ownerId ← Column.id question.ownerId
  let subjectId ← Column.id? question.subjectId
  let topicId ← Column.id? question.topicId
  let points ← Column.points question.points
  if Column.documentHasNul (question.payload.toJson Payload.toJson)
    then .error .nulInDocument
  .ok
    { question with
      id, ownerId, subjectId, topicId, points
      createdAt := Column.time question.createdAt
      updatedAt := Column.time question.updatedAt }

/-- Adds a question to the bank. -/
def insertQuestion (question : Question (Stored Payload)) : Statement Unit := do
  Statement.plain ([question.id, question.ownerId,
    question.prompt] ++ question.subjectId.toList ++ question.topicId.toList)
  Statement.reach [.questions]
  let row ← Statement.ofExcept (questionRow question)
  Statement.ensure (decide (Decimal.zero ≤ row.points)) .brokenCheck
  let store ← get
  Statement.ensure (!(store.questions.map (·.id)).contains row.id) .duplicateKey
  set { store with questions := store.questions ++ [row] }

end ExamHall.Store
