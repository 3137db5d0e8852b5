import ExamHall.Store.Basic

/-!
# Statements on generated tests

A test and its variants are written once and then only read. The percentages of
a test sum to one hundred; its variants differ in their labels and positions.
-/

namespace ExamHall

/-- What a new test is made of; its id and the rounding of its time are up to
the store. -/
structure NewTest where
  ownerId : String
  title : String
  mode : GenerationMode
  subjectId : Option String
  topicId : Option String
  requestedCount : Int
  percentages : PerDifficulty Int
  counts : PerDifficulty Int
  shuffleQuestions : Bool
  shuffleOptions : Bool
  variantCount : Int
  seed : Int
  createdAt : Instant

namespace Store

/-- The row of a test as it is stored. -/
def testRow (id : String) (test : NewTest) :
    Except StorageFault GeneratedTest := do
  let ownerId ← Column.id test.ownerId
  let title ← Column.bounded Column.titleWidth test.title
  let subjectId ← Column.id? test.subjectId
  let topicId ← Column.id? test.topicId
  .ok
    { id, ownerId, title, mode := test.mode, subjectId, topicId
      requestedCount := test.requestedCount
      percentages := test.percentages
      counts := test.counts
      shuffleQuestions := test.shuffleQuestions
      shuffleOptions := test.shuffleOptions
      variantCount := test.variantCount
      seed := test.seed
      createdAt := Column.time test.createdAt }

/-- The checks on the row of a test. -/
def isSoundTest (test : GeneratedTest) : Bool :=
  decide (1 ≤ test.variantCount) && decide (test.variantCount ≤ 10) &&
    decide (test.percentages.easy + test.percentages.medium +
      test.percentages.hard = 100)

/-- Issues the id of a new test. -/
def issueTestId : Statement String := fun store =>
  let number := freshNumber "test" (store.tests.map (·.id)) store.issued.tests
  .ok (idOf "test" number,
      { store with issued := { store.issued with tests := number } })

/-- Stores a new test. -/
def createTest (test : NewTest) : Statement GeneratedTest := do
  Statement.plain ([test.ownerId, test.title] ++ test.subjectId.toList ++
      test.topicId.toList)
  Statement.reach [.tests]
  let id ← issueTestId
  let row ← Statement.ofExcept (testRow id test)
  Statement.ensure (isSoundTest row) .brokenCheck
  modify fun store => { store with tests := store.tests ++ [row] }
  pure row

/-- Issues the id of a new variant. -/
def issueVariantId : Statement String := fun store =>
  let number :=
    freshNumber "variant" (store.variants.map (·.id)) store.issued.variants
  .ok (idOf "variant" number,
      { store with issued := { store.issued with variants := number } })

/-- Whether two variants of a test could be taken for each other. -/
def clashes {π ρ : Type} (left : Variant π) (right : Variant ρ) : Bool :=
  left.testId == right.testId &&
    (left.label == right.label || left.position == right.position)

/-- Stores a new variant of a test. -/
def createVariant (testId label : String) (position : Int)
    (questions : List VariantQuestion) (now : Instant) :
    Statement (Variant (List VariantQuestion)) := do
  Statement.plain [testId, label]
  Statement.reach [.variants]
  let id ← issueVariantId
  let label ← Statement.ofExcept (Column.bounded 1 label)
  let document ← Statement.ofExcept (Column.document
      (fun questions => .list (questions.map VariantQuestion.toJson)) questions)
  let row : Variant (Stored (List VariantQuestion)) :=
    { id, testId, label, position, questions := document,
      createdAt := Column.time now }
  let store ← get
  Statement.ensure (!store.variants.any (clashes row)) .duplicateKey
  Statement.ensure ((store.tests.map (·.id)).contains testId) .missingReference
  set { store with variants := store.variants ++ [row] }
  pure { row with questions }

/-- The test with an id. -/
def test? (id : String) : Statement (Option GeneratedTest) := do
  Statement.plain [id]
  Statement.reach [.tests]
  let store ← get
  pure (store.tests.find? fun test => test.id == id)

/-- The variants of a test by position. -/
def variantsOf (testId : String) :
    Statement (List (Variant (List VariantQuestion))) := do
  Statement.plain [testId]
  Statement.reach [.variants]
  Statement.readAll Variant.read? fun store =>
    (store.variants.filter fun variant => variant.testId == testId).mergeSort
      fun left right => decide (left.position ≤ right.position)

/-- The number of variants of a test. -/
def countVariants (testId : String) : Statement Nat := do
  Statement.plain [testId]
  Statement.reach [.variants]
  let store ← get
  pure (store.variants.countP fun variant => variant.testId == testId)

/-- The variant of a test at a position. -/
def variantAt? (testId : String) (position : Int) :
    Statement (Option (Variant (List VariantQuestion))) := do
  Statement.plain [testId]
  Statement.reach [.variants]
  let found ← Statement.readAll Variant.read? fun store =>
    (store.variants.find? fun variant =>
      variant.testId == testId && variant.position == position).toList
  pure found.head?

/-- The variant with an id, which has to be there. -/
def variant (id : String) : Statement (Variant (List VariantQuestion)) := do
  Statement.plain [id]
  Statement.reach [.variants]
  let found ← Statement.readAll Variant.read? fun store =>
    (store.variants.find? fun variant => variant.id == id).toList
  match found with
  | variant :: _ => pure variant
  | [] => Statement.fail .rowNotFound

end Store

end ExamHall
