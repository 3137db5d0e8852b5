import ExamHall.Maintenance.TableView
import ExamHall.Store.Questions
import ExamHall.Store.Tests

/-!
# The question bank and generated tests by column names
-/

namespace ExamHall.Maintenance

open Store

/-- The columns of a question. -/
def questionColumns (question : Question (Stored Payload)) :
    List (String × Json) :=
  [("id", .text question.id), ("owner_id", .text question.ownerId),
    ("subject_id", textOrNull question.subjectId),
    ("topic_id", textOrNull question.topicId),
    ("prompt", .text question.prompt),
    ("question_type", .text question.type.word),
    ("difficulty", .text question.difficulty.word),
    ("points", amountJson question.points),
    ("payload", question.payload.toJson Payload.toJson),
    ("version", .ofInt question.version),
    ("is_public", .bool question.isPublic),
    ("created_at", instantJson question.createdAt),
    ("updated_at", instantJson question.updatedAt)]

/-- A question from its columns, the others taken from what is there. -/
def questionOf (present : Option (Question (Stored Payload)))
    (fields : Json.Fields) :
    Except StorageFault (Question (Stored Payload)) := do
  let id ← fields.cell "id" (present.map (·.id)) .id
  let ownerId ← fields.cell "owner_id" (present.map (·.ownerId)) .id
  let subjectId ←
    fields.cell "subject_id" (some (present.bind (·.subjectId))) (.optional .id)
  let topicId ←
    fields.cell "topic_id" (some (present.bind (·.topicId))) (.optional .id)
  let prompt ← fields.cell "prompt" (present.map (·.prompt)) .text
  let type ← fields.cell "question_type" (present.map (·.type))
    (.word QuestionType.ofWord?)
  let difficulty ← fields.cell "difficulty" (present.map (·.difficulty))
    (.word Difficulty.ofWord?)
  let points ←
    fields.cell "points" (present.map (·.points)) (.amount Column.points)
  let payload ←
    fields.cell "payload" (present.map (·.payload)) (.document Payload.ofJson)
  let version ← fields.cell "version" (some ((present.map (·.version)).getD 1))
    (.integer 32)
  let isPublic ← fields.cell "is_public" (some (present.any (·.isPublic))) .flag
  let createdAt ← fields.cell "created_at" (present.map (·.createdAt)) .time
  let updatedAt ← fields.cell "updated_at" (present.map (·.updatedAt)) .time
  .ok { id, ownerId, subjectId, topicId, prompt, type, difficulty, points,
        payload, version, isPublic, createdAt, updatedAt }

/-- The question bank. -/
def questionView : TableView (Question (Stored Payload)) where
  rows store := store.questions
  withRows store rows := { store with questions := rows }
  id question := some question.id
  columns := questionColumns
  revise question fields := questionOf (some question) fields
  insert fields := do
    insertQuestion (← Statement.ofExcept (questionOf none fields))

/-- The columns of a generated test. -/
def testColumns (test : GeneratedTest) : List (String × Json) :=
  [("id", .text test.id), ("owner_id", .text test.ownerId),
    ("title", .text test.title),
    ("mode", .text test.mode.word), ("subject_id", textOrNull test.subjectId),
    ("topic_id", textOrNull test.topicId),
    ("requested_count", .ofInt test.requestedCount),
    ("easy_pct", .ofInt test.percentages.easy),
    ("medium_pct", .ofInt test.percentages.medium),
    ("hard_pct", .ofInt test.percentages.hard),
    ("easy_count", .ofInt test.counts.easy),
    ("medium_count", .ofInt test.counts.medium),
    ("hard_count", .ofInt test.counts.hard),
    ("shuffle_questions", .bool test.shuffleQuestions),
    ("shuffle_options", .bool test.shuffleOptions),
    ("variant_count", .ofInt test.variantCount),
    ("seed", .ofInt test.seed), ("created_at", instantJson test.createdAt)]

/-- A number for each difficulty from three columns. -/
def splitOf (easy medium hard : String) (present : Option (PerDifficulty Int))
    (fields : Json.Fields) : Except StorageFault (PerDifficulty Int) := do
  let easy ← fields.cell easy (present.map (·.easy)) (.integer 32)
  let medium ← fields.cell medium (present.map (·.medium)) (.integer 32)
  let hard ← fields.cell hard (present.map (·.hard)) (.integer 32)
  .ok ⟨easy, medium, hard⟩

/-- A generated test from its columns, the others taken from what is there. -/
def testOf (present : Option GeneratedTest) (fields : Json.Fields) :
    Except StorageFault GeneratedTest := do
  let id ← fields.cell "id" (present.map (·.id)) .id
  let ownerId ← fields.cell "owner_id" (present.map (·.ownerId)) .id
  let title ←
    fields.cell "title" (present.map (·.title)) (.bounded Column.titleWidth)
  let mode ←
    fields.cell "mode" (present.map (·.mode)) (.word GenerationMode.ofWord?)
  let subjectId ←
    fields.cell "subject_id" (some (present.bind (·.subjectId))) (.optional .id)
  let topicId ←
    fields.cell "topic_id" (some (present.bind (·.topicId))) (.optional .id)
  let requestedCount ←
    fields.cell "requested_count" (present.map (·.requestedCount)) (.integer 32)
  let percentages ← splitOf "easy_pct" "medium_pct" "hard_pct"
    (present.map (·.percentages)) fields
  let counts ← splitOf "easy_count" "medium_count" "hard_count"
    (present.map (·.counts)) fields
  let shuffleQuestions ←
    fields.cell "shuffle_questions" (present.map (·.shuffleQuestions)) .flag
  let shuffleOptions ←
    fields.cell "shuffle_options" (present.map (·.shuffleOptions)) .flag
  let variantCount ←
    fields.cell "variant_count" (present.map (·.variantCount)) (.integer 32)
  let seed ← fields.cell "seed" (present.map (·.seed)) (.integer 64)
  let createdAt ← fields.cell "created_at" (present.map (·.createdAt)) .time
  .ok { id, ownerId, title, mode, subjectId, topicId, requestedCount,
        percentages, counts, shuffleQuestions, shuffleOptions, variantCount,
        seed, createdAt }

/-- Adds a generated test. -/
def insertTest (fields : Json.Fields) : Statement Unit := do
  Statement.reach [.tests]
  let row ← Statement.ofExcept (testOf none fields)
  Statement.ensure (isSoundTest row) .brokenCheck
  let store ← get
  Statement.ensure (!(store.tests.map (·.id)).contains row.id) .duplicateKey
  set { store with tests := store.tests ++ [row] }

/-- The generated tests. -/
def testView : TableView GeneratedTest where
  rows store := store.tests
  withRows store rows := { store with tests := rows }
  id test := some test.id
  columns := testColumns
  revise test fields := testOf (some test) fields
  insert := insertTest

/-- A variant as it is stored. -/
abbrev StoredVariant := Variant (Stored (List VariantQuestion))

/-- The questions of a variant as JSON. -/
def questionsJson (questions : List VariantQuestion) : Json :=
  .list (questions.map VariantQuestion.toJson)

/-- The columns of a variant. -/
def variantColumns (variant : StoredVariant) : List (String × Json) :=
  [("id", .text variant.id), ("generated_test_id", .text variant.testId),
    ("label", .text variant.label), ("position", .ofInt variant.position),
    ("questions", variant.questions.toJson questionsJson),
    ("created_at", instantJson variant.createdAt)]

/-- A variant from its columns, the others taken from what is there. -/
def variantOf (present : Option StoredVariant) (fields : Json.Fields) :
    Except StorageFault StoredVariant := do
  let id ← fields.cell "id" (present.map (·.id)) .id
  let testId ← fields.cell "generated_test_id" (present.map (·.testId)) .id
  let label ← fields.cell "label" (present.map (·.label)) (.bounded 1)
  let position ← fields.cell "position" (present.map (·.position)) (.integer 32)
  let questions ← fields.cell "questions" (present.map (·.questions))
    (.document (Json.asList VariantQuestion.ofJson))
  let createdAt ← fields.cell "created_at" (present.map (·.createdAt)) .time
  .ok { id, testId, label, position, questions, createdAt }

/-- Adds a variant. -/
def insertVariant (fields : Json.Fields) : Statement Unit := do
  Statement.reach [.variants]
  let row ← Statement.ofExcept (variantOf none fields)
  let store ← get
  Statement.ensure (!store.variants.any fun variant =>
      variant.id == row.id || clashes row variant) .duplicateKey
  Statement.ensure ((store.tests.map (·.id)).contains row.testId)
    .missingReference
  set { store with variants := store.variants ++ [row] }

/-- The variants of generated tests. -/
def variantView : TableView StoredVariant where
  rows store := store.variants
  withRows store rows := { store with variants := rows }
  id variant := some variant.id
  columns := variantColumns
  revise variant fields := variantOf (some variant) fields
  insert := insertVariant

end ExamHall.Maintenance
