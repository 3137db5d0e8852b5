import ExamHall.Caller
import ExamHall.Distinct
import ExamHall.Exam.Action
import ExamHall.Request.Generation
import ExamHall.Response.Generation
import ExamHall.Store.Questions
import ExamHall.Store.Tests

/-!
# Generating tests

A test is generated from a seed, a selection of questions and a layout. One
generator serves the selection and then the layout. A preview is shown and
forgotten; any other test is stored with its variants in one transaction.
-/

namespace ExamHall.Exam

open Store

/-- Default seeds stay below this bound, so that every reader of JSON keeps them
exact. -/
def seedBound : Nat := twoTo 53

/-- The seed of a request, or one from the clock. -/
def seedOf (request : GenerationRequest) (now : Instant) : Nat :=
  request.seed.getD (now.epochWord % seedBound)

/-- The questions for a test, and how they were asked for. -/
structure Selection where
  questions : List (Question Payload)
  requestedCount : Nat
  percentages : PerDifficulty Nat
  counts : PerDifficulty Nat

/-- The sizes of pools. -/
def poolSizes (pools : PerDifficulty (List (Question Payload))) :
    PerDifficulty Nat :=
  pools.map List.length

/-- Questions drawn from the candidates by difficulty, or what is missing. -/
def drawSelection (candidates : List (Question Payload)) (count : Nat)
    (percentages counts : PerDifficulty Nat) (generator : Random.Generator) :
    Except GenerationError (Selection × Random.Generator) :=
  let pools := pools (candidates.filter (·.payload.isUsable))
  match Apportion.shortages (poolSizes pools) counts with
  | [] =>
    let (questions, generator) := select pools counts generator
    .ok ({ questions, requestedCount := count, percentages, counts }, generator)
  | shortages => .error (.tooFew shortages)

/-- Selects questions by difficulty from what the author may use. -/
def selectFromScope (author : Caller) (subjectId topicId : Option String)
    (count : Nat) (percentages : PerDifficulty Nat)
    (generator : Random.Generator) :
    Action GenerationError (Selection × Random.Generator) := do
  let most := (← read).settings.maxQuestions
  Action.require (decide (0 < count) && decide (count ≤ most))
    (.questionCount most)
  match Apportion.splitFault? percentages with
  | some fault => Action.refuse (.split fault)
  | none => do
    let counts ← Action.inRange (Apportion.bucketCounts? count percentages)
    let candidates ← Action.query (candidates author.id subjectId topicId)
    match drawSelection candidates count percentages counts generator with
    | .ok selection => pure selection
    | .error error => Action.refuse error

/-- The ids that an author lists: trimmed, without blank ones, in the order of
first occurrence. -/
def listedIds (ids : List String) : List String :=
  distinct ((ids.map Text.trim).filter fun id => !id.isEmpty)

/-- The number of questions of each difficulty. -/
def countsOf (questions : List (Question Payload)) : PerDifficulty Nat :=
  poolSizes (pools questions)

/-- The listed questions out of those that were found, or why they cannot be
used. -/
def pickListed (author : Caller) (ids : List String)
    (found : List (Question Payload)) :
    Except GenerationError (List (Question Payload)) :=
  let byId := fun id => found.find? fun question => question.id == id
  let unknown := ids.filter fun id => (byId id).isNone
  let foreign := ids.filter fun id =>
    (byId id).any fun question => !isVisibleTo author.id question
  let usable := (ids.filterMap byId).filter (·.payload.isUsable)
  if !unknown.isEmpty then .error (.unknownIds unknown)
  else if !foreign.isEmpty then .error (.foreignIds foreign)
  else if usable.isEmpty then .error .noneUsable
  else .ok usable

/-- Selects the questions that an author lists. -/
def selectListed (author : Caller) (given : List String) :
    Action GenerationError Selection := do
  let ids := listedIds given
  let most := (← read).settings.maxManualIds
  Action.require (!ids.isEmpty) .noIds
  Action.require (decide (ids.length ≤ most)) (.tooManyIds most)
  match pickListed author ids (← Action.query (questionsWithIds ids)) with
  | .error error => Action.refuse error
  | .ok questions => do
    let counts := countsOf questions
    let percentages ← Action.inRange (Apportion.derivePercentages? counts)
    pure { questions, requestedCount := questions.length, percentages, counts }

/-- Selects the questions of a request. -/
def selectFor (author : Caller) (source : QuestionSource)
    (generator : Random.Generator) :
    Action GenerationError (Selection × Random.Generator) := do
  match source with
  | .scope subjectId topicId count percentages =>
    selectFromScope author subjectId topicId count percentages generator
  | .manual ids => pure (← selectListed author ids, generator)

/-- A date and a time of day to the minute. -/
def minuteStamp (now : Instant) : String :=
  let parts := Calendar.civil now
  let sign := if parts.year < 0 then ['-'] else []
  String.ofList (sign ++ Text.paddedNumeral 4 parts.year.natAbs ++
      Calendar.monthDayChars parts ++ ' ' :: Text.paddedNumeral 2 parts.hour ++
        ':' :: Text.paddedNumeral 2 parts.minute)

/-- The title of a test: the given one, or one made from the number of questions
and the time. -/
def titleOf (given : Option String) (questionCount : Nat) (now : Instant) :
    String :=
  match given.filter fun title => !Text.isBlankText title with
  | some title => Text.trim title
  | none =>
    "Generated test (" ++ Text.ofNat questionCount ++ " questions) " ++
      minuteStamp now ++ " UTC"

/-- How questions were chosen. -/
def modeOf : QuestionSource → GenerationMode
  | .scope _ _ _ _ => .auto
  | .manual _ => .manual

/-- The filters of a request. -/
def filtersOf : QuestionSource → Option String × Option String
  | .scope subjectId topicId _ _ => (subjectId, topicId)
  | .manual _ => (none, none)

/-- The test that a selection makes, not stored yet. -/
def previewOf (request : GenerationRequest) (seed : Nat) (selection : Selection)
    (variants : List LabelledVariant) (now : Instant) : TestSheet :=
  { id := none
    title := titleOf request.title selection.questions.length now
    mode := modeOf request.source
    requestedCount := selection.requestedCount
    percentages := selection.percentages
    counts := selection.counts
    seed
    shuffleQuestions := request.layout.shuffleQuestions
    shuffleOptions := request.layout.shuffleOptions
    createdAt := none
    variants := variants.map fun variant =>
      ⟨none, variant.label, variant.questions⟩ }

/-- A number kept in a signed column of a number of bits. -/
def signedWord (bits value : Nat) : Int :=
  (value : Int).bmod (twoTo bits)

/-- The row of a test that is to be stored. -/
def newTest (author : Caller) (request : GenerationRequest) (sheet : TestSheet)
    (now : Instant) :
    NewTest :=
  { ownerId := author.id
    title := sheet.title
    mode := sheet.mode
    subjectId := (filtersOf request.source).1
    topicId := (filtersOf request.source).2
    requestedCount := signedWord 32 sheet.requestedCount
    percentages := sheet.percentages.map (signedWord 32)
    counts := sheet.counts.map (signedWord 32)
    shuffleQuestions := sheet.shuffleQuestions
    shuffleOptions := sheet.shuffleOptions
    variantCount := sheet.variants.length
    seed := signedWord 64 sheet.seed
    createdAt := now }

/-- Stores variants at positions counted from `position`, and gives them back
with their ids. -/
def storeVariants (testId : String) (now : Instant) :
    Nat → List TestVariant → Statement (List TestVariant)
  | _, [] => pure []
  | position, variant :: rest => do
    let created ←
      createVariant testId variant.label position variant.questions now
    let others ← storeVariants testId now (position + 1) rest
    pure ({ variant with id := some created.id } :: others)

/-- Stores a test with its variants. -/
def storeTest (test : NewTest) (sheet : TestSheet) (now : Instant) :
    Statement TestSheet := do
  let created ← createTest test
  let variants ← storeVariants created.id now 0 sheet.variants
  pure { sheet with
      id := some created.id, createdAt := some created.createdAt, variants }

/-- Generates a test. -/
def generate (author : Caller) (request : GenerationRequest) :
    Action GenerationError TestSheet := do
  Action.require (decide (0 < request.layout.variantCount) &&
    decide (request.layout.variantCount ≤ maxVariants)) .variantCount
  let now := (← read).now
  let seed := seedOf request now
  let (selection, generator) ←
    selectFor author request.source (.ofSeed (UInt64.ofNat seed))
  let (variants, _) :=
    arrange request.layout (selection.questions.map snapshot) generator
  let sheet := previewOf request seed selection variants now
  if request.preview then pure sheet
  else Action.query (storeTest (newTest author request sheet now) sheet now)

/-- The sheet of a stored test. -/
def storedSheet (test : GeneratedTest)
    (variants : List (Variant (List VariantQuestion))) :
    TestSheet :=
  { id := some test.id
    title := test.title
    mode := test.mode
    requestedCount := test.requestedCount.toNat
    percentages := test.percentages.map Int.toNat
    counts := test.counts.map Int.toNat
    seed := (test.seed % (twoTo 64 : Nat)).toNat
    shuffleQuestions := test.shuffleQuestions
    shuffleOptions := test.shuffleOptions
    createdAt := some test.createdAt
    variants := variants.map fun variant => ⟨some variant.id, variant.label,
      variant.questions⟩ }

/-- A stored test for who manages it. -/
def showTest (caller : Caller) (testId : String) :
    Action GenerationError TestSheet := do
  let test ← Action.demand (← Action.query (test? testId)) .unknownTest
  Action.require (caller.mayManage test.ownerId) .foreignTest
  pure (storedSheet test (← Action.query (variantsOf test.id)))

end ExamHall.Exam
