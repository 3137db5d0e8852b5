import ExamHall.Generation.AnswerKey
import ExamHall.Grading.Outcome
import ExamHall.Random.Shuffle
import ExamHall.Records

/-!
# Selecting and arranging questions

Questions are drawn from one pool per difficulty, each sorted by id, so that a
draw depends on the seed and on what is in the pools but not on the order in
which they were filled. The drawn questions are frozen and laid out as lettered
variants: each variant shuffles the questions and the options as asked for, and
its answer keys are computed from the order that results.
-/

namespace ExamHall

open ExamHall.Random

/-- A question frozen for a test: its points are rounded and it has no key
yet. -/
def snapshot (question : Question Payload) : VariantQuestion where
  questionId := question.id
  version := question.version
  prompt := question.prompt
  difficulty := question.difficulty
  points := roundPoints question.points
  payload := question.payload
  optionOrder := none
  answerKey := ""

/-- The questions of each difficulty, in their given order. -/
def pools (questions : List (Question Payload)) :
    PerDifficulty (List (Question Payload)) :=
  PerDifficulty.of fun difficulty =>
    questions.filter fun question => decide (question.difficulty = difficulty)

/-- A pool in the order of the ids. -/
def byId (pool : List (Question Payload)) : List (Question Payload) :=
  pool.mergeSort fun left right => decide (left.id ≤ right.id)

/-- A number of questions drawn from a pool. -/
def drawFrom (pool : List (Question Payload)) (count : Nat)
    (generator : Generator) : List (Question Payload) × Generator :=
  let (settled, generator) := sampleTail (byId pool) count generator
  (takeTail settled count, generator)

/-- Questions drawn from the pools of the listed difficulties, in their
order. -/
def drawEach (questions : PerDifficulty (List (Question Payload)))
    (counts : PerDifficulty Nat) :
    List Difficulty → Generator → List (Question Payload) × Generator
  | [], generator => ([], generator)
  | difficulty :: rest, generator =>
    let (drawn, generator) :=
      drawFrom (questions.get difficulty) (counts.get difficulty) generator
    let (others, generator) := drawEach questions counts rest generator
    (drawn ++ others, generator)

/-- Questions drawn by difficulty, from easy to hard. -/
def select (questions : PerDifficulty (List (Question Payload)))
    (counts : PerDifficulty Nat) (generator : Generator) :
    List (Question Payload) × Generator :=
  drawEach questions counts Difficulty.all generator

/-- Questions drawn by difficulty, if 32 bits hold how many are asked for
together. -/
def select? (questions : PerDifficulty (List (Question Payload)))
    (counts : PerDifficulty Nat) (generator : Generator) :
    Option (List (Question Payload) × Generator) :=
  if counts.sum < twoTo 32 then some (select questions counts generator)
  else none

/-- How variants are laid out. -/
structure Layout where
  variantCount : Nat
  shuffleQuestions : Bool
  shuffleOptions : Bool
deriving DecidableEq

/-- A question with its options shuffled, if it has options. -/
def shuffleOptions (question : VariantQuestion) (generator : Generator) :
    VariantQuestion × Generator :=
  match question.payload.options? with
  | none => (question, generator)
  | some options =>
    let (shuffled, generator) := shuffle options generator
    ({ question with
        payload := question.payload.withOptions shuffled
        optionOrder := some (shuffled.map (·.id)) }, generator)

/-- A question as a variant shows it, with its key. -/
def layOutQuestion (layout : Layout) (question : VariantQuestion)
    (generator : Generator) : VariantQuestion × Generator :=
  let (shown, generator) :=
    if layout.shuffleOptions then shuffleOptions question generator
    else (question, generator)
  ({ shown with answerKey := answerKey shown.payload }, generator)

/-- A list of questions as a variant shows them. -/
def layOutQuestions (layout : Layout) :
    List VariantQuestion → Generator → List VariantQuestion × Generator
  | [], generator => ([], generator)
  | question :: rest, generator =>
    let (shown, generator) := layOutQuestion layout question generator
    let (others, generator) := layOutQuestions layout rest generator
    (shown :: others, generator)

/-- The questions of one variant. -/
def layOut (layout : Layout) (base : List VariantQuestion)
    (generator : Generator) : List VariantQuestion × Generator :=
  let (ordered, generator) :=
    if layout.shuffleQuestions then shuffle base generator
    else (base, generator)
  layOutQuestions layout ordered generator

/-- A lettered list of questions. -/
structure LabelledVariant where
  label : String
  questions : List VariantQuestion
deriving DecidableEq

/-- One variant for each of the labels. -/
def arrangeWith (layout : Layout) (base : List VariantQuestion) :
    List String → Generator → List LabelledVariant × Generator
  | [], generator => ([], generator)
  | label :: rest, generator =>
    let (questions, generator) := layOut layout base generator
    let (others, generator) := arrangeWith layout base rest generator
    (⟨label, questions⟩ :: others, generator)

/-- The variants of a list of questions. -/
def arrange (layout : Layout) (base : List VariantQuestion)
    (generator : Generator) : List LabelledVariant × Generator :=
  arrangeWith layout base (variantLabels.take layout.variantCount) generator

end ExamHall
