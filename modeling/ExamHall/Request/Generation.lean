import ExamHall.Generation.Arrangement
import ExamHall.Json.Shape
import ExamHall.Request.Fault

/-!
# Requests for a generated test

The author either lists the questions or describes them by a number, a split
into difficulties and filters; the two ways cannot be mixed.
-/

namespace ExamHall

open Json

/-- Where the questions of a test come from. -/
inductive QuestionSource where
  | scope (subjectId topicId : Option String)
      (count : Nat) (percentages : PerDifficulty Nat)
  | manual (ids : List String)
deriving DecidableEq

/-- What an author asks for. -/
structure GenerationRequest where
  title : Option String
  source : QuestionSource
  layout : Layout
  seed : Option Nat
  preview : Bool
deriving DecidableEq

/-- The fields of a request as they are sent. -/
structure GenerationForm where
  title : Option String
  subjectId : Option String
  topicId : Option String
  count : Option Nat
  percentages : Option (PerDifficulty Nat)
  questionIds : Option (List String)
  layout : Layout
  seed : Option Nat
  preview : Bool
deriving DecidableEq

/-- Why a form does not say where the questions come from. -/
inductive SourceFault where
  | mixed
  | noCount
  | noSplit
deriving DecidableEq, Repr

/-- What a source fault tells the author. -/
def SourceFault.message : SourceFault → String
  | .mixed => "question_ids cannot be combined with count or distribution"
  | .noCount => "count is required without question_ids"
  | .noSplit => "distribution is required without question_ids"

/-- Reads one number for each difficulty. -/
def splitOfJson : Decoder (PerDifficulty Nat) := fun json => do
  let fields ← asRecord ["easy", "medium", "hard"] json
  let easy ← fields.required "easy" (asNat (twoTo 32))
  let medium ← fields.required "medium" (asNat (twoTo 32))
  let hard ← fields.required "hard" (asNat (twoTo 32))
  pure { easy, medium, hard }

/-- What one number for each difficulty looks like. -/
def splitShape : Shape :=
  .record [("easy", .always, .unsigned 32), ("medium", .always, .unsigned 32),
    ("hard", .always, .unsigned 32)]

namespace GenerationForm

/-- Reads a form. -/
def ofJson : Decoder GenerationForm := fun json => do
  let fields ← asRecord ["title", "subject_id", "topic_id", "count",
    "distribution", "question_ids", "shuffle_questions", "shuffle_options",
    "variant_count", "seed", "preview"] json
  let title ← fields.optional "title" asText
  let subjectId ← fields.optional "subject_id" asText
  let topicId ← fields.optional "topic_id" asText
  let count ← fields.optional "count" (asNat (twoTo 32))
  let percentages ← fields.optional "distribution" splitOfJson
  let questionIds ← fields.optional "question_ids" (asList asText)
  let shuffleQuestions ← fields.withDefault "shuffle_questions" true asBool
  let shuffleOptions ← fields.withDefault "shuffle_options" true asBool
  let variantCount ← fields.withDefault "variant_count" 1 (asNat (twoTo 32))
  let seed ← fields.optional "seed" (asNat (twoTo 64))
  let preview ← fields.withDefault "preview" false asBool
  pure
    { title, subjectId, topicId, count, percentages, questionIds
      layout := { variantCount, shuffleQuestions, shuffleOptions }
      seed, preview }

/-- A form in the body of a request. -/
def form : Form GenerationForm where
  shape := .record [
    ("title", .never, .option .anyText),
    ("subject_id", .never, .option .anyText),
    ("topic_id", .never, .option .anyText),
    ("count", .never, .option (.unsigned 32)),
    ("distribution", .never, .option splitShape),
    ("question_ids", .never, .option (.list .anyText)),
    ("shuffle_questions", .never, .truth),
    ("shuffle_options", .never, .truth),
    ("variant_count", .never, .unsigned 32),
    ("seed", .never, .option (.unsigned 64)),
    ("preview", .never, .truth)]
  decode := ofJson

/-- The broken bounds of a form. -/
def faults (form : GenerationForm) : List RangeFault :=
  RangeFault.require (form.title.all fun title => decide (title.length ≤ 255))
    "title" "title must be at most 255 characters" ++
  RangeFault.require (decide (1 ≤ form.layout.variantCount) &&
      decide (form.layout.variantCount ≤ 10)) "variant_count"
    "variant_count must be between 1 and 10"

/-- Where the questions come from. -/
def source (form : GenerationForm) : Except SourceFault QuestionSource :=
  match form.questionIds, form.count, form.percentages with
  | some ids, none, none => .ok (.manual ids)
  | some _, _, _ => .error .mixed
  | none, none, _ => .error .noCount
  | none, some _, none => .error .noSplit
  | none, some count, some percentages =>
    .ok (.scope form.subjectId form.topicId count percentages)

/-- The request that a form makes. -/
def request (form : GenerationForm) : Except SourceFault GenerationRequest :=
  form.source.map fun source =>
    { title := form.title, source, layout := form.layout, seed := form.seed,
      preview := form.preview }

end GenerationForm

end ExamHall
