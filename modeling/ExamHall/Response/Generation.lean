import ExamHall.Response.Attempt

/-!
# Responses about generated tests

The author's view of a generated test shows every variant with its key. A
preview has no id and no time of creation, and neither have its variants ids.
-/

namespace ExamHall

/-- A variant of a test that may not have been stored. -/
structure TestVariant where
  id : Option String
  label : String
  questions : List VariantQuestion
deriving DecidableEq

/-- A generated test with its variants, stored or not. -/
structure TestSheet where
  id : Option String
  title : String
  mode : GenerationMode
  requestedCount : Nat
  percentages : PerDifficulty Nat
  counts : PerDifficulty Nat
  seed : Nat
  shuffleQuestions : Bool
  shuffleOptions : Bool
  createdAt : Option Instant
  variants : List TestVariant
deriving DecidableEq

/-- One number for each difficulty. -/
def splitJson (split : PerDifficulty Nat) : Json :=
  .record [("easy", .ofNat split.easy), ("medium", .ofNat split.medium),
    ("hard", .ofNat split.hard)]

namespace VariantQuestion

/-- The author's view of a question. -/
def authorView (question : VariantQuestion) : Json :=
  .record ([("question_id", .text question.questionId),
    ("version", .ofInt question.version), ("prompt", .text question.prompt),
    ("question_type", .text question.payload.type.word),
    ("difficulty", .text question.difficulty.word),
    ("points", pointsJson question.points),
    ("payload", question.payload.toJson)] ++
      Json.optionalMember "option_order" .ofTexts question.optionOrder ++
        [("answer_key", .text question.answerKey)])

end VariantQuestion

/-- The author's view of a variant. -/
def TestVariant.view (variant : TestVariant) : Json :=
  .record [("id", .ofOption .text variant.id), ("label", .text variant.label),
    ("answer_key", .ofTexts (variant.questions.map (·.answerKey))),
    ("questions", .list (variant.questions.map VariantQuestion.authorView))]

/-- The author's view of a generated test. -/
def TestSheet.view (sheet : TestSheet) : Json :=
  .record [("id", .ofOption .text sheet.id), ("title", .text sheet.title),
    ("mode", .text sheet.mode.word), ("preview", .bool sheet.id.isNone),
    ("requested_count", .ofNat sheet.requestedCount),
    ("distribution", splitJson sheet.percentages),
    ("counts", splitJson sheet.counts), ("seed", .ofNat sheet.seed),
    ("shuffle_questions", .bool sheet.shuffleQuestions),
    ("shuffle_options", .bool sheet.shuffleOptions),
    ("created_at", .ofOption instantJson sheet.createdAt),
    ("variants", .list (sheet.variants.map TestVariant.view))]

end ExamHall
