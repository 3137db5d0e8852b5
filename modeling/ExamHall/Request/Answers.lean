import ExamHall.Json.Shape
import ExamHall.Request.Assignment

/-!
# Requests about answers

A single save, a batch of saves, and a reviewer's score.
-/

namespace ExamHall

open Json

/-- What a student sends for one question. -/
structure AnswerInput where
  questionId : String
  value : Json
  timeSpentSeconds : Option Int
  bookmarked : Bool

namespace AnswerInput

/-- Reads the fields that single saves and entries of a batch share. -/
def ofFields (questionId : String) (fields : Fields) :
    Except DecodeFault AnswerInput := do
  let value ← fields.withDefault "value" .null asAnything
  let timeSpentSeconds ← fields.optional "time_spent_seconds" (asSigned 32)
  let bookmarked ← fields.withDefault "bookmarked" false asBool
  pure { questionId, value, timeSpentSeconds, bookmarked }

/-- Reads a single save for a question. -/
def ofJson (questionId : String) : Decoder AnswerInput := fun json => do
  let fields ← asRecord ["value", "time_spent_seconds", "bookmarked"] json
  ofFields questionId fields

/-- Reads an entry of a batch, which names its question. -/
def entryOfJson : Decoder AnswerInput := fun json => do
  let fields ←
    asRecord ["question_id", "value", "time_spent_seconds", "bookmarked"] json
  let questionId ← fields.required "question_id" asText
  ofFields questionId fields

/-- The fields that single saves and entries of a batch share, as they look in a
document. -/
def sharedFields : List (String × Presence × Shape) :=
  [("value", .never, .any fun _ => true),
    ("time_spent_seconds", .never, .option (.signed 32)),
    ("bookmarked", .never, .truth)]

/-- A single save in the body of a request. -/
def form (questionId : String) : Form AnswerInput where
  shape := .record sharedFields
  decode := ofJson questionId

/-- The broken bounds of a single save. -/
def faults (input : AnswerInput) : List RangeFault :=
  RangeFault.require (input.timeSpentSeconds.all fun seconds =>
      decide (0 ≤ seconds)) "time_spent_seconds"
    "time_spent_seconds must be non-negative"

/-- Reads a batch. -/
def batchOfJson : Decoder (List AnswerInput) := fun json => do
  let fields ← asRecord ["answers"] json
  fields.required "answers" (asList entryOfJson)

/-- A batch in the body of a request. -/
def batchForm : Form (List AnswerInput) where
  shape := .record [("answers", .always,
    .list (.record (("question_id", .always, .anyText) :: sharedFields)))]
  decode := batchOfJson

/-- The broken bounds of a batch; its entries are judged one by one when they
are saved. -/
def batchFaults (inputs : List AnswerInput) : List RangeFault :=
  RangeFault.require (isCountWithin 1 200 inputs.length)
    "answers" "answers must hold 1..=200 entries"

end AnswerInput

/-- What a reviewer gives for an answer. -/
structure Review where
  score : Decimal
  feedback : Option String
deriving DecidableEq

namespace Review

/-- Reads a review. -/
def ofJson : Decoder Review := fun json => do
  let fields ← asRecord ["score", "feedback"] json
  let score ← fields.required "score" asDecimal
  let feedback ← fields.optional "feedback" asText
  pure { score, feedback }

/-- A review in the body of a request. -/
def form : Form Review where
  shape := .record [
    ("score", .always, .single fun written => (asDecimal written).isOk),
    ("feedback", .never, .option .anyText)]
  decode := ofJson

/-- The broken bounds of a review. -/
def faults (review : Review) : List RangeFault :=
  RangeFault.require (review.feedback.all fun feedback =>
      decide (feedback.length ≤ 5000)) "feedback"
    "feedback must be at most 5000 characters"

end Review

end ExamHall
