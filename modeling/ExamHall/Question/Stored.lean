import ExamHall.Question.Answer

/-!
# The stored form of payloads and answers

Payloads, answers and the questions of a variant are stored as JSON. A payload
is an object with a `kind` beside its own members; an answer has its `kind` and
its `value`. Reading fills in what may be left out and passes over members it
does not know.
-/

namespace ExamHall

open Json

namespace Payload

/-- The stored form of an option. -/
def optionToJson (option : ChoiceOption) : Json :=
  .record [("id", .text option.id), ("text", .text option.text),
    ("is_correct", .bool option.isCorrect)]

/-- Reads an option. -/
def optionOfJson : Decoder ChoiceOption := fun json => do
  let fields ← asRecord ["id", "text", "is_correct"] json
  let id ← fields.required "id" asText
  let text ← fields.withDefault "text" "" asText
  let isCorrect ← fields.withDefault "is_correct" false asBool
  pure { id, text, isCorrect }

/-- The stored form of a truth key. -/
def truthKeyToJson : TruthKey → Json
  | .bool value => .bool value
  | .text value => .text value

/-- Reads a truth key. -/
def truthKeyOfJson : Decoder TruthKey
  | .bool value => .ok (.bool value)
  | .text value => .ok (.text value)
  | _ => .error .mismatch

/-- The stored form of a matching pair. -/
def pairToJson (pair : MatchingPair) : Json :=
  .record [("left", .text pair.left), ("right", .text pair.right)]

/-- Reads a matching pair. -/
def pairOfJson : Decoder MatchingPair := fun json => do
  let fields ← asRecord ["left", "right"] json
  let left ← fields.required "left" asText
  let right ← fields.required "right" asText
  pure { left, right }

/-- The members that a payload has beside its kind. -/
def ownMembers : Payload → List (String × Json)
  | .singleChoice options | .multiChoice options =>
    [("options", .list (options.map optionToJson))]
  | .trueFalse correct => [("correct", truthKeyToJson correct)]
  | .matching pairs => [("pairs", .list (pairs.map pairToJson))]
  | .ordering sequence => [("sequence", .ofTexts sequence)]
  | .shortAnswer reference | .essay reference | .fillBlank reference =>
    [("reference_answer", .ofOption .text reference)]

/-- The stored form of a payload. -/
def toJson (payload : Payload) : Json :=
  .record (("kind", .text payload.type.word) :: payload.ownMembers)

/-- Reads a record with one field that has to be there. -/
def soleField {α : Type} (name : String) (decode : Decoder α) : Decoder α :=
  fun json => do
  let fields ← asRecord [name] json
  fields.required name decode

/-- Reads the reference answer of a free-text question. -/
def referenceOfJson : Decoder (Option String) := fun json => do
  let fields ← asRecord ["reference_answer"] json
  fields.optional "reference_answer" asText

/-- Reads the members of a payload of a type. -/
def ofMembers (type : QuestionType) (json : Json) :
    Except DecodeFault Payload :=
  match type with
  | .singleChoice =>
      .singleChoice <$> soleField "options" (asList optionOfJson) json
  | .multiChoice =>
      .multiChoice <$> soleField "options" (asList optionOfJson) json
  | .trueFalse => .trueFalse <$> soleField "correct" truthKeyOfJson json
  | .matching => .matching <$> soleField "pairs" (asList pairOfJson) json
  | .ordering => .ordering <$> soleField "sequence" (asList asText) json
  | .shortAnswer => .shortAnswer <$> referenceOfJson json
  | .essay => .essay <$> referenceOfJson json
  | .fillBlank => .fillBlank <$> referenceOfJson json

/-- Reads a payload. -/
def ofJson : Decoder Payload :=
  asTagged "kind" fun word json =>
    match QuestionType.ofWord? word with
    | some type => ofMembers type json
    | none => .error .mismatch

end Payload

namespace Pairing

/-- The stored form of a pairing. -/
def toJson (pairing : Pairing) : Json :=
  .record (pairing.entries.map fun entry => (entry.1, .text entry.2))

/-- Reads a pairing; a repeated left item keeps its last right item. -/
def ofJson : Decoder Pairing
  | .record members =>
    match Answer.pairsOf? members with
    | some pairs => .ok (.ofList pairs)
    | none => .error .mismatch
  | _ => .error .mismatch

end Pairing

namespace Answer

/-- The word for the form of an answer. -/
def kind : Answer → String
  | .choice _ => "choice"
  | .choices _ => "choices"
  | .truth _ => "truth"
  | .pairs _ => "pairs"
  | .sequence _ => "sequence"
  | .text _ => "text"

/-- The content of an answer in its stored form. -/
def content : Answer → Json
  | .choice value | .truth value | .text value => .text value
  | .choices values | .sequence values => .ofTexts values
  | .pairs pairing => pairing.toJson

/-- The stored form of an answer. -/
def toJson (answer : Answer) : Json :=
  .record [("kind", .text answer.kind), ("value", answer.content)]

/-- Reads the content of an answer of a form. -/
def ofContent (kind : String) (json : Json) : Except DecodeFault Answer :=
  match kind with
  | "choice" => .choice <$> asText json
  | "choices" => .choices <$> asList asText json
  | "truth" => .truth <$> asText json
  | "pairs" => .pairs <$> Pairing.ofJson json
  | "sequence" => .sequence <$> asList asText json
  | "text" => .text <$> asText json
  | _ => .error .mismatch

/-- Reads the kind of an answer. In an object it may be written as a text or as
an object, in a list only as a text. -/
def kindIn : Json → Decoder String
  | .list _ => asText
  | _ => asWord some

/-- Reads an answer. -/
def ofJson : Decoder Answer := fun json => do
  let fields ← asRecord ["kind", "value"] json
  let kind ← fields.required "kind" (kindIn json)
  fields.required "value" (ofContent kind)

end Answer

/-- A question as it stands in a variant: the options are in the order shown to
students. -/
structure VariantQuestion where
  questionId : String
  version : Int
  prompt : String
  difficulty : Difficulty
  points : Decimal
  payload : Payload
  optionOrder : Option (List String)
  answerKey : String
deriving DecidableEq

namespace VariantQuestion

/-- The stored form of a question of a variant. -/
def toJson (question : VariantQuestion) : Json :=
  .record ([("question_id", .text question.questionId),
    ("version", .ofInt question.version), ("prompt", .text question.prompt),
    ("difficulty", .text question.difficulty.word),
    ("points", .text question.points.toText),
    ("payload", question.payload.toJson)] ++
      optionalMember "option_order" .ofTexts question.optionOrder ++
        [("answer_key", .text question.answerKey)])

/-- Reads a question of a variant. -/
def ofJson : Decoder VariantQuestion := fun json => do
  let fields ← asRecord ["question_id", "version", "prompt", "difficulty",
    "points", "payload", "option_order", "answer_key"] json
  let questionId ← fields.required "question_id" asText
  let version ← fields.required "version" (asSigned 32)
  let prompt ← fields.required "prompt" asText
  let difficulty ← fields.required "difficulty" (asWord Difficulty.ofWord?)
  let points ← fields.required "points" asDecimal
  let payload ← fields.required "payload" Payload.ofJson
  let optionOrder ← fields.optional "option_order" (asList asText)
  let answerKey ← fields.required "answer_key" asText
  pure { questionId, version, prompt, difficulty, points, payload, optionOrder,
         answerKey }

end VariantQuestion

end ExamHall
