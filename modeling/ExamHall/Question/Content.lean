import ExamHall.Question.Stored

/-!
# What a student sees of a question

The content of a question shows what is asked and nothing that gives the key
away: options without their marks, right items and ordered items in alphabetical
order, and no reference answer.
-/

namespace ExamHall

/-- What a student sees of a payload. -/
inductive QuestionContent where
  | choices (options : List (String × String)) (multiple : Bool)
  | trueFalse
  | matching (left right : List String)
  | ordering (items : List String)
  | freeText
deriving DecidableEq, Repr

/-- Texts in alphabetical order. -/
def alphabetical (texts : List String) : List String :=
  texts.mergeSort fun left right => decide (left ≤ right)

namespace QuestionContent

/-- The ids and texts of options. -/
def ofOptions (options : List ChoiceOption) : List (String × String) :=
  options.map fun option => (option.id, option.text)

/-- What a student sees of a payload. -/
def ofPayload : Payload → QuestionContent
  | .singleChoice options => .choices (ofOptions options) false
  | .multiChoice options => .choices (ofOptions options) true
  | .trueFalse _ => .trueFalse
  | .matching pairs =>
      .matching (pairs.map (·.left)) (alphabetical (pairs.map (·.right)))
  | .ordering sequence => .ordering (alphabetical sequence)
  | .shortAnswer _ | .essay _ | .fillBlank _ => .freeText

/-- The shown form of content. -/
def toJson : QuestionContent → Json
  | .choices options multiple =>
    .record [("kind", .text "choices"),
      ("options", .list (options.map fun option =>
        .record [("id", .text option.1), ("text", .text option.2)])),
      ("multiple", .bool multiple)]
  | .trueFalse => .record [("kind", .text "true_false")]
  | .matching left right =>
    .record [("kind", .text "matching"), ("left", .ofTexts left),
      ("right", .ofTexts right)]
  | .ordering items =>
      .record [("kind", .text "ordering"), ("items", .ofTexts items)]
  | .freeText => .record [("kind", .text "free_text")]

end QuestionContent

end ExamHall
