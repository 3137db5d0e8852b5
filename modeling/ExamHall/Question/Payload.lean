import ExamHall.Text.Case
import ExamHall.Text.Pieces
import ExamHall.Vocabulary

/-!
# Question payloads

A payload is what a question asks together with its key. Questions of the closed
types can be used in generated tests when their payload is usable: options are
there, have a text, and one of them is correct, or the truth key is one of the
two words.
-/

namespace ExamHall

/-- One option of a choice question. -/
structure ChoiceOption where
  id : String
  text : String
  isCorrect : Bool
deriving DecidableEq, Repr

/-- The key of a true-or-false question, as a truth value or as the text of
one. -/
inductive TruthKey where
  | bool (value : Bool)
  | text (value : String)
deriving DecidableEq, Repr

/-- The two words for truth values. -/
def truthWord (value : Bool) : String :=
  if value then "true" else "false"

/-- A text of a truth value, trimmed and in lower case. -/
def normalTruth (text : String) : String :=
  Text.lower (Text.trim text)

/-- The text of a truth key. -/
def TruthKey.normal : TruthKey → String
  | .bool value => truthWord value
  | .text value => normalTruth value

/-- A left item with the right item that belongs to it. -/
structure MatchingPair where
  left : String
  right : String
deriving DecidableEq, Repr

/-- What a question asks, with its key. -/
inductive Payload where
  | singleChoice (options : List ChoiceOption)
  | multiChoice (options : List ChoiceOption)
  | trueFalse (correct : TruthKey)
  | matching (pairs : List MatchingPair)
  | ordering (sequence : List String)
  | shortAnswer (reference : Option String)
  | essay (reference : Option String)
  | fillBlank (reference : Option String)
deriving DecidableEq, Repr

/-- The ids of the options marked correct, in their order. -/
def correctIds (options : List ChoiceOption) : List String :=
  (options.filter (·.isCorrect)).map (·.id)

/-- At least two options, none without a text, one of them correct. -/
def isWellFormed (options : List ChoiceOption) : Bool :=
  decide (2 ≤ options.length) &&
    options.all (fun option => !Text.isBlankText option.text) &&
      options.any (·.isCorrect)

namespace Payload

/-- The type of question that a payload makes. -/
def type : Payload → QuestionType
  | .singleChoice _ => .singleChoice
  | .multiChoice _ => .multiChoice
  | .trueFalse _ => .trueFalse
  | .matching _ => .matching
  | .ordering _ => .ordering
  | .shortAnswer _ => .shortAnswer
  | .essay _ => .essay
  | .fillBlank _ => .fillBlank

/-- The options of a choice question. -/
def options? : Payload → Option (List ChoiceOption)
  | .singleChoice options | .multiChoice options => some options
  | _ => none

/-- The payload with other options; other payloads stay as they are. -/
def withOptions (payload : Payload) (options : List ChoiceOption) : Payload :=
  match payload with
  | .singleChoice _ => .singleChoice options
  | .multiChoice _ => .multiChoice options
  | other => other

/-- Whether a generated test can use the payload. -/
def isUsable : Payload → Bool
  | .singleChoice options | .multiChoice options => isWellFormed options
  | .trueFalse key =>
      key.normal == truthWord true || key.normal == truthWord false
  | _ => false

end Payload

end ExamHall
