import ExamHall.Power
import ExamHall.Question.Payload

/-!
# Answer keys

Options are labelled with letters in the order in which they are shown: A to Z,
then AA, AB and so on, the numerals of bijective base 26. The key of a choice
question lists the labels of its correct options; the key of a true-or-false
question is its word.
-/

namespace ExamHall

/-- The letters of variants, which bound their number. -/
def variantLabels : List String :=
  ["A", "B", "C", "D", "E", "F", "G", "H", "I", "J"]

/-- The letter of a digit of base 26, counted from zero. -/
def letter (digit : Nat) : Char :=
  Char.ofNat (65 + digit % 26)

/-- The numeral of a number in bijective base 26, for `fuel` no smaller than the
number. -/
def labelChars : Nat → Nat → List Char
  | 0, _ => []
  | _ + 1, 0 => []
  | fuel + 1, number + 1 => labelChars fuel (number / 26) ++ [letter number]

/-- The label of the option at an index, counted from zero. -/
def optionLabel (index : Nat) : String :=
  String.ofList (labelChars (index + 1) (index + 1))

/-- The label at an index of 64 bits; the numeral of the largest index does not
fit. -/
def optionLabel? (index : Nat) : Option String :=
  if index + 1 < twoTo 64 then some (optionLabel index) else none

/-- The indexes of the correct options, counted from `first`. -/
def correctIndexes (first : Nat) : List ChoiceOption → List Nat
  | [] => []
  | option :: rest =>
    if option.isCorrect then first :: correctIndexes (first + 1) rest
    else correctIndexes (first + 1) rest

/-- The key of a payload with its options in the order shown; a choice question
without a correct option has none. -/
def answerKey? : Payload → Option String
  | .singleChoice options | .multiChoice options =>
    match correctIndexes 0 options with
    | [] => none
    | indexes => some (String.intercalate "," (indexes.map optionLabel))
  | .trueFalse key => some key.normal
  | _ => some ""

/-- The key as a variant carries it, empty for a question without one. -/
def answerKey (payload : Payload) : String :=
  (answerKey? payload).getD ""

end ExamHall
