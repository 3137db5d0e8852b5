import ExamHall.Distinct
import ExamHall.Grading.Outcome
import ExamHall.Question.Answer

/-!
# Grading rules

One rule for each type of question. Choices of several options and matchings
give partial credit by the share of what is right; free text waits for a
reviewer; all other types give all points or none. An answer of another type's
form earns nothing.
-/

namespace ExamHall.Grading

/-- The share that a count has in another one. -/
def share? (part whole : Nat) : Option Decimal :=
  Decimal.quotient? false part whole 0

/-- Whether two lists have the same members. -/
def sameMembers (left right : List String) : Bool :=
  left.all (right.contains ·) && right.all (left.contains ·)

/-- The first option marked correct is the one to choose. -/
def singleChoice (options : List ChoiceOption) (points : Decimal)
    (chosen : String) :
    GradeOutcome :=
  match correctIds options with
  | correct :: _ => if correct = chosen then .full points else .unanswered
  | [] => .unanswered

/-- The share of a selection: its correct options less its wrong ones, out of
all correct ones. Wrong options can use up what the correct ones bring, but not
more. -/
def selectionShare? (correct selected : List String) : Option Decimal :=
  let hits := selected.filter (correct.contains ·)
  let misses := selected.filter fun id => !correct.contains id
  share? (hits.length - misses.length) (Nat.max correct.length 1)

/-- The correct options are to be chosen and no others; each wrong one takes
away what a right one adds. -/
def multiChoice? (options : List ChoiceOption) (points : Decimal)
    (selected : List String) : Option GradeOutcome :=
  let correct := distinct (correctIds options)
  let selected := distinct selected
  if sameMembers selected correct then some (.full points)
  else do
    let part ← selectionShare? correct selected
    let outcome ← GradeOutcome.scaled? points part
    some { outcome with isCorrect := false }

/-- The word given has to be the word of the key. -/
def trueFalse (key : TruthKey) (points : Decimal) (given : String) :
    GradeOutcome :=
  if normalTruth given = key.normal then .full points else .unanswered

/-- The pairs that an answer gets right. -/
def matchedPairs (pairs : List MatchingPair) (given : Pairing) :
    List MatchingPair :=
  pairs.filter fun pair => given.find? pair.left == some pair.right

/-- Every right pair earns the same share. -/
def matching? (pairs : List MatchingPair) (points : Decimal) (given : Pairing) :
    Option GradeOutcome :=
  let matched := (matchedPairs pairs given).length
  if pairs.isEmpty then some .unanswered
  else if matched = pairs.length then some (.full points)
  else do
    let part ← share? matched pairs.length
    let outcome ← GradeOutcome.scaled? points part
    some { outcome with isCorrect := false, isPartial := decide (0 < matched) }

/-- The whole sequence has to be right. -/
def ordering (sequence : List String) (points : Decimal) (given : List String) :
    GradeOutcome :=
  if given = sequence then .full points else .unanswered

/-- The outcome of an answer to a question. -/
def grade? (payload : Payload) (points : Decimal) (answer : Option Answer) :
    Option GradeOutcome :=
  match answer with
  | none => some .unanswered
  | some answer =>
    match payload, answer with
    | .singleChoice options, .choice chosen =>
        some (singleChoice options points chosen)
    | .multiChoice options, .choices selected =>
        multiChoice? options points selected
    | .trueFalse key, .truth given => some (trueFalse key points given)
    | .matching pairs, .pairs given => matching? pairs points given
    | .ordering sequence, .sequence given =>
        some (ordering sequence points given)
    | .shortAnswer _, _ | .essay _, _ | .fillBlank _, _ =>
      some { GradeOutcome.unanswered with needsManual := true }
    | _, _ => some .unanswered

end ExamHall.Grading
