/-!
# Vocabulary

The closed sets of words that an exam is described with, each with its spelling.
A word is read back from exactly its own spelling.
-/

namespace ExamHall

/-- How hard a question is. -/
inductive Difficulty where
  | easy
  | medium
  | hard
deriving DecidableEq, Repr

namespace Difficulty

/-- The difficulties from easy to hard. -/
def all : List Difficulty := [.easy, .medium, .hard]

/-- The spelling of a difficulty. -/
def word : Difficulty → String
  | .easy => "easy"
  | .medium => "medium"
  | .hard => "hard"

/-- The difficulty with a spelling. -/
def ofWord? (word : String) : Option Difficulty :=
  all.find? fun difficulty => difficulty.word == word

end Difficulty

/-- One value for each difficulty. -/
structure PerDifficulty (α : Type) where
  easy : α
  medium : α
  hard : α
deriving DecidableEq, Repr

namespace PerDifficulty

/-- The value for a difficulty. -/
def get {α : Type} (values : PerDifficulty α) : Difficulty → α
  | .easy => values.easy
  | .medium => values.medium
  | .hard => values.hard

/-- The values that a function gives to the difficulties. -/
def of {α : Type} (value : Difficulty → α) : PerDifficulty α :=
  ⟨value .easy, value .medium, value .hard⟩

/-- A function applied to each value. -/
def map {α β : Type} (change : α → β) (values : PerDifficulty α) :
    PerDifficulty β :=
  of fun difficulty => change (values.get difficulty)

/-- The values from easy to hard. -/
def toList {α : Type} (values : PerDifficulty α) : List α :=
  [values.easy, values.medium, values.hard]

/-- The sum of the values. -/
def sum (values : PerDifficulty Nat) : Nat :=
  values.easy + values.medium + values.hard

@[simp] theorem get_of {α : Type} (value : Difficulty → α)
    (difficulty : Difficulty) :
    (of value).get difficulty = value difficulty := by
  cases difficulty <;> rfl

end PerDifficulty

/-- What kind of answer a question asks for. -/
inductive QuestionType where
  | singleChoice
  | multiChoice
  | trueFalse
  | matching
  | ordering
  | shortAnswer
  | essay
  | fillBlank
deriving DecidableEq, Repr

namespace QuestionType

/-- The question types. -/
def all : List QuestionType :=
  [.singleChoice, .multiChoice, .trueFalse, .matching, .ordering, .shortAnswer,
    .essay, .fillBlank]

/-- The spelling of a question type. -/
def word : QuestionType → String
  | .singleChoice => "single_choice"
  | .multiChoice => "multi_choice"
  | .trueFalse => "true_false"
  | .matching => "matching"
  | .ordering => "ordering"
  | .shortAnswer => "short_answer"
  | .essay => "essay"
  | .fillBlank => "fill_blank"

/-- The name of a question type in messages to people. -/
def title : QuestionType → String
  | .singleChoice => "SingleChoice"
  | .multiChoice => "MultiChoice"
  | .trueFalse => "TrueFalse"
  | .matching => "Matching"
  | .ordering => "Ordering"
  | .shortAnswer => "ShortAnswer"
  | .essay => "Essay"
  | .fillBlank => "FillBlank"

/-- The question type with a spelling. -/
def ofWord? (word : String) : Option QuestionType :=
  all.find? fun type => type.word == word

/-- The types whose answers are chosen from given ones, which generated tests
are made of. -/
def isClosed : QuestionType → Bool
  | .singleChoice | .multiChoice | .trueFalse => true
  | _ => false

end QuestionType

/-- How the questions of a generated test were chosen. -/
inductive GenerationMode where
  | auto
  | manual
deriving DecidableEq, Repr

namespace GenerationMode

/-- The spelling of a mode. -/
def word : GenerationMode → String
  | .auto => "auto"
  | .manual => "manual"

/-- The mode with a spelling. -/
def ofWord? (word : String) : Option GenerationMode :=
  [GenerationMode.auto, .manual].find? fun mode => mode.word == word

end GenerationMode

/-- Whether an assignment can be worked on. -/
inductive AssignmentStatus where
  | draft
  | active
  | closed
deriving DecidableEq, Repr

namespace AssignmentStatus

/-- The spelling of an assignment status. -/
def word : AssignmentStatus → String
  | .draft => "draft"
  | .active => "active"
  | .closed => "closed"

/-- The assignment status with a spelling. -/
def ofWord? (word : String) : Option AssignmentStatus :=
  [AssignmentStatus.draft, .active, .closed].find? fun status =>
    status.word == word

end AssignmentStatus

/-- Where an attempt is on its way from the first question to the final
score. -/
inductive AttemptStatus where
  | inProgress
  | submitted
  | autoGraded
  | needsReview
  | graded
deriving DecidableEq, Repr

namespace AttemptStatus

/-- The attempt statuses. -/
def all : List AttemptStatus :=
  [.inProgress, .submitted, .autoGraded, .needsReview, .graded]

/-- The spelling of an attempt status. -/
def word : AttemptStatus → String
  | .inProgress => "in_progress"
  | .submitted => "submitted"
  | .autoGraded => "auto_graded"
  | .needsReview => "needs_review"
  | .graded => "graded"

/-- The attempt status with a spelling. -/
def ofWord? (word : String) : Option AttemptStatus :=
  all.find? fun status => status.word == word

/-- The statuses that carry scores. -/
def isScored : AttemptStatus → Bool
  | .autoGraded | .needsReview | .graded => true
  | _ => false

end AttemptStatus

/-- What happens when a student leaves the exam window too often. -/
inductive IntegrityAction where
  | warn
  | flag
  | autoSubmit
deriving DecidableEq, Repr

namespace IntegrityAction

/-- The spelling of an action. -/
def word : IntegrityAction → String
  | .warn => "warn"
  | .flag => "flag"
  | .autoSubmit => "auto_submit"

/-- The action with a spelling. -/
def ofWord? (word : String) : Option IntegrityAction :=
  [IntegrityAction.warn, .flag, .autoSubmit].find? fun action =>
    action.word == word

end IntegrityAction

/-- What a person may do. -/
inductive Role where
  | teacher
  | student
  | admin
deriving DecidableEq, Repr

namespace Role

/-- The spelling of a role. -/
def word : Role → String
  | .teacher => "teacher"
  | .student => "student"
  | .admin => "admin"

/-- The role with a spelling. -/
def ofWord? (word : String) : Option Role :=
  [Role.teacher, .student, .admin].find? fun role => role.word == word

/-- Teachers and administrators write tests and assignments. -/
def canAuthor : Role → Bool
  | .teacher | .admin => true
  | .student => false

end Role

end ExamHall
