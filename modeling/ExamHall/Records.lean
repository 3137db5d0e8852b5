import ExamHall.Calendar.Instant
import ExamHall.Question.Stored

/-!
# Records

What the exam keeps: the question bank, generated tests with their variants,
assignments with their rosters, and attempts with their answers. A document
column holds JSON that was readable when it was written, but the bank is also
edited from outside, so a stored document may fail to read.
-/

namespace ExamHall

/-- A stored JSON document: a value as the exam itself writes it, or a document
that was put there in another way, with what it reads as. -/
inductive Stored (α : Type) where
  | written (value : α)
  | edited (document : Json) (reading : Option α)

namespace Stored

/-- The value of a readable document. -/
def value? {α : Type} : Stored α → Option α
  | .written value => some value
  | .edited _ reading => reading

/-- The document that a JSON value makes. -/
def ofJson {α : Type} (decode : Decoder α) (json : Json) : Stored α :=
  match decode json with
  | .ok value => .edited json (some value)
  | .error _ => .edited json none

/-- The JSON of a document. -/
def toJson {α : Type} (encode : α → Json) : Stored α → Json
  | .written value => encode value
  | .edited document _ => document

end Stored

/-- A question of the bank, with its payload as a value or as a stored
document. -/
structure Question (π : Type) where
  id : String
  ownerId : String
  subjectId : Option String
  topicId : Option String
  prompt : String
  type : QuestionType
  difficulty : Difficulty
  points : Decimal
  payload : π
  version : Int
  isPublic : Bool
  createdAt : Instant
  updatedAt : Instant

/-- A generated test. -/
structure GeneratedTest where
  id : String
  ownerId : String
  title : String
  mode : GenerationMode
  subjectId : Option String
  topicId : Option String
  requestedCount : Int
  percentages : PerDifficulty Int
  counts : PerDifficulty Int
  shuffleQuestions : Bool
  shuffleOptions : Bool
  variantCount : Int
  seed : Int
  createdAt : Instant
deriving DecidableEq

/-- A variant of a generated test, with its questions as values or as a stored
document. -/
structure Variant (π : Type) where
  id : String
  testId : String
  label : String
  position : Int
  questions : π
  createdAt : Instant

/-- A test given to a list of students for a time. -/
structure Assignment where
  id : String
  testId : String
  ownerId : String
  title : String
  status : AssignmentStatus
  startsAt : Instant
  endsAt : Instant
  durationMinutes : Int
  maxAttempts : Int
  shufflePerStudent : Bool
  accessCodeHash : Option String
  tabSwitchThreshold : Int
  tabSwitchAction : IntegrityAction
  createdAt : Instant
  updatedAt : Instant
  closedAt : Option Instant
deriving DecidableEq

/-- A student on the roster of an assignment. -/
structure RosterEntry where
  assignmentId : String
  studentId : String
deriving DecidableEq

/-- One sitting of a student on an assignment. -/
structure Attempt where
  id : String
  assignmentId : String
  studentId : String
  number : Int
  variantId : String
  variantIndex : Int
  status : AttemptStatus
  startedAt : Instant
  deadlineAt : Instant
  submittedAt : Option Instant
  gradedAt : Option Instant
  rawScore : Option Decimal
  maxScore : Decimal
  percentage : Option Decimal
  violationCount : Int
  flagged : Bool
  flagReason : Option String
  createdAt : Instant
  updatedAt : Instant
deriving DecidableEq

/-- The answer of an attempt to one question, with its value as such or as a
stored document. -/
structure SavedAnswer (π : Type) where
  id : String
  attemptId : String
  questionId : String
  value : Option π
  isCorrect : Bool
  isPartial : Bool
  needsManual : Bool
  earnedPoints : Decimal
  maxPoints : Decimal
  timeSpentSeconds : Option Int
  bookmarked : Bool
  feedback : Option String
  gradedBy : Option String
  savedAt : Instant
  gradedAt : Option Instant

namespace Question

/-- The question with its payload read. -/
def read? (question : Question (Stored Payload)) : Option (Question Payload) :=
  question.payload.value?.map fun payload => { question with payload }

end Question

namespace Variant

/-- The variant with its questions read. -/
def read? (variant : Variant (Stored (List VariantQuestion))) :
    Option (Variant (List VariantQuestion)) :=
  variant.questions.value?.map fun questions => { variant with questions }

/-- The question of a variant with an id; the first one if there are several. -/
def question? (variant : Variant (List VariantQuestion)) (questionId : String) :
    Option VariantQuestion :=
  variant.questions.find? fun question => question.questionId == questionId

end Variant

namespace SavedAnswer

/-- The saved answer with its value read. -/
def read? (answer : SavedAnswer (Stored Answer)) :
    Option (SavedAnswer Answer) :=
  match answer.value with
  | none => some { answer with value := none }
  | some document =>
      document.value?.map fun value => { answer with value := some value }

end SavedAnswer

end ExamHall
