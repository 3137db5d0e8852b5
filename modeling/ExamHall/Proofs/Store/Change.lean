import ExamHall.Proofs.Store.Lawful
import ExamHall.Proofs.Store.Reading
import Mathlib.Logic.Relation

/-!
# What a transaction may do to the store

Each constructor of `Change` is one kind of write, with all that was checked
before it.  A transaction makes a few of these changes or none, so what every
change keeps, every run of the service keeps.
-/

namespace ExamHall

open Store

/-! ## Tests and assignments -/

/-- What holds of a test and its variants when they are stored. -/
structure Generates (store : Store) (test : GeneratedTest)
    (variants : List (Variant (Stored (List VariantQuestion)))) : Prop where
  fresh : test.id ∉ store.tests.map (·.id)
  key : IsKey test.id
  variantIds : ((store.variants ++ variants).map (·.id)).Nodup
  variantKeys : ∀ variant ∈ variants, IsKey variant.id
  variantTests : ∀ variant ∈ variants, variant.testId = test.id
  places : (store.variants ++ variants).Pairwise fun left right =>
    clashes left right = false
  positions :
    variants.map (·.position) = (List.range variants.length).map Int.ofNat
  nonempty : variants ≠ []
  papers : ∀ variant ∈ variants, ∃ questions,
    variant.questions = .written questions ∧ IsPaper questions

/-- What holds of an assignment and its roster when they are stored. -/
structure Assigns (store : Store) (assignment : Assignment)
    (entries : List RosterEntry) : Prop where
  fresh : assignment.id ∉ store.assignments.map (·.id)
  key : IsKey assignment.id
  test : assignment.testId ∈ store.tests.map (·.id)
  duration : 0 < assignment.durationMinutes
  maxAttempts : 0 < assignment.maxAttempts
  students : ∀ entry ∈ entries, FitsId entry.studentId
  enrolled : ∀ entry ∈ entries, entry.assignmentId = assignment.id

/-- Whether an assignment has an id and can still be closed. -/
def Store.isOpen (id : String) (assignment : Assignment) : Bool :=
  assignment.id == id && decide (assignment.status ≠ .closed)

/-! ## Attempts -/

/-- The row of an attempt that starts now. -/
def Attempt.begun (id : String) (assignment : Assignment) (studentId : String)
    (number : Nat) (variantId : String) (variantIndex : Int)
    (maxScore : Decimal) (deadlineAt now : Instant) :
    Attempt :=
  { id
    assignmentId := assignment.id
    studentId
    number
    variantId
    variantIndex
    status := .inProgress
    startedAt := Column.time now
    deadlineAt := Column.time deadlineAt
    submittedAt := none
    gradedAt := none
    rawScore := none
    maxScore
    percentage := none
    violationCount := 0
    flagged := false
    flagReason := none
    createdAt := Column.time now
    updatedAt := Column.time now }

/-- What holds of an attempt when it is opened. -/
structure Opens (now : Instant) (store : Store) (assignment : Assignment)
    (variant : Variant (Stored (List VariantQuestion))) (attempt : Attempt) :
    Prop where
  listed : assignment ∈ store.assignments
  window : assignment.window now = .open
  enrolled : ⟨assignment.id, attempt.studentId⟩ ∈ store.roster
  fresh : attempt.id ∉ store.attempts.map (·.id)
  key : IsKey attempt.id
  apart : ∀ other ∈ store.attempts, conflicts attempt other = false
  dealt : variant ∈ store.variants
  test : variant.testId = assignment.testId
  position : variant.position = variantIndex attempt.studentId assignment.id
    (store.attempts.countP (isOf assignment.id attempt.studentId) + 1)
    (store.variants.countP fun other => other.testId == assignment.testId)
    assignment.shufflePerStudent
  left : (store.attempts.countP (isOf assignment.id attempt.studentId) : Int) <
    assignment.maxAttempts
  begun : ∃ questions most maxScore deadlineAt,
    variant.questions.value? = some questions ∧
    Exam.maxScore? questions = some most ∧ Column.points most = .ok maxScore ∧
    deadline? now assignment.durationMinutes = some deadlineAt ∧
    attempt = .begun attempt.id assignment attempt.studentId
      (store.attempts.countP (isOf assignment.id attempt.studentId) + 1)
      variant.id variant.position maxScore deadlineAt now

/-- What holds of an attempt when it is submitted as of a time: its deadline has
passed and is that time, or has not passed and that time is now.  A table tells
the time to the microsecond only. -/
structure Closes (now : Instant) (store : Store) (attempt : Attempt)
    (submittedAt : Instant) : Prop where
  listed : attempt ∈ store.attempts
  running : attempt.status = .inProgress
  time : (submittedAt = attempt.deadlineAt ∧
      (attempt.deadlineAt ≤ now ∨ attempt.deadlineAt ≤ Column.time now)) ∨
    (submittedAt = now ∧ now < attempt.deadlineAt)

/-- What holds of an attempt that its student works on. -/
structure IsWorkedOn (now : Instant) (store : Store) (attempt : Attempt) :
    Prop where
  listed : attempt ∈ store.attempts
  running : attempt.status = .inProgress
  inTime : now < attempt.deadlineAt

/-! ## Answers -/

/-- A variant of the store has an id and reads as the given questions. -/
def HasVariant (store : Store) (variantId : String)
    (questions : List VariantQuestion) : Prop :=
  ∃ variant ∈ store.variants, variant.id = variantId ∧
    variant.questions.value? = some questions

theorem hasVariant_of_find? {store : Store} {id : String}
    {row : Variant (Stored (List VariantQuestion))}
    {variant : Variant (List VariantQuestion)}
    (found : store.variants.find? (·.id == id) = some row)
    (read : row.read? = some variant) :
    HasVariant store id variant.questions := by
  obtain ⟨listed, same⟩ := mem_and_key_of_find? found
  obtain ⟨questions, value, rfl⟩ := Option.map_eq_some_iff.mp read
  exact ⟨row, listed, same, value⟩

/-- A row is the one for a question of a variant. -/
structure IsRowFor (question : VariantQuestion)
    (row : SavedAnswer (Stored Answer)) : Prop where
  questionId : Column.id question.questionId = .ok row.questionId
  maxPoints : Column.points question.points = .ok row.maxPoints

/-- What holds of a row when an answer is saved. -/
structure Saves (now : Instant) (store : Store) (attempt : Attempt)
    (row : SavedAnswer (Stored Answer)) : Prop where
  worked : IsWorkedOn now store attempt
  question : ∃ questions, HasVariant store attempt.variantId questions ∧
    ∃ question ∈ questions, IsRowFor question row
  attemptId : row.attemptId = attempt.id
  unscored : ∃ value timeSpentSeconds bookmarked,
    row = { unscored row.id row.attemptId row.questionId row.maxPoints now with
      value, timeSpentSeconds, bookmarked }
  readable : row.read?.isSome
  fresh : row.id ∉ store.answers.map (·.id)
  plain : Column.hasNul row.id = false

/-- What holds of the rows that grading adds. -/
structure Fills (now : Instant) (store : Store) (attempt : Attempt)
    (questions : List VariantQuestion)
    (added : List (SavedAnswer (Stored Answer))) : Prop where
  rows : ∀ row ∈ added, (∃ question ∈ questions, IsRowFor question row) ∧
    row = unscored row.id attempt.id row.questionId row.maxPoints now
  ids : ((store.answers ++ added).map (·.id)).Nodup
  plain : ∀ row ∈ added, Column.hasNul row.id = false
  apart : (store.answers ++ added).Pairwise fun left right =>
    isAnswerTo left.attemptId left.questionId right = false
  complete : ∀ question ∈ questions, ∃ row ∈ store.answers ++ added,
    row.attemptId = attempt.id ∧ (row.questionId = question.questionId ∨
      Column.id question.questionId = .ok row.questionId)

/-- What grading makes of a row. -/
inductive RowGraded (questions : List VariantQuestion) (now : Instant) :
    SavedAnswer (Stored Answer) → SavedAnswer (Stored Answer) → Prop where
  | passedOver {row : SavedAnswer (Stored Answer)}
      (foreign : questions.find? (·.questionId == row.questionId) = none) :
      RowGraded questions now row row
  | scored {row : SavedAnswer (Stored Answer)}
      {question : VariantQuestion} {answer : SavedAnswer Answer}
      {outcome : GradeOutcome} {earned most : Decimal}
      (found : questions.find? (·.questionId == row.questionId) = some question)
      (read : row.read? = some answer)
      (graded : Grading.grade? question.payload question.points answer.value =
        some outcome) (earnedPoints : Column.points outcome.earned = .ok earned)
      (maxPoints : Column.points (roundPoints question.points) = .ok most) :
      RowGraded questions now row (gradedAnswer earned most ⟨outcome,
        roundPoints question.points, now⟩ row)

/-- What an answer adds to the totals when it is graded. -/
def answerTally? (questions : List VariantQuestion)
    (answer : SavedAnswer Answer) : Option Tally := do
  let question ← questions.find? (·.questionId == answer.questionId)
  let outcome ← Grading.grade? question.payload question.points answer.value
  some ⟨outcome.earned, roundPoints question.points, outcome.needsManual⟩

/-- What a row adds to the totals when it is graded. -/
def tally? (questions : List VariantQuestion)
    (row : SavedAnswer (Stored Answer)) : Option Tally :=
  row.read?.bind (answerTally? questions)

/-- What a scored row adds to the totals. -/
def SavedAnswer.tally {π : Type} (row : SavedAnswer π) : Tally :=
  ⟨row.earnedPoints, row.maxPoints, row.needsManual⟩

/-- The scores of an attempt as its columns keep them. -/
structure Scores (totals : Totals) (rawScore maxScore percentage : Decimal) :
    Prop where
  rawScore : Column.points totals.rawScore = .ok rawScore
  maxScore : Column.points totals.maxScore = .ok maxScore
  percentage : Column.percent totals.percentage = .ok percentage

/-- What holds when an attempt is graded. -/
structure Grades (now : Instant) (store : Store) (attempt : Attempt)
    (added answers : List (SavedAnswer (Stored Answer))) (totals : Totals) :
    Prop where
  listed : attempt ∈ store.attempts
  submitted : attempt.status = .submitted
  readable : ∀ row ∈ store.answers, row.attemptId = attempt.id →
    row.read?.isSome
  rows : ∃ questions, HasVariant store attempt.variantId questions ∧
    Fills now store attempt questions added ∧
    List.Forall₂ (fun row graded =>
        if row.attemptId = attempt.id then RowGraded questions now row graded
        else graded = row)
      (store.answers ++ added) answers ∧
    totals? (({ store with answers := store.answers ++ added }.sheet
      attempt.id).filterMap (tally? questions)) = some totals

/-- What holds when a reviewer scores an answer. -/
structure Reviews (store : Store) (attempt : Attempt)
    (row : SavedAnswer (Stored Answer)) (outcome : GradeOutcome)
    (earned : Decimal) (answers : List (SavedAnswer (Stored Answer)))
    (totals : Totals) : Prop where
  listed : attempt ∈ store.attempts
  scored : attempt.status.isScored = true
  rowListed : row ∈ store.answers
  rowAttempt : row.attemptId = attempt.id
  granted : ∃ score, manualOutcome row.maxPoints score = .ok outcome
  stored : Column.points outcome.earned = .ok earned
  changed : ∃ gradedBy score, score.outcome = outcome ∧
    answers = updateWhere (fun other =>
      other.id == row.id) (reviewedAnswer earned gradedBy score) store.answers
  totals :
    totals? (({ store with answers }.sheet attempt.id).map SavedAnswer.tally) =
      some totals

/-- A change that a transaction makes at a time. -/
inductive Change (now : Instant) : Store → Store → Prop where
  | generated {store : Store} {test : GeneratedTest}
      {variants : List (Variant (Stored (List VariantQuestion)))}
      {issued : Issued} (generates : Generates store test variants) :
      Change now store { store with
        tests := store.tests ++ [test],
        variants := store.variants ++ variants, issued }
  | assigned
      {store : Store} {assignment : Assignment} {entries : List RosterEntry}
      {issued : Issued} (assigns : Assigns store assignment entries) :
      Change now store { store with
        assignments := store.assignments ++ [assignment],
        roster := store.roster ++ entries, issued }
  | closed {store : Store} {id : String} :
      Change now store { store with
        assignments :=
          updateWhere (isOpen id) (Store.closed now) store.assignments }
  | opened {store : Store} {assignment : Assignment}
      {variant : Variant (Stored (List VariantQuestion))} {attempt : Attempt}
      {issued : Issued} (opens : Opens now store assignment variant attempt) :
      Change now store
        { store with attempts := store.attempts ++ [attempt], issued }
  | submitted {store : Store} {attempt : Attempt} {submittedAt : Instant}
      (closes : Closes now store attempt submittedAt) :
      Change now store { store with
        attempts := updateWhere (hasStatus attempt.id .inProgress)
          (Store.submitted submittedAt now) store.attempts }
  | violated {store : Store} {attempt : Attempt}
      (worked : IsWorkedOn now store attempt) :
      Change now store { store with
        attempts := updateWhere (hasStatus attempt.id .inProgress)
          (Store.violated now) store.attempts }
  | flagged {store : Store} {attempt : Attempt} {reason : String}
      (worked : IsWorkedOn now store attempt) :
      Change now store { store with
        attempts := updateWhere (fun other => other.id == attempt.id)
          (marked reason now) store.attempts }
  | saved
      {store : Store} {attempt : Attempt} {row : SavedAnswer (Stored Answer)}
      {issued : Issued} (saves : Saves now store attempt row)
      (first : ∀ other ∈ store.answers,
        isAnswerTo row.attemptId row.questionId other = false) :
      Change now store { store with answers := store.answers ++ [row], issued }
  | resaved
      {store : Store} {attempt : Attempt} {row : SavedAnswer (Stored Answer)}
      (saves : Saves now store attempt row) :
      Change now store { store with
        answers := updateWhere (isAnswerTo row.attemptId row.questionId)
          (Store.resaved row) store.answers }
  | graded {store : Store} {attempt : Attempt}
      {added answers : List (SavedAnswer (Stored Answer))} {totals : Totals}
      {rawScore maxScore percentage : Decimal} {issued : Issued}
      (grades : Grades now store attempt added answers totals)
      (scores : Scores totals rawScore maxScore percentage) :
      Change now store { store with
        attempts := updateWhere (hasStatus attempt.id .submitted)
          (scored rawScore maxScore percentage
            (Exam.scoreUpdate totals totals.statusAfterAuto now)) store.attempts
        answers, issued }
  | reviewed {store : Store} {attempt : Attempt}
      {row : SavedAnswer (Stored Answer)} {outcome : GradeOutcome}
      {earned : Decimal} {answers : List (SavedAnswer (Stored Answer))}
      {totals : Totals} {rawScore maxScore percentage : Decimal}
      (reviews : Reviews store attempt row outcome earned answers totals)
      (scores : Scores totals rawScore maxScore percentage) :
      Change now store { store with
        attempts := updateWhere (hasStatus attempt.id attempt.status)
          (scored rawScore maxScore percentage
            (Exam.scoreUpdate totals totals.statusAfterManual now))
          store.attempts
        answers }

/-- Nothing changes the order in which texts are sorted. -/
theorem Change.collation {now : Instant} {before after : Store}
    (change : Change now before after) :
    after.collation = before.collation := by
  cases change <;> rfl

/-- Any number of changes at one time. -/
abbrev Reaches (now : Instant) : Store → Store → Prop :=
  Relation.ReflTransGen (Change now)

end ExamHall
