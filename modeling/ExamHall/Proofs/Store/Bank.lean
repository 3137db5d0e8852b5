import ExamHall.Exam.Action
import ExamHall.Store.Answers
import ExamHall.Store.Assignments
import ExamHall.Store.Attempts
import ExamHall.Store.Tests

/-!
# Stores that differ in their question banks

A step that has nothing to do with the question bank does the same on two stores
that differ in it at most.  A step that takes the whole store into its hand is
compared with itself, where each of the two has its own store.
-/

namespace ExamHall

/-- The rows of a question bank. -/
abbrev Bank : Type := List (Question (Stored Payload))

namespace Store

/-- The store with another question bank. -/
def withBank (bank : Bank) (store : Store) : Store :=
  { store with questions := bank }

variable {bank : Bank} {store : Store}

@[simp] theorem withBank_withBank {other : Bank} :
    (store.withBank other).withBank bank = store.withBank bank := rfl

@[simp] theorem withBank_questions :
    store.withBank store.questions = store := rfl

@[simp] theorem tests_withBank :
    (store.withBank bank).tests = store.tests := rfl

@[simp] theorem variants_withBank :
    (store.withBank bank).variants = store.variants := rfl

@[simp] theorem assignments_withBank :
    (store.withBank bank).assignments = store.assignments := rfl

@[simp] theorem roster_withBank :
    (store.withBank bank).roster = store.roster := rfl

@[simp] theorem attempts_withBank :
    (store.withBank bank).attempts = store.attempts := rfl

@[simp] theorem answers_withBank :
    (store.withBank bank).answers = store.answers := rfl

@[simp] theorem issued_withBank :
    (store.withBank bank).issued = store.issued := rfl

@[simp] theorem outages_withBank :
    (store.withBank bank).outages = store.outages := rfl

end Store

open Store

/-- On a store with another bank, a step does what a first step does without
it. -/
def Mirrors {ε α : Type} (bank : Bank)
    (first second : StateT Store (Except ε) α) : Prop :=
  ∀ store, second (store.withBank bank) =
    (first store).map fun ended => (ended.1, ended.2.withBank bank)

/-- The question bank does not matter to a step. -/
def IgnoresBank {ε α : Type} (step : StateT Store (Except ε) α) : Prop :=
  ∀ bank, Mirrors bank step step

namespace Mirrors

variable {ε α β : Type} {bank : Bank}

theorem bind {first second : StateT Store (Except ε) α}
    {next other : α → StateT Store (Except ε) β}
    (mirrors : Mirrors bank first second)
    (continued : ∀ value, Mirrors bank (next value) (other value)) :
    Mirrors bank (first >>= next) (second >>= other) := by
  intro store
  change (second (store.withBank bank) >>= fun ended => other ended.1 ended.2) =
    (first store >>= fun ended => next ended.1 ended.2).map _
  rw [mirrors store]
  cases first store with
  | error fault => rfl
  | ok ended => exact continued ended.1 ended.2

theorem pure (value : α) :
    Mirrors bank (Pure.pure value : StateT Store (Except ε) α)
      (Pure.pure value) :=
  fun _ => rfl

/-- What takes the store into its hand takes each its own. -/
theorem get_bind {next other : Store → StateT Store (Except ε) β}
    (continued : ∀ store,
      Mirrors bank (next store) (other (store.withBank bank))) :
    Mirrors bank (MonadState.get >>= next) (MonadState.get >>= other) :=
  fun store => continued store store

theorem set (store : Store) :
    Mirrors bank (MonadStateOf.set store : StateT Store (Except ε) PUnit)
      (MonadStateOf.set (store.withBank bank)) :=
  fun _ => rfl

theorem ite {holds : Prop} [Decidable holds]
    {first first' second second' : StateT Store (Except ε) α}
    (mirrors : Mirrors bank first first')
    (mirrors' : Mirrors bank second second') :
    Mirrors bank (if holds then first else second)
      (if holds then first' else second') := by
  split
  · exact mirrors
  · exact mirrors'

end Mirrors

namespace IgnoresBank

variable {ε δ α β : Type}

theorem bind {first : StateT Store (Except ε) α}
    {next : α → StateT Store (Except ε) β} (ignores : IgnoresBank first)
    (continued : ∀ value, IgnoresBank (next value)) :
    IgnoresBank (first >>= next) :=
  fun bank => (ignores bank).bind fun value => continued value bank

theorem pure (value : α) :
    IgnoresBank (Pure.pure value : StateT Store (Except ε) α) :=
  fun _ => .pure value

theorem ite {holds : Prop} [Decidable holds]
    {first second : StateT Store (Except ε) α} (ignores : IgnoresBank first)
    (ignores' : IgnoresBank second) :
    IgnoresBank (if holds then first else second) :=
  fun bank => (ignores bank).ite (ignores' bank)

theorem fail (fault : StorageFault) :
    IgnoresBank (Statement.fail fault : Statement α) :=
  fun _ _ => rfl

theorem ofExcept (result : Except StorageFault α) :
    IgnoresBank (Statement.ofExcept result) := by
  intro bank store
  cases result <;> rfl

theorem ensure (holds : Bool) (fault : StorageFault) :
    IgnoresBank (Statement.ensure holds fault) := by
  intro bank store
  cases holds <;> rfl

theorem plain (texts : List String) : IgnoresBank (Statement.plain texts) :=
  ensure _ _

theorem reach (tables : List Table) : IgnoresBank (Statement.reach tables) := by
  intro bank store
  unfold Statement.reach
  rw [outages_withBank]
  split <;> rfl

/-- What is found in the store without its bank. -/
theorem gets {value : Store → α}
    (same : ∀ bank store, value (store.withBank bank) = value store) :
    IgnoresBank
      (MonadState.get >>= fun store => Pure.pure (value store) : Statement α) :=
  fun bank => .get_bind fun store => by
    rw [same]
    exact .pure _

theorem readAll {ρ : Type} (read? : ρ → Option α) {rows : Store → List ρ}
    (same : ∀ bank store, rows (store.withBank bank) = rows store) :
    IgnoresBank (Statement.readAll read? rows) := by
  intro bank store
  unfold Statement.readAll
  rw [same]
  cases (rows store).mapM read? <;> rfl

/-- A statement on texts that may be asked for, and a table that has to be
there. -/
theorem guarded {texts : List String} {tables : List Table}
    {statement : Statement α} (ignores : IgnoresBank statement) :
    IgnoresBank (Statement.plain texts >>= fun _ => Statement.reach tables >>=
      fun _ => statement) :=
  (plain texts).bind fun _ => (reach tables).bind fun _ => ignores

theorem refuse (error : ε) :
    IgnoresBank (Transaction.refuse error : Transaction ε α) :=
  fun _ _ => rfl

theorem require (holds : Bool) (error : ε) :
    IgnoresBank (Transaction.require holds error) := by
  intro bank store
  cases holds <;> rfl

theorem demand (found : Option α) (error : ε) :
    IgnoresBank (Transaction.demand found error) := by
  intro bank store
  cases found <;> rfl

theorem inRange (found : Option α) :
    IgnoresBank (Transaction.inRange found : Transaction ε α) := by
  intro bank store
  cases found <;> rfl

theorem run {report : StorageFault → ε} {statement : Statement α}
    (ignores : IgnoresBank statement) :
    IgnoresBank (Transaction.run report statement) := by
  intro bank store
  unfold Transaction.run
  rw [ignores bank store]
  cases statement store <;> rfl

theorem attempt {part : Transaction ε α} (ignores : IgnoresBank part) :
    IgnoresBank (Transaction.attempt part) := by
  intro bank store
  unfold Transaction.attempt
  rw [ignores bank store]
  rcases part store with (_ | _) | ended <;> rfl

end IgnoresBank

/-! ## Statements -/

namespace Store

theorem ignoresBank_attempt? (id : String) : IgnoresBank (attempt? id) :=
  .guarded (.gets fun _ _ => rfl)

theorem ignoresBank_lockSitter (assignmentId studentId : String) :
    IgnoresBank (lockSitter assignmentId studentId) := .plain _

theorem ignoresBank_attemptInProgress? (assignmentId studentId : String) :
    IgnoresBank (attemptInProgress? assignmentId studentId) :=
  .guarded (.gets fun _ _ => rfl)

theorem ignoresBank_latestAttempt? (assignmentId studentId : String) :
    IgnoresBank (latestAttempt? assignmentId studentId) :=
  .guarded (.gets fun _ _ => rfl)

theorem ignoresBank_countAttempts (assignmentId studentId : String) :
    IgnoresBank (countAttempts assignmentId studentId) :=
  .guarded (.gets fun _ _ => rfl)

theorem ignoresBank_expiredAttempts (now : Instant) (limit : Nat) :
    IgnoresBank (expiredAttempts now limit) :=
  (IgnoresBank.reach _).bind fun _ => .gets fun _ _ => rfl

theorem ignoresBank_stalledAttempts (cutoff : Instant) (limit : Nat) :
    IgnoresBank (stalledAttempts cutoff limit) :=
  (IgnoresBank.reach _).bind fun _ => .gets fun _ _ => rfl

theorem ignoresBank_listAttempts (assignmentId : String)
    (status : Option AttemptStatus) (skip limit : Nat) :
    IgnoresBank (listAttempts assignmentId status skip limit) :=
  .guarded (.gets fun _ _ => rfl)

theorem ignoresBank_countListed (assignmentId : String)
    (status : Option AttemptStatus) :
    IgnoresBank (countListed assignmentId status) :=
  .guarded (.gets fun _ _ => rfl)

theorem ignoresBank_updateAttempts (holds : Attempt → Bool)
    (change : Attempt → Attempt) : IgnoresBank (updateAttempts holds change) :=
  fun _ _ => rfl

theorem ignoresBank_markSubmitted (id : String) (submittedAt now : Instant) :
    IgnoresBank (markSubmitted id submittedAt now) :=
  .guarded (ignoresBank_updateAttempts _ _)

theorem ignoresBank_flag (id reason : String) (now : Instant) :
    IgnoresBank (flag id reason now) :=
  .guarded (ignoresBank_updateAttempts _ _)

theorem ignoresBank_countViolation (id : String) (now : Instant) :
    IgnoresBank (countViolation id now) :=
  .guarded fun bank => .get_bind fun _ =>
    (IgnoresBank.ensure _ _ bank).bind fun _ =>
    ignoresBank_updateAttempts _ _ bank

theorem ignoresBank_recordScores (id : String) (expected : AttemptStatus)
    (update : ScoreUpdate) : IgnoresBank (recordScores id expected update) := by
  apply IgnoresBank.guarded
  intro bank
  apply Mirrors.get_bind
  intro store
  apply Mirrors.ite _ (.pure none)
  apply IgnoresBank.bind (.ofExcept _)
  exact fun _ => .bind (.ofExcept _) fun _ => .bind (.ofExcept _) fun _ =>
    ignoresBank_updateAttempts _ _

theorem ignoresBank_issueAttemptId : IgnoresBank issueAttemptId :=
  fun _ _ => rfl

theorem ignoresBank_createAttempt (attempt : NewAttempt) :
    IgnoresBank (createAttempt attempt) := by
  apply IgnoresBank.guarded
  intro bank
  apply Mirrors.get_bind
  intro before
  apply (ignoresBank_issueAttemptId bank).bind
  intro id
  apply (IgnoresBank.ofExcept _ bank).bind
  intro row
  apply (IgnoresBank.ensure _ _ bank).bind
  intro _
  apply Mirrors.get_bind
  intro store
  apply Mirrors.ite
  · exact (Mirrors.set before).bind fun _ => .pure none
  · apply (IgnoresBank.ensure _ _ bank).bind
    intro _
    apply (IgnoresBank.ensure _ _ bank).bind
    exact fun _ => (Mirrors.set _).bind fun _ => .pure _

theorem ignoresBank_test? (id : String) : IgnoresBank (test? id) :=
  .guarded (.gets fun _ _ => rfl)

theorem ignoresBank_variantsOf (testId : String) :
    IgnoresBank (variantsOf testId) :=
  .guarded (.readAll _ fun _ _ => rfl)

theorem ignoresBank_countVariants (testId : String) :
    IgnoresBank (countVariants testId) :=
  .guarded (.gets fun _ _ => rfl)

theorem ignoresBank_variantAt? (testId : String) (position : Int) :
    IgnoresBank (variantAt? testId position) :=
  .guarded ((IgnoresBank.readAll _ fun _ _ => rfl).bind fun _ => .pure _)

theorem ignoresBank_variant (id : String) : IgnoresBank (variant id) := by
  apply IgnoresBank.guarded
  apply (IgnoresBank.readAll _ fun _ _ => rfl).bind
  intro found
  cases found with
  | nil => exact .fail _
  | cons variant rest => exact .pure _

theorem ignoresBank_createAssignment (assignment : NewAssignment) :
    IgnoresBank (createAssignment assignment) := by
  apply IgnoresBank.guarded
  have issues : IgnoresBank issueAssignmentId := fun _ _ => rfl
  apply issues.bind
  intro id
  apply (IgnoresBank.ofExcept _).bind
  intro row
  apply (IgnoresBank.ensure _ _).bind
  intro _ bank
  apply Mirrors.get_bind
  intro store
  apply (IgnoresBank.ensure _ _ bank).bind
  exact fun _ => (Mirrors.set _).bind fun _ => .pure row

theorem ignoresBank_addStudents (assignmentId : String)
    (studentIds : List String) :
    IgnoresBank (addStudents assignmentId studentIds) := by
  apply IgnoresBank.guarded
  apply (IgnoresBank.ofExcept _).bind
  intro ids bank
  apply Mirrors.get_bind
  intro store
  exact (IgnoresBank.ensure _ _ bank).bind fun _ => .set _

theorem ignoresBank_assignment? (id : String) : IgnoresBank (assignment? id) :=
  .guarded (.gets fun _ _ => rfl)

theorem ignoresBank_assignment (id : String) : IgnoresBank (assignment id) := by
  apply (ignoresBank_assignment? id).bind
  intro found
  cases found with
  | none => exact .fail _
  | some assignment => exact .pure _

theorem ignoresBank_students (assignmentId : String) :
    IgnoresBank (students assignmentId) :=
  .guarded (.gets fun _ _ => rfl)

theorem ignoresBank_isOnRoster (assignmentId studentId : String) :
    IgnoresBank (isOnRoster assignmentId studentId) :=
  .guarded (.gets fun _ _ => rfl)

theorem ignoresBank_closeAssignment (id : String) (now : Instant) :
    IgnoresBank (closeAssignment id now) :=
  .guarded fun _ => .get_bind fun _ => (Mirrors.set _).bind fun _ => .pure _

theorem ignoresBank_saveAnswer (save : AnswerSave) :
    IgnoresBank (saveAnswer save) := by
  apply IgnoresBank.guarded
  intro bank
  apply Mirrors.get_bind
  intro store
  apply (IgnoresBank.ofExcept _ bank).bind
  intro row
  simp only [answers_withBank]
  cases store.answers.find? fun answer =>
    isAnswerTo row.attemptId row.questionId answer with
  | some answer =>
      refine (Mirrors.set _).bind fun _ => (Mirrors.pure _).bind fun saved => ?_
      cases saved.read? with
      | none => exact IgnoresBank.fail _ bank
      | some answer => exact Mirrors.pure answer
  | none =>
      apply (IgnoresBank.ensure _ _ bank).bind
      intro _
      refine (Mirrors.set _).bind fun _ =>
        (Mirrors.pure row).bind fun saved => ?_
      cases saved.read? with
      | none => exact IgnoresBank.fail _ bank
      | some answer => exact Mirrors.pure answer

theorem ignoresBank_answersOf (attemptId : String) :
    IgnoresBank (answersOf attemptId) :=
  .guarded (.readAll _ fun _ _ => rfl)

theorem ignoresBank_countAnswered (attemptId : String) :
    IgnoresBank (countAnswered attemptId) :=
  .guarded (.gets fun _ _ => rfl)

theorem withUnanswered_withBank {attemptId : String} {savedAt : Instant}
    {bank : Bank} {store : Store} (question : String × Decimal) :
    withUnanswered attemptId savedAt (store.withBank bank) question =
      (withUnanswered attemptId savedAt store question).withBank bank := by
  unfold withUnanswered
  rw [answers_withBank]
  split <;> rfl

theorem foldl_withUnanswered_withBank {attemptId : String} {savedAt : Instant}
    {bank : Bank} {store : Store} (rows : List (String × Decimal)) :
    rows.foldl (withUnanswered attemptId savedAt) (store.withBank bank) =
      (rows.foldl (withUnanswered attemptId savedAt) store).withBank bank := by
  induction rows generalizing store with
  | nil => rfl
  | cons row rest ih =>
      rw [List.foldl_cons, List.foldl_cons, withUnanswered_withBank]
      exact ih

theorem ignoresBank_insertUnanswered (attemptId : String)
    (questions : List (String × Decimal)) (savedAt : Instant) :
    IgnoresBank (insertUnanswered attemptId questions savedAt) := by
  apply IgnoresBank.guarded
  apply (IgnoresBank.ofExcept _).bind
  intro rows bank
  apply Mirrors.get_bind
  intro store
  apply (IgnoresBank.ensure _ _ bank).bind
  intro _
  rw [foldl_withUnanswered_withBank]
  exact .set _

theorem ignoresBank_updateAnswer (id : String)
    (change : SavedAnswer (Stored Answer) → SavedAnswer (Stored Answer)) :
    IgnoresBank (updateAnswer id change) :=
  fun _ _ => rfl

theorem ignoresBank_recordScore (id : String) (score : AnswerScore) :
    IgnoresBank (recordScore id score) :=
  .guarded ((IgnoresBank.ofExcept _).bind fun _ => .bind (.ofExcept _) fun _ =>
    ignoresBank_updateAnswer _ _)

theorem ignoresBank_attemptOfAnswer? (id : String) :
    IgnoresBank (attemptOfAnswer? id) :=
  .guarded (.gets fun _ _ => rfl)

theorem ignoresBank_answer? (id : String) : IgnoresBank (answer? id) :=
  .guarded ((IgnoresBank.readAll _ fun _ _ => rfl).bind fun _ => .pure _)

theorem ignoresBank_recordManualScore (id : String) (score : ManualScore) :
    IgnoresBank (recordManualScore id score) := by
  apply IgnoresBank.guarded
  apply (IgnoresBank.ofExcept _).bind
  intro earned
  apply (IgnoresBank.ofExcept _).bind
  intro gradedBy
  apply (ignoresBank_updateAnswer _ _).bind
  intro _
  apply (ignoresBank_answer? id).bind
  intro found
  cases found with
  | none => exact .fail _
  | some answer => exact .pure _

end Store

end ExamHall
