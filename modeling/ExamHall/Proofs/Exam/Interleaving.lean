import ExamHall.Proofs.Exam.Answering
import ExamHall.Proofs.Exam.Reviewing
import ExamHall.Proofs.Exam.Settling

/-!
# Interleaved operations on one attempt

Operations that act on an attempt at the same time are cut at the boundaries of
their transactions, and the pieces follow each other in any order.  Each piece
is an atomic step.  A history lists what the steps have returned of the attempt,
and the stores around them.
-/

namespace ExamHall

open Store

/-- The time that a write at a time submits an attempt at, if it does: the
deadline if that has passed. -/
def Attempt.closingTime (attempt : Attempt) (now : Instant) : Instant :=
  if isExpired attempt.deadlineAt now then attempt.deadlineAt else now

namespace Exam

/-- A piece of an operation on an attempt that nothing comes between. -/
inductive AtomicStep where
  | submit (submittedAt now : Instant)
  | grade (now : Instant)
  | save (caller : Caller) (now : Instant) (input : AnswerInput)
  | saveBatch (caller : Caller) (now : Instant) (inputs : List AnswerInput)
  | violation (caller : Caller) (now : Instant)
  | review (reviewer : Caller) (answerId : String) (review : Review)
      (now : Instant)

/-- What a step has returned of an attempt: the result of submitting it and the
result of grading it, each of them only if the step came to do so. -/
structure Returned where
  submission : Option (Option Attempt)
  grading : Option (Option Attempt)

/-- A write that comes too late submits, and one in time does if its work
does. -/
def Entry.returned {α : Type} (submission : α → Option (Option Attempt)) :
    Entry α → Returned
  | .inTime value => ⟨submission value, none⟩
  | .late submitted => ⟨some submitted, none⟩

/-- What a violation that submits the attempt has got for it. -/
def Violation.submission (violation : Violation) : Option (Option Attempt) :=
  if violation.escalation = .autoSubmit then some violation.submitted else none

namespace AtomicStep

/-- The transaction of a step on the attempt with an id.  A reviewer's step
looks up the attempt of the answer; that answers stay with their attempts makes
it no matter when. -/
def run (id : String) : AtomicStep → Transaction AttemptError Returned
  | .submit submittedAt now => do
    let submitted ← markSubmitted id submittedAt now
    pure ⟨some submitted, none⟩
  | .grade now => do
    let graded ← gradeTransaction id now
    pure ⟨none, some (graded.map (·.1))⟩
  | .save caller now input =>
    Entry.returned (fun _ => none) <$> saveTransaction caller id now input
  | .saveBatch caller now inputs =>
    Entry.returned (fun _ => none) <$> batchTransaction caller id now inputs
  | .violation caller now =>
    Entry.returned Violation.submission <$> violationTransaction caller id now
  | .review reviewer answerId score now => do
    let attemptId ←
      Transaction.demand (← attemptOfAnswer? answerId) .unknownAnswer
    let _ ← reviewTransaction reviewer attemptId answerId score now
    pure ⟨none, none⟩

/-- Whether a step is a write of the student. -/
def isWrite : AtomicStep → Bool
  | .save .. | .saveBatch .. | .violation .. => true
  | .submit .. | .grade _ | .review .. => false

/-- Whether a step only submits the attempt or only grades it. -/
def isCompletion : AtomicStep → Bool
  | .submit .. | .grade _ => true
  | .save .. | .saveBatch .. | .violation .. | .review .. => false

/-- The time that an attempt is submitted at when the step submits it. -/
def closingTime? (attempt : Attempt) : AtomicStep → Option Instant
  | .submit submittedAt _ => some submittedAt
  | .save _ now _ | .saveBatch _ now _ | .violation _ now =>
      some (attempt.closingTime now)
  | .grade _ | .review .. => none

end AtomicStep

/-- One step on an attempt, with its result and the stores before and after
it. -/
structure Event where
  step : AtomicStep
  result : Except (Halt AttemptError) Returned
  before : Store
  after : Store

/-- Taking a step on a store; a step that halts is undone. -/
def AtomicStep.event (id : String) (store : Store)
    (step : AtomicStep) : Event :=
  match step.run id store with
  | .ok (returned, after) => ⟨step, .ok returned, store, after⟩
  | .error halt => ⟨step, .error halt, store, store⟩

/-- What happens when steps on the attempt with an id are taken one after
another. -/
def history (id : String) : Store → List AtomicStep → List Event
  | _, [] => []
  | store, step :: rest =>
    let event := step.event id store
    event :: history id event.after rest

/-! ## What an event does -/

/-- The row of an attempt that has been submitted as of a time. -/
structure IsSubmittedRow (id : String) (time : Instant) (store : Store)
    (row : Attempt) : Prop where
  listed : row ∈ store.attempts
  id : row.id = id
  status : row.status = .submitted
  submittedAt : row.submittedAt = some (Column.time time)

namespace Event

/-- The event leaves an attempt in progress: it has not come to submit it, and
has found nothing to grade. -/
structure KeepsOpen (id : String) (event : Event) : Prop where
  running : ∃ attempt ∈ event.after.attempts, attempt.id = id ∧
    attempt.status = .inProgress
  unsubmitted : ∀ returned, event.result = .ok returned →
    returned.submission = none
  ungraded : ∀ returned found, event.result = .ok returned →
    returned.grading = some found → found = none ∧ event.after = event.before
  undone : ∀ halt, event.result = .error halt → event.after = event.before

/-- The event submits an attempt that was in progress, and returns its row. -/
structure Closes (row : Attempt) (event : Event) : Prop where
  returned : ∃ returned, event.result = .ok returned ∧
    returned.submission = some (some row) ∧ returned.grading = none
  submitted : ∃ attempt ∈ event.before.attempts, attempt.status = .inProgress ∧
    ∃ time, event.step.closingTime? attempt = some time ∧
      IsSubmittedRow attempt.id time event.after row

/-- The event cannot write into an attempt or submit it again. -/
structure FindsClosed (event : Event) : Prop where
  resubmitted : ∀ returned found, event.result = .ok returned →
    returned.submission = some found → found = none ∧ event.after = event.before
  refused : event.step.isWrite = true →
    ∃ error, event.result = .error (.refused error)
  undone : ∀ halt, event.result = .error halt → event.after = event.before

/-- The event leaves the row of a submitted attempt as it is, and has not graded
it. -/
structure Waits (row : Attempt) (event : Event) :
    Prop extends event.FindsClosed where
  kept : row ∈ event.after.attempts
  ungraded : ∀ returned, event.result = .ok returned → returned.grading = none

/-- The event stores the automatic scores of a submitted attempt. -/
def Grades (row : Attempt) (event : Event) : Prop :=
  ∃ now graded, event.step = .grade now ∧
    event.result = .ok ⟨none, some (some graded)⟩ ∧
    GradesInto now event.before row graded event.after

/-- The event leaves an attempt scored and submitted when it was, and has found
nothing to grade. -/
structure Rests (row : Attempt) (event : Event) :
    Prop extends event.FindsClosed where
  kept : ∃ attempt ∈ event.after.attempts, attempt.id = row.id ∧
    attempt.submittedAt = row.submittedAt ∧ attempt.status.isScored = true
  regraded : ∀ returned found, event.result = .ok returned →
    returned.grading = some found → found = none ∧ event.after = event.before

end Event

/-- The events of a submitted attempt, of which one at most grades it. -/
inductive GradesOnce (row : Attempt) : List Event → Prop where
  | never {events : List Event} (waits : ∀ event ∈ events, event.Waits row) :
      GradesOnce row events
  | once {waiting : List Event} {grading : Event} {later : List Event}
      (waits : ∀ event ∈ waiting, event.Waits row) (grades : grading.Grades row)
      (rests : ∀ event ∈ later, event.Rests row) :
      GradesOnce row (waiting ++ grading :: later)

/-- The events of an attempt in progress, of which one at most submits it. -/
inductive ClosesOnce (id : String) : List Event → Prop where
  | never {events : List Event} (opens : ∀ event ∈ events, event.KeepsOpen id) :
      ClosesOnce id events
  | once {opening : List Event} {closing : Event} {later : List Event}
      {row : Attempt} (opens : ∀ event ∈ opening, event.KeepsOpen id)
      (same : row.id = id) (closes : closing.Closes row)
      (grades : GradesOnce row later) :
      ClosesOnce id (opening ++ closing :: later)

theorem GradesOnce.cons {row : Attempt} {event : Event} {events : List Event}
    (waits : event.Waits row) (later : GradesOnce row events) :
    GradesOnce row (event :: events) := by
  cases later with
  | never others => exact .never (List.forall_mem_cons.mpr ⟨waits, others⟩)
  | @once waiting _ _ others grades rests =>
      exact @GradesOnce.once _ (event :: waiting) _ _
        (List.forall_mem_cons.mpr ⟨waits, others⟩) grades rests

theorem ClosesOnce.cons {id : String} {event : Event} {events : List Event}
    (opens : event.KeepsOpen id) (later : ClosesOnce id events) :
    ClosesOnce id (event :: events) := by
  cases later with
  | never others => exact .never (List.forall_mem_cons.mpr ⟨opens, others⟩)
  | @once opening _ _ _ others same closes grades =>
      exact @ClosesOnce.once _ (event :: opening) _ _ _
        (List.forall_mem_cons.mpr ⟨opens, others⟩) same closes grades

/-! ## Events and transactions -/

variable {id : String} {store after : Store} {step : AtomicStep}

theorem event_of_ok {returned : Returned}
    (ended : step.run id store = .ok (returned, after)) :
    step.event id store = ⟨step, .ok returned, store, after⟩ := by
  unfold AtomicStep.event
  rw [ended]

theorem event_of_error {halt : Halt AttemptError}
    (failed : step.run id store = .error halt) :
    step.event id store = ⟨step, .error halt, store, store⟩ := by
  unfold AtomicStep.event
  rw [failed]

/-- A submission as of any time keeps a store lawful and reliable. -/
theorem lawful_markSubmitted (lawful : store.Lawful)
    (submittedAt now : Instant) :
    Store.Lawful { store with
      attempts := updateWhere (hasStatus id .inProgress)
        (Store.submitted submittedAt now) store.attempts } := by
  refine ⟨lawful.bank, lawful.tests, lawful.assignments,
    lawful.sittings.updateAttempts (.submitted _ now) ?_⟩
  intro attempt _ runs
  cases runs

theorem reliable_markSubmitted (reliable : store.IsReliable)
    (submittedAt now : Instant) :
    Store.IsReliable { store with
      attempts := updateWhere (hasStatus id .inProgress)
        (Store.submitted submittedAt now) store.attempts } :=
  ⟨lawful_markSubmitted reliable.lawful submittedAt now, reliable.reach,
    reliable.papers, keepsSheets_updateWhere reliable.sheets (.submitted _ now)
      (fun _ => rfl) fun _ scored => (Bool.false_ne_true scored).elim⟩

theorem reviewStep_reviewsInto {reviewer : Caller} {answerId : String}
    {review : Review} {now : Instant} {returned : Returned}
    (lawful : store.Lawful)
    (ended : (AtomicStep.review reviewer answerId review now).run id store =
      .ok (returned, after)) :
    returned = ⟨none, none⟩ ∧
    ∃ attempt, ReviewsInto now store attempt after := by
  simp only [AtomicStep.run, bind_eq_ok, Transaction.lift_eq_ok,
    Transaction.demand_eq_ok, attemptOfAnswer?_eq_ok, pure_eq_ok] at ended
  obtain ⟨_, _, ⟨-, -, rfl, rfl⟩, attemptId, _, ⟨linked, rfl⟩, _, _, reviewed,
    rfl, rfl⟩ := ended
  exact ⟨rfl,
    (reviewTransaction_reviewsInto lawful linked reviewed).imp fun _ =>
      And.left⟩

/-- Every step keeps a store lawful, and reliable if it was. -/
theorem run_keeps {returned : Returned} (lawful : store.Lawful)
    (ended : step.run id store = .ok (returned, after)) :
    after.Lawful ∧ (store.IsReliable → after.IsReliable) := by
  have of_reaches : ∀ {now}, Reaches now store after →
      after.Lawful ∧ (store.IsReliable → after.IsReliable) :=
    fun reached => ⟨reached.lawful lawful, reached.reliable⟩
  cases step with
  | submit submittedAt now =>
      simp only [AtomicStep.run, bind_eq_ok, Transaction.lift_eq_ok,
        markSubmitted_eq_ok, pure_eq_ok] at ended
      obtain ⟨_, _, ⟨-, -, -, rfl⟩, -, rfl⟩ := ended
      exact ⟨lawful_markSubmitted lawful submittedAt now,
        fun reliable => reliable_markSubmitted reliable submittedAt now⟩
  | grade now =>
      simp only [AtomicStep.run, bind_eq_ok, pure_eq_ok] at ended
      obtain ⟨_, _, graded, -, rfl⟩ := ended
      rcases gradeTransaction_gradesInto lawful graded with ⟨-, rfl, -⟩
        | ⟨_, _, _, -, -, into⟩
      · exact @of_reaches now .refl
      · exact of_reaches (.single into.change)
  | save caller now input =>
      obtain ⟨_, saved, -⟩ := map_eq_ok.mp ended
      exact of_reaches (saveTransaction_handsOver lawful saved).reached
  | saveBatch caller now inputs =>
      obtain ⟨_, saved, -⟩ := map_eq_ok.mp ended
      exact of_reaches (batchTransaction_handsOver lawful saved).reached
  | violation caller now =>
      obtain ⟨_, reported, -⟩ := map_eq_ok.mp ended
      exact of_reaches
        (violationTransaction_handsOver lawful reported).1.reached
  | review reviewer answerId review now =>
      obtain ⟨-, _, into⟩ := reviewStep_reviewsInto lawful ended
      exact of_reaches into.handsOver.reached

theorem event_keeps (lawful : store.Lawful) (id : String) (step : AtomicStep) :
    (step.event id store).after.Lawful ∧
      (store.IsReliable → (step.event id store).after.IsReliable) := by
  cases ended : step.run id store with
  | error halt =>
      rw [event_of_error ended]
      exact ⟨lawful, fun reliable => reliable⟩
  | ok result =>
      obtain ⟨returned, after⟩ := result
      rw [event_of_ok ended]
      exact run_keeps lawful ended

/-- Where nothing stands in the way, submissions and gradings end well. -/
theorem exists_run_of_reliable (reliable : store.IsReliable)
    (plain : Column.hasNul id = false) (completion : step.isCompletion = true) :
    ∃ returned after, step.run id store = .ok (returned, after) := by
  cases step with
  | submit submittedAt now =>
      obtain ⟨found, after, marked⟩ : ∃ found after,
          markSubmitted id submittedAt now store = .ok (found, after) :=
        ⟨_, _, markSubmitted_eq_ok.mpr ⟨plain,
          canReach_of_noOutages reliable.reach _, rfl, rfl⟩⟩
      exact ⟨_, _, bind_of_ok (Transaction.lift_eq_ok.mpr marked)⟩
  | grade now =>
      obtain ⟨result, after, graded⟩ :=
        @exists_gradeTransaction_of_reliable now _ reliable _ plain
      exact ⟨_, _, bind_of_ok graded⟩
  | save | saveBatch | violation | review => cases completion

theorem history_completes (reliable : store.IsReliable)
    (plain : Column.hasNul id = false) (steps : List AtomicStep) :
    ∀ event ∈ history id store steps, event.step.isCompletion = true →
      ∃ returned, event.result = .ok returned := by
  induction steps generalizing store with
  | nil => exact List.forall_mem_nil _
  | cons step rest ih =>
      refine List.forall_mem_cons.mpr ⟨fun completion => ?_, ?_⟩
      · have sameStep : (step.event id store).step = step := by
          cases ended : step.run id store with
          | error halt => rw [event_of_error ended]
          | ok result => rw [event_of_ok ended]
        rw [sameStep] at completion
        obtain ⟨returned, after, ended⟩ :=
          exists_run_of_reliable reliable plain completion
        rw [event_of_ok ended]
        exact ⟨returned, rfl⟩
      · exact ih ((event_keeps reliable.lawful id step).2 reliable)

end Exam

end ExamHall
