import ExamHall.Exam.Grading

/-!
# Working on an attempt

Saving answers and reporting violations change only attempts of the caller that
are in progress and before their deadline. A change that comes later submits the
attempt at its deadline instead and is refused. An attempt that is submitted
stays as it is.
-/

namespace ExamHall.Exam

open Store

/-- What a transaction on an attempt in progress ends with: its result, or that
it came after the deadline, with the attempt if the transaction itself has
submitted it. -/
inductive Entry (α : Type) where
  | inTime (value : α)
  | late (submitted : Option Attempt)

/-- Runs a transaction on an attempt of the caller that is in progress and
before its deadline. -/
def whileOpen {α : Type} (caller : Caller) (attemptId : String) (now : Instant)
    (work : Attempt → Transaction AttemptError α) :
    Transaction AttemptError (Entry α) := do
  let attempt ← Transaction.demand (← attempt? attemptId) .unknownAttempt
  Transaction.require (attempt.studentId == caller.id) .foreignAttempt
  Transaction.require (decide (attempt.status = .inProgress))
    (.notInProgress attempt.status)
  if isExpired attempt.deadlineAt now then
    pure (.late (← markSubmitted attempt.id attempt.deadlineAt now))
  else
    pure (.inTime (← work attempt))

/-- The result of a transaction that came in time. A late one completes the
attempt that it submitted, and is refused. -/
def settleEntry {α : Type} (entry : Entry α) : Action AttemptError α := do
  match entry with
  | .inTime value => pure value
  | .late submitted => do
    match submitted with
    | some submitted => let _ ← complete submitted
    | none => pure ()
    Action.refuse .timeExpired

/-- Saves one answer of an attempt. -/
def saveOne (attempt : Attempt) (variant : Variant (List VariantQuestion))
    (now : Instant) (input : AnswerInput) :
    Transaction AttemptError (SavedAnswer Answer) := do
  let question ← Transaction.demand (variant.question? input.questionId)
    (.foreignQuestion input.questionId)
  Transaction.require (input.timeSpentSeconds.all fun seconds =>
      decide (0 ≤ seconds)) .negativeTime
  let value ← match Answer.ofClient? question.payload.type input.value with
    | .ok value => pure value
    | .error error => Transaction.refuse (.answerShape error)
  saveAnswer
    { attemptId := attempt.id
      questionId := question.questionId
      value
      maxPoints := question.points
      timeSpentSeconds := input.timeSpentSeconds
      bookmarked := input.bookmarked
      savedAt := now }

/-- A result together with the attempt and the variant that it belongs to. -/
structure Worked (α : Type) where
  attempt : Attempt
  variant : Variant (List VariantQuestion)
  value : α

/-- The transaction of a single save. -/
def saveTransaction (caller : Caller) (attemptId : String) (now : Instant)
    (input : AnswerInput) :
    Transaction AttemptError (Entry (Worked (SavedAnswer Answer))) :=
  whileOpen caller attemptId now fun attempt => do
    let variant ← variant attempt.variantId
    let saved ← saveOne attempt variant now input
    pure ⟨attempt, variant, saved⟩

/-- Saves one answer. -/
def save (caller : Caller) (attemptId : String) (input : AnswerInput) :
    Action AttemptError (SavedAnswer Answer) := do
  let entry ←
    Action.commit (saveTransaction caller attemptId (← read).now input)
  let worked ← settleEntry entry
  notify .answerSaved worked.attempt worked.variant
  pure worked.value

/-- The batch outcome with the result of one more entry at its front. -/
def withEntry (input : AnswerInput)
    (result : Except AttemptError (SavedAnswer Answer))
    (outcome : BatchOutcome) : BatchOutcome :=
  match result with
  | .ok saved => { outcome with saved := saved :: outcome.saved }
  | .error error =>
    { outcome with
        failed := ⟨input.questionId, error.message⟩ :: outcome.failed }

/-- Saves several answers; an entry that is refused leaves the others alone. -/
def saveEach (attempt : Attempt) (variant : Variant (List VariantQuestion))
    (now : Instant) : List AnswerInput → Transaction AttemptError BatchOutcome
  | [] => pure ⟨[], []⟩
  | input :: rest => do
    let result ← Transaction.attempt (saveOne attempt variant now input)
    let outcome ← saveEach attempt variant now rest
    pure (withEntry input result outcome)

/-- The transaction of a batch of saves. -/
def batchTransaction (caller : Caller) (attemptId : String) (now : Instant)
    (inputs : List AnswerInput) :
    Transaction AttemptError (Entry (Worked BatchOutcome)) :=
  whileOpen caller attemptId now fun attempt => do
    let variant ← variant attempt.variantId
    let outcome ← saveEach attempt variant now inputs
    pure ⟨attempt, variant, outcome⟩

/-- Saves a batch of answers. -/
def saveBatch (caller : Caller) (attemptId : String)
    (inputs : List AnswerInput) : Action AttemptError BatchOutcome := do
  let entry ←
    Action.commit (batchTransaction caller attemptId (← read).now inputs)
  let worked ← settleEntry entry
  if worked.value.saved.isEmpty then pure ()
  else notify .answerSaved worked.attempt worked.variant
  pure worked.value

/-- What a violation has changed: the attempt as it is to be shown, and the
attempt as submitted if the violation submitted it. -/
structure Violation where
  attempt : Attempt
  escalation : Escalation
  submitted : Option Attempt

/-- Does what a counted violation leads to. -/
def escalate (counted : Attempt) (assignment : Assignment) (now : Instant) :
    Transaction AttemptError Violation := do
  let threshold := assignment.tabSwitchThreshold
  let reason := flagReason counted.violationCount threshold
  match escalation counted.violationCount threshold assignment.tabSwitchAction
      with
  | .none => pure ⟨counted, .none, none⟩
  | .warn => pure ⟨counted, .warn, none⟩
  | .flag => do
    let flagged ← flag counted.id reason now
    pure ⟨flagged.getD counted, .flag, none⟩
  | .autoSubmit => do
    let _ ← flag counted.id reason now
    let submitted ← markSubmitted counted.id now now
    pure ⟨counted, .autoSubmit, submitted⟩

/-- The transaction of a violation. -/
def violationTransaction (caller : Caller) (attemptId : String)
    (now : Instant) : Transaction AttemptError (Entry Violation) :=
  whileOpen caller attemptId now fun attempt => do
    let assignment ← assignment attempt.assignmentId
    let counted ← Transaction.demand (← countViolation attempt.id now)
      .noLongerInProgress
    escalate counted assignment now

/-- Reports that a student left the exam window. -/
def reportViolation (caller : Caller) (attemptId : String) :
    Action AttemptError ViolationOutcome := do
  let entry ← Action.commit (violationTransaction caller attemptId (← read).now)
  let violation ← settleEntry entry
  let variant ← Action.query (variant violation.attempt.variantId)
  match violation.submitted with
  | none => do
    notify .violation violation.attempt variant
    pure ⟨violation.attempt, violation.escalation⟩
  | some submitted => do
    notify .violation submitted variant
    pure ⟨← complete submitted, violation.escalation⟩

/-- Submits an attempt of the caller, at the latest at its deadline. -/
def submit (caller : Caller) (attemptId : String) :
    Action AttemptError Attempt := do
  let attempt ←
    Action.demand (← Action.query (attempt? attemptId)) .unknownAttempt
  Action.require (attempt.studentId == caller.id) .foreignAttempt
  Action.require (decide (attempt.status = .inProgress))
    (.notInProgress attempt.status)
  let now := (← read).now
  let submittedAt :=
    if isExpired attempt.deadlineAt now then attempt.deadlineAt else now
  Action.demand (← finalize attempt.id submittedAt) .alreadySubmitted

end ExamHall.Exam
