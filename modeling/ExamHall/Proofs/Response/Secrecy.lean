import ExamHall.Proofs.Api.Responding
import ExamHall.Proofs.Lists

/-!
# What students do not learn

Until an attempt has scores, what a student gets to see of it does not depend on
the keys of its questions, nor on what graders have written beside its answers.
Two attempts that differ in such secrets only look the same, whatever the
secrets are.
-/

namespace ExamHall

open ExamHall.Action

/-! ## Alike up to secrets -/

/-- Two payloads differ in their keys only. -/
inductive Payload.Alike : Payload → Payload → Prop where
  | singleChoice {options others : List ChoiceOption} (same : List.Forall₂
      (fun left right => left.id = right.id ∧ left.text = right.text) options
      others) : Payload.Alike (.singleChoice options) (.singleChoice others)
  | multiChoice {options others : List ChoiceOption} (same : List.Forall₂
      (fun left right => left.id = right.id ∧ left.text = right.text) options
      others) : Payload.Alike (.multiChoice options) (.multiChoice others)
  | trueFalse {key other : TruthKey} :
      Payload.Alike (.trueFalse key) (.trueFalse other)
  | matching {pairs others : List MatchingPair}
      (left : pairs.map (·.left) = others.map (·.left))
      (right : (pairs.map (·.right)).Perm (others.map (·.right))) :
      Payload.Alike (.matching pairs) (.matching others)
  | ordering {sequence other : List String} (perm : sequence.Perm other) :
      Payload.Alike (.ordering sequence) (.ordering other)
  | shortAnswer {reference other : Option String} :
      Payload.Alike (.shortAnswer reference) (.shortAnswer other)
  | essay {reference other : Option String} :
      Payload.Alike (.essay reference) (.essay other)
  | fillBlank {reference other : Option String} :
      Payload.Alike (.fillBlank reference) (.fillBlank other)

/-- Two questions differ in their keys only, and in what has been noted about
them when they were dealt. -/
structure VariantQuestion.Alike (question other : VariantQuestion) : Prop where
  questionId : question.questionId = other.questionId
  prompt : question.prompt = other.prompt
  points : question.points = other.points
  payload : Payload.Alike question.payload other.payload

/-- Two answers differ in their scores only, and in what graders have
written. -/
structure SavedAnswer.Alike {π : Type} (answer other : SavedAnswer π) :
    Prop where
  id : answer.id = other.id
  attemptId : answer.attemptId = other.attemptId
  questionId : answer.questionId = other.questionId
  value : answer.value = other.value
  maxPoints : answer.maxPoints = other.maxPoints
  timeSpentSeconds : answer.timeSpentSeconds = other.timeSpentSeconds
  bookmarked : answer.bookmarked = other.bookmarked
  savedAt : answer.savedAt = other.savedAt

/-- Two snapshots of an attempt differ in secrets of their questions and their
answers only. -/
structure AttemptSnapshot.Alike (snapshot other : AttemptSnapshot) : Prop where
  attempt : snapshot.attempt = other.attempt
  variant : { snapshot.variant with questions := other.variant.questions } =
    other.variant
  questions : List.Forall₂ VariantQuestion.Alike snapshot.variant.questions
    other.variant.questions
  answers : List.Forall₂ SavedAnswer.Alike snapshot.answers other.answers

/-- Two batches differ in secrets of their answers only. -/
structure BatchOutcome.Alike (outcome other : BatchOutcome) : Prop where
  saved : List.Forall₂ SavedAnswer.Alike outcome.saved other.saved
  failed : outcome.failed = other.failed

/-! ## Questions -/

/-- Texts in alphabetical order do not show in which order they were. -/
theorem alphabetical_eq_of_perm {texts others : List String}
    (perm : texts.Perm others) : alphabetical texts = alphabetical others :=
  @mergeSort_text_eq_of_perm _ id _ _ perm fun _ _ _ _ same => same

theorem ofOptions_eq_of_forall₂ {options others : List ChoiceOption}
    (same : List.Forall₂ (fun left right => left.id = right.id ∧
      left.text = right.text) options others) :
    QuestionContent.ofOptions options = QuestionContent.ofOptions others :=
  (map_eq_of_forall₂ same fun _ _ both => Prod.ext both.1.symm both.2.symm).symm

namespace Payload.Alike

variable {payload other : Payload}

theorem content (alike : Payload.Alike payload other) :
    QuestionContent.ofPayload payload = QuestionContent.ofPayload other := by
  cases alike with
  | singleChoice same | multiChoice same =>
      exact congrArg (QuestionContent.choices · _)
        (ofOptions_eq_of_forall₂ same)
  | matching left right =>
      exact congrArg₂ QuestionContent.matching left
        (alphabetical_eq_of_perm right)
  | ordering perm =>
      exact congrArg QuestionContent.ordering (alphabetical_eq_of_perm perm)
  | trueFalse | shortAnswer | essay | fillBlank => rfl

theorem type (alike : Payload.Alike payload other) :
    payload.type = other.type := by
  cases alike <;> rfl

end Payload.Alike

theorem VariantQuestion.Alike.studentView {question other : VariantQuestion}
    (alike : question.Alike other) (position : Nat) :
    question.studentView position = other.studentView position := by
  unfold VariantQuestion.studentView
  rw [alike.questionId, alike.prompt, alike.points, alike.payload.type,
    alike.payload.content]

theorem mapIdx_studentView {questions others : List VariantQuestion}
    (alike : List.Forall₂ VariantQuestion.Alike questions others) :
    questions.mapIdx VariantQuestion.studentView =
      others.mapIdx VariantQuestion.studentView := by
  refine List.ext_getElem ?_ fun position here there => ?_
  · rw [List.length_mapIdx, List.length_mapIdx, alike.length_eq]
  · rw [List.getElem_mapIdx, List.getElem_mapIdx]
    exact (alike.get (by simpa using here) (by simpa using there)).studentView
      position

/-! ## Answers -/

/-- An answer that is shown without its score does not show how it has been
graded. -/
theorem SavedAnswer.Alike.view {answer other : SavedAnswer Answer}
    (alike : answer.Alike other) : answer.view false = other.view false := by
  unfold SavedAnswer.view
  rw [alike.id, alike.questionId, alike.value, alike.timeSpentSeconds,
    alike.bookmarked, alike.savedAt, alike.maxPoints]
  rfl

theorem map_view {answers others : List (SavedAnswer Answer)}
    (alike : List.Forall₂ SavedAnswer.Alike answers others) :
    answers.map (·.view false) = others.map (·.view false) :=
  (map_eq_of_forall₂ alike fun _ _ same => same.view.symm).symm

theorem BatchOutcome.Alike.view {outcome other : BatchOutcome}
    (alike : outcome.Alike other) : outcome.view = other.view := by
  unfold BatchOutcome.view
  rw [alike.failed, alike.saved.length_eq, map_view alike.saved]

/-- Until an attempt has scores, it is shown without secrets. -/
theorem AttemptSnapshot.Alike.view {snapshot other : AttemptSnapshot}
    (alike : snapshot.Alike other)
    (unscored : snapshot.attempt.status.isScored = false) (now : Instant)
    (resumed : Option Bool) :
    snapshot.view now resumed = other.view now resumed := by
  have label : snapshot.variant.label = other.variant.label :=
    congrArg (·.label) alike.variant
  unfold AttemptSnapshot.view
  rw [← alike.attempt, unscored, label, mapIdx_studentView alike.questions,
    map_view alike.answers]

/-! ## Replies -/

namespace Handle

variable {context : Context} {world : World} {request : HttpRequest}
  {caller : Caller}

/-- What is shown of a value is the reply of the operation that ends with it. -/
theorem reply_of_ok {ε α : Type} {operation : Action ε α} {report : ε → Refusal}
    {value : α} {next : α → Action Refusal Json} {json : Json}
    (ended : (operation context world).1 = .ok value)
    (shows : ∀ world, (next value context world).1 = .ok json) :
    ((operation.mapError report >>= next) context world).1 = .ok json := by
  rw [bind_apply]
  unfold mapError
  generalize operation context world = result at ended
  obtain ⟨_, after⟩ := result
  obtain rfl := ended
  exact shows after

/-- The reply to a known caller is that of what is done for the caller. -/
theorem reply_of_known {next : Caller → Action Refusal Json} {json : Json}
    (known : Access.caller? context.settings context.now request =
      some (.ok caller)) (replies : (next caller context world).1 = .ok json) :
    ((Handle.caller request >>= next) context world).1 = .ok json := by
  rw [bind_apply_of_ok (caller_eq_ok known)]
  exact replies

/-- The reply to what a request brings is that of what is done with it. -/
theorem reply_of_taken {α : Type} {form : Json.Form α}
    {faults : α → List RangeFault} {value : α} {next : α → Action Refusal Json}
    {json : Json} (taken : taken? request form faults = some value)
    (replies : (next value context world).1 = .ok json) :
    ((bounded request form faults >>= next) context world).1 = .ok json := by
  rw [bind_apply_of_ok (bounded_of_taken taken world)]
  exact replies

end Handle

/-- Until an attempt has scores, nothing that a student gets to see depends on a
secret: not what is shown of an attempt when it is started, resumed or asked
for, and neither what is shown of saved answers. -/
theorem replies_hide_secrets {snapshot other : AttemptSnapshot}
    (alike : snapshot.Alike other)
    (unscored : snapshot.attempt.status = .inProgress ∨
      snapshot.attempt.status = .submitted) :
    (∀ now resumed, snapshot.view now resumed = other.view now resumed) ∧
    ∀ (context : Context) (request : HttpRequest) (caller : Caller)
      (world : World),
      Access.caller? context.settings context.now request = some (.ok caller) →
      (∀ attemptId,
        (Exam.view caller attemptId context world).1 = .ok snapshot →
        (Handle.showAttempt request attemptId context world).1 =
          .ok (other.view context.now none)) ∧
      (∀ assignmentId resumed,
        (Exam.start caller assignmentId (Handle.accessCode request) context
          world).1 = .ok (snapshot, resumed) →
        (Handle.startAttempt request assignmentId context world).1 =
          .ok (other.view context.now (some resumed))) ∧
      (∀ saved hidden : SavedAnswer Answer, saved.Alike hidden →
        ∀ attemptId questionId input,
          Handle.taken? request (AnswerInput.form questionId)
            AnswerInput.faults = some input →
          (Exam.save caller attemptId input context world).1 = .ok saved →
          (Handle.saveAnswer request attemptId questionId context world).1 =
            .ok (hidden.view false)) ∧
      ∀ outcome hidden : BatchOutcome, outcome.Alike hidden →
        ∀ attemptId inputs,
          Handle.taken? request AnswerInput.batchForm AnswerInput.batchFaults =
            some inputs →
          (Exam.saveBatch caller attemptId inputs context world).1 =
            .ok outcome →
          (Handle.saveAnswers request attemptId context world).1 =
            .ok hidden.view := by
  have hides : ∀ now resumed,
      snapshot.view now resumed = other.view now resumed := by
    refine alike.view ?_
    rcases unscored with running | submitted
    · rw [running]; rfl
    · rw [submitted]; rfl
  refine ⟨hides, fun context request caller world known => ⟨?_, ?_, ?_, ?_⟩⟩
  · intro attemptId ended
    exact Handle.reply_of_known known (Handle.reply_of_ok ended fun _ =>
        congrArg Except.ok (hides context.now none))
  · intro assignmentId resumed ended
    exact Handle.reply_of_known known (Handle.reply_of_ok ended fun _ =>
        congrArg Except.ok (hides context.now (some resumed)))
  · intro saved hidden same attemptId questionId input taken ended
    exact Handle.reply_of_known known (Handle.reply_of_taken taken
      (Handle.reply_of_ok ended fun _ => congrArg Except.ok same.view))
  · intro outcome hidden same attemptId inputs taken ended
    exact Handle.reply_of_known known (Handle.reply_of_taken taken
      (Handle.reply_of_ok ended fun _ => congrArg Except.ok same.view))

/-! ## Two keys of one test -/

/-- A question with a payload. -/
def questionAsking (payload : Payload) : VariantQuestion :=
  ⟨"q", 1, "P", .easy, .one, payload, none, ""⟩

/-- An answer that has got a score, or has not got one yet. -/
def answerScored (score : Option Decimal) : SavedAnswer Answer where
  id := "answer-1"
  attemptId := "attempt-1"
  questionId := "q"
  value := some (.choice "x")
  isCorrect := score.isSome
  isPartial := false
  needsManual := score.isNone
  earnedPoints := score.getD .zero
  maxPoints := .one
  timeSpentSeconds := some 5
  bookmarked := true
  feedback := score.map fun _ => "F"
  gradedBy := score.map fun _ => "o"
  savedAt := Column.origin
  gradedAt := score.map fun _ => Column.origin

theorem answerScored_alike {score other : Option Decimal} :
    (answerScored score).Alike (answerScored other) :=
  ⟨rfl, rfl, rfl, rfl, rfl, rfl, rfl, rfl⟩

/-- An attempt in progress on a test with some questions, one of which is
answered. -/
def snapshotAsking (payloads : List Payload) (score : Option Decimal) :
    AttemptSnapshot where
  attempt :=
    { id := "attempt-1", assignmentId := "a", studentId := "s", number := 1
      variantId := "v", variantIndex := 0, status := .inProgress
      startedAt := Column.origin, deadlineAt := Column.origin,
      submittedAt := none
      gradedAt := none, rawScore := none, maxScore := .one, percentage := none
      violationCount := 0, flagged := false, flagReason := none
      createdAt := Column.origin, updatedAt := Column.origin }
  variant := ⟨"v", "t", "A", 0, payloads.map questionAsking, Column.origin⟩
  answers := [answerScored score]

/-- A test with an answer, and the same test with other keys and with the answer
scored, look the same until scores are shown. -/
theorem other_keys_look_the_same :
    let snapshot :=
      snapshotAsking [.singleChoice [⟨"x", "X", true⟩, ⟨"y", "Y", false⟩],
        .trueFalse (.bool true), .matching [⟨"l", "m"⟩, ⟨"n", "o"⟩],
        .ordering ["e", "f", "g"], .essay (some "R")] none
    let other :=
      snapshotAsking [.singleChoice [⟨"x", "X", false⟩, ⟨"y", "Y", true⟩],
        .trueFalse (.text "false"), .matching [⟨"l", "o"⟩, ⟨"n", "m"⟩],
        .ordering ["g", "f", "e"], .essay none] (some .one)
    snapshot.Alike other ∧ snapshot.attempt.status = .inProgress ∧
      snapshot.answers.map (·.view true) ≠ other.answers.map (·.view true) ∧
      ∀ now resumed, snapshot.view now resumed = other.view now resumed := by
  intro snapshot other
  have same : ∀ {payload payload' : Payload}, Payload.Alike payload payload' →
      (questionAsking payload).Alike (questionAsking payload') :=
    fun alike => ⟨rfl, rfl, rfl, alike⟩
  have alike : snapshot.Alike other := by
    refine ⟨rfl, rfl, ?_, .cons answerScored_alike .nil⟩
    refine .cons
      (same (.singleChoice (.cons ⟨rfl, rfl⟩ (.cons ⟨rfl, rfl⟩ .nil)))) <|
      .cons (same .trueFalse) <| .cons (same (.matching rfl (.swap _ _ _))) <|
      .cons (same (.ordering ?_)) <| .cons (same .essay) .nil
    decide
  refine ⟨alike, rfl, fun shown => ?_,
    (replies_hide_secrets alike (.inl rfl)).1⟩
  exact absurd (congrArg (List.map Json.render) shown) (by decide +kernel)

end ExamHall
