import ExamHall.Exam.Answering
import ExamHall.Proofs.Attempt.Frame
import ExamHall.Proofs.Exam.Marking

/-!
# Accepted saves

A save is accepted for a question of the variant, with a time that is not
negative and a value of the question's type.  It then writes the row of its
question: the first save adds the row, and every later one replaces the value
and the bookmark, and the time if it brings one.  The entries of a batch are
accepted one by one, each on what those before it have left.
-/

namespace ExamHall

open Store

/-- A save that has been accepted: the attempt, what the student has sent, and
the answer as it was given back. -/
structure AcceptedSave where
  attemptId : String
  input : AnswerInput
  answer : SavedAnswer Answer

/-- A row that an accepted save makes. -/
structure AcceptedSave.Makes (now : Instant) (store : Store) (attempt : Attempt)
    (questions : List VariantQuestion) (save : AcceptedSave)
    (row : SavedAnswer (Stored Answer)) : Prop where
  saves : Saves now store attempt row
  attemptId : save.attemptId = attempt.id
  question : ∃ question ∈ questions,
    question.questionId = save.input.questionId ∧
    Column.id question.questionId = .ok row.questionId ∧ ∃ value,
      Answer.ofClient? question.payload.type save.input.value = .ok value ∧
      row.read?.map (·.value) = some value
  timeSpentSeconds : row.timeSpentSeconds = save.input.timeSpentSeconds
  bookmarked : row.bookmarked = save.input.bookmarked

/-- What an accepted save leaves: its row behind all others, or the row that the
question had already, written anew. The answer is given back as that row reads
since then. -/
inductive AcceptedSave.Writes (now : Instant) (store : Store)
    (attempt : Attempt) (questions : List VariantQuestion)
    (save : AcceptedSave) : Store → Prop where
  | first {row : SavedAnswer (Stored Answer)}
      {issued : Issued} (makes : save.Makes now store attempt questions row)
      (none : ∀ other ∈ store.answers,
        isAnswerTo row.attemptId row.questionId other = false)
      (read : row.read? = some save.answer) :
      AcceptedSave.Writes now store attempt questions save
        { store with answers := store.answers ++ [row], issued }
  | again {row old : SavedAnswer (Stored Answer)}
      (makes : save.Makes now store attempt questions row)
      (listed : old ∈ store.answers)
      (same : isAnswerTo row.attemptId row.questionId old = true)
      (read : (resaved row old).read? = some save.answer) :
      AcceptedSave.Writes now store attempt questions save
        { store with
          answers := updateWhere (isAnswerTo row.attemptId row.questionId)
            (resaved row) store.answers }

/-- What a list of accepted saves leaves, one after another. -/
inductive WritesEach (now : Instant) (attempt : Attempt)
    (questions : List VariantQuestion) :
    List AcceptedSave → Store → Store → Prop where
  | nil {store : Store} : WritesEach now attempt questions [] store store
  | cons {save : AcceptedSave} {rest : List AcceptedSave}
      {before middle after : Store}
      (here : save.Writes now before attempt questions middle)
      (later : WritesEach now attempt questions rest middle after) :
      WritesEach now attempt questions (save :: rest) before after

variable {now : Instant} {before middle after : Store} {attempt : Attempt}
  {questions : List VariantQuestion} {save : AcceptedSave}

namespace AcceptedSave.Writes

theorem change (writes : save.Writes now before attempt questions after) :
    Change now before after := by
  cases writes with
  | first makes none => exact .saved makes.saves none
  | again makes => exact .resaved makes.saves

theorem answersOnly (writes : save.Writes now before attempt questions after) :
    ∃ answers issued, after = { before with answers, issued } := by
  cases writes with
  | first => exact ⟨_, _, rfl⟩
  | again => exact ⟨_, _, rfl⟩

theorem touches (writes : save.Writes now before attempt questions after) :
    Touches attempt.id before after := by
  cases writes with
  | @first row issued makes =>
      refine ⟨.refl _,
        .append _ (List.forall_mem_singleton.mpr makes.saves.attemptId),
        issued, rfl⟩
  | @again row old makes =>
      refine ⟨.refl _, .updateWhere fun other _ selected => ?_,
        before.issued, rfl⟩
      rw [isAnswerTo, Bool.and_eq_true, beq_iff_eq, makes.saves.attemptId]
        at selected
      exact ⟨selected.1, rfl⟩

end AcceptedSave.Writes

theorem WritesEach.touches {saves : List AcceptedSave}
    (writes : WritesEach now attempt questions saves before after) :
    Touches attempt.id before after := by
  induction writes with
  | nil => exact .refl _
  | cons here _ ih => exact here.touches.trans ih

/-- A row whose value has been written can be read, and reads as that value. -/
theorem read?_of_valueColumn {value : Option Answer}
    {row : SavedAnswer (Stored Answer)}
    (kept : valueColumn value = .ok row.value) :
    row.read?.map (·.value) = some value := by
  unfold SavedAnswer.read?
  cases value with
  | none =>
      have none : row.value = none := (Except.ok.inj kept).symm
      rw [none]
      rfl
  | some answer =>
      obtain ⟨document, made, same⟩ := exceptMap_eq_ok.mp kept
      unfold Column.document at made
      split at made
      · cases made
      · cases made
        rw [← same]
        rfl

/-- The transaction stays within the range of its numbers: it may be refused,
but not break off. -/
def Transaction.StaysInRange {ε α : Type}
    (transaction : Transaction ε α) : Prop :=
  ∀ store, transaction store ≠ .error .outOfRange

namespace Transaction.StaysInRange

variable {ε α β : Type}

theorem bind {first : Transaction ε α} {next : α → Transaction ε β}
    (here : first.StaysInRange) (later : ∀ value, (next value).StaysInRange) :
    StaysInRange (first >>= next) := by
  intro store failed
  cases ended : first store with
  | error halt =>
      rw [bind_of_error ended] at failed
      cases failed
      exact here store ended
  | ok step =>
      rw [bind_of_ok ended] at failed
      exact later step.1 step.2 failed

theorem pure (value : α) : StaysInRange (Pure.pure value : Transaction ε α) :=
  fun _ => nofun

theorem refuse (error : ε) :
    StaysInRange (Transaction.refuse error : Transaction ε α) :=
  fun _ => nofun

theorem require (holds : Bool) (error : ε) :
    StaysInRange (Transaction.require holds error) := by
  intro store
  unfold Transaction.require
  split <;> nofun

theorem demand (found : Option α) (error : ε) :
    StaysInRange (Transaction.demand found error) := by
  intro store
  unfold Transaction.demand
  split <;> nofun

theorem lift [ReportsFaults ε] (statement : Statement α) :
    StaysInRange (liftM statement : Transaction ε α) := by
  intro store
  change Transaction.run ReportsFaults.ofFault statement store ≠ _
  unfold Transaction.run
  split <;> nofun

end Transaction.StaysInRange

namespace Exam

theorem saveOne_staysInRange (attempt : Attempt)
    (variant : Variant (List VariantQuestion))
    (now : Instant) (input : AnswerInput) :
    (saveOne attempt variant now input).StaysInRange := by
  refine .bind (.demand _ _) fun question => .bind (.require _ _) fun _ => ?_
  dsimp only
  split
  · exact .bind (.pure _) fun _ => .lift _
  · exact .bind (.refuse _) fun _ => .lift _

/-- The row for a save on an open attempt is one that the save makes. -/
theorem makes_of_answerRow {questions : List VariantQuestion}
    {question : VariantQuestion} {input : AnswerInput} {value : Option Answer}
    {answer : SavedAnswer Answer} {row : SavedAnswer (Stored Answer)}
    (lawful : before.Lawful) (worked : IsWorkedOn now before attempt)
    (shown : HasVariant before attempt.variantId questions)
    (asked : question ∈ questions)
    (same : question.questionId = input.questionId)
    (parsed : Answer.ofClient? question.payload.type input.value = .ok value)
    (made : answerRow (idOf "answer" (nextAnswerNumber before))
      ⟨attempt.id, question.questionId, value, question.points,
        input.timeSpentSeconds, input.bookmarked, now⟩ = .ok row) :
    AcceptedSave.Makes now before attempt questions
      ⟨attempt.id, input, answer⟩ row := by
  obtain ⟨attemptId, questionId, stored, maxPoints, keptAttempt, keptQuestion,
    keptValue, keptPoints, written⟩ := answerRow_eq_ok.mp made
  have read : row.read?.map (·.value) = some value :=
    read?_of_valueColumn (by rw [written]; exact keptValue)
  obtain rfl := written
  obtain rfl := (lawful.sittings.keys attempt worked.listed).kept _ keptAttempt
  exact
    { saves :=
        { worked
          question :=
            ⟨questions, shown, question, asked, keptQuestion, keptPoints⟩
          attemptId := rfl
          unscored := ⟨stored, input.timeSpentSeconds, input.bookmarked, rfl⟩
          readable := by
            rw [← Option.isSome_map, read]
            rfl
          fresh := answerId_fresh before
          plain := answerId_plain (nextAnswerNumber before) }
      attemptId := rfl
      question := ⟨question, asked, same, keptQuestion, value, parsed, read⟩
      timeSpentSeconds := rfl
      bookmarked := rfl }

/-- A save that ends well writes the row of its question. -/
theorem saveOne_writes {variant : Variant (List VariantQuestion)}
    {input : AnswerInput} {answer : SavedAnswer Answer} (lawful : before.Lawful)
    (worked : IsWorkedOn now before attempt)
    (shown : HasVariant before attempt.variantId variant.questions)
    (ended : saveOne attempt variant now input before = .ok (answer, after)) :
    AcceptedSave.Writes now before attempt variant.questions
      ⟨attempt.id, input, answer⟩ after := by
  simp only [saveOne, bind_eq_ok, Transaction.demand_eq_ok,
    Transaction.require_eq_ok] at ended
  obtain ⟨question, _, ⟨found, rfl⟩, _, store, ⟨-, rfl⟩, ended⟩ := ended
  have asked : question ∈ variant.questions := List.mem_of_find?_eq_some found
  have sameQuestion : question.questionId = input.questionId := by
    simpa using List.find?_some found
  cases parsed : Answer.ofClient? question.payload.type input.value with
  | error error =>
      simp only [parsed, bind_eq_ok] at ended
      obtain ⟨_, _, refused, -⟩ := ended
      exact (Transaction.refuse_ne_ok refused).elim
  | ok value =>
      simp only [parsed, bind_eq_ok, pure_eq_ok, Transaction.lift_eq_ok,
        saveAnswer_eq_ok] at ended
      obtain ⟨value, store, ⟨rfl, rfl⟩, -, -, row, made, written⟩ := ended
      have makes : AcceptedSave.Makes now store attempt variant.questions
          ⟨attempt.id, input, answer⟩ row :=
        makes_of_answerRow lawful worked shown asked sameQuestion parsed made
      split at written
      · next old present =>
          obtain ⟨rfl, read⟩ := written
          exact .again makes (List.mem_of_find?_eq_some present)
            (List.find?_some present) read
      · next absent =>
          obtain ⟨-, rfl, read⟩ := written
          refine .first makes (fun other inside => ?_) read
          exact Bool.eq_false_iff.mpr
            (List.find?_eq_none.mp absent other inside)

/-! ## Batches -/

/-- The saves that are accepted of a list of entries, each made on what those
before it have left. -/
def acceptedEach (attempt : Attempt) (variant : Variant (List VariantQuestion))
    (now : Instant) : List AnswerInput → Store → List AcceptedSave
  | [], _ => []
  | input :: rest, store =>
    match saveOne attempt variant now input store with
    | .ok (answer, after) =>
      ⟨attempt.id, input, answer⟩ :: acceptedEach attempt variant now rest after
    | .error _ => acceptedEach attempt variant now rest store

/-- The saves that are accepted of what a caller wants to save on an attempt. -/
def acceptedSaves (caller : Caller) (attemptId : String) (now : Instant)
    (inputs : List AnswerInput) (store : Store) : List AcceptedSave :=
  let accepting := whileOpen caller attemptId now fun attempt => do
    let variant ← variant attempt.variantId
    pure (acceptedEach attempt variant now inputs (← get))
  match accepting store with
  | .ok (.inTime saves, _) => saves
  | _ => []

/-- A batch always ends, because an entry that is refused leaves the others
alone. -/
theorem exists_saveEach (attempt : Attempt)
    (variant : Variant (List VariantQuestion)) (now : Instant)
    (inputs : List AnswerInput) (store : Store) :
    ∃ outcome after,
      saveEach attempt variant now inputs store = .ok (outcome, after) := by
  induction inputs generalizing store with
  | nil => exact ⟨_, store, rfl⟩
  | cons input rest ih =>
      simp only [saveEach, bind_eq_ok, Transaction.attempt_eq_ok, pure_eq_ok]
      cases ended : saveOne attempt variant now input store with
      | ok step =>
          obtain ⟨outcome, after, later⟩ := ih step.2
          exact ⟨_, after, _, step.2, .inl ⟨step.1, rfl, rfl⟩, outcome, after,
            later, rfl, rfl⟩
      | error halt =>
          cases halt with
          | refused error =>
              obtain ⟨outcome, after, later⟩ := ih store
              exact ⟨_, after, _, store, .inr ⟨error, rfl, rfl, rfl⟩, outcome,
                after, later, rfl, rfl⟩
          | outOfRange =>
              exact absurd ended
                (saveOne_staysInRange attempt variant now input store)

/-- A batch gives back its accepted saves and writes nothing but those. -/
theorem saveEach_writes {variant : Variant (List VariantQuestion)}
    {inputs : List AnswerInput} {outcome : BatchOutcome}
    (lawful : before.Lawful) (worked : IsWorkedOn now before attempt)
    (shown : HasVariant before attempt.variantId variant.questions)
    (ended : saveEach attempt variant now inputs before =
      .ok (outcome, after)) :
    outcome.saved =
      (acceptedEach attempt variant now inputs before).map (·.answer) ∧
    WritesEach now attempt variant.questions
      (acceptedEach attempt variant now inputs before) before after := by
  induction inputs generalizing before outcome with
  | nil =>
      obtain ⟨rfl, rfl⟩ := pure_eq_ok.mp ended
      exact ⟨rfl, .nil⟩
  | cons input rest ih =>
      simp only [saveEach, bind_eq_ok, Transaction.attempt_eq_ok, pure_eq_ok]
        at ended
      obtain ⟨result, middle, here, others, _, later, rfl, rfl⟩ := ended
      rcases here with ⟨answer, written, rfl⟩ | ⟨error, failed, rfl, rfl⟩
      · have writes := saveOne_writes lawful worked shown written
        obtain ⟨answers, issued, rfl⟩ := writes.answersOnly
        obtain ⟨same, rest⟩ := ih (writes.change.lawful lawful)
          ⟨worked.listed, worked.running, worked.inTime⟩ shown later
        rw [acceptedEach, written]
        exact ⟨congrArg _ same, .cons writes rest⟩
      · rw [acceptedEach, failed]
        obtain ⟨same, rest⟩ := ih lawful worked shown later
        exact ⟨same, rest⟩

end Exam

end ExamHall
