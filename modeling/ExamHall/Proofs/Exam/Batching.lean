import ExamHall.Proofs.Exam.Settling
import ExamHall.Proofs.Exam.Working

/-!
# Batches and single saves

A batch is its entries saved one after another.  An attempt that is open stays
open while answers are saved on it, so each entry of a batch meets what the
single save of it would meet, and leaves what that would leave.
-/

namespace ExamHall.Exam

open Store

variable {context : Context} {world : World} {store after : Store}
  {caller : Caller} {attemptId : String} {attempt : Attempt}
  {variant : Variant (List VariantQuestion)} {input : AnswerInput}

/-- An attempt on which its student can save answers now: it is open, and its
variant can be read. -/
structure IsOpen (now : Instant) (store : Store) (studentId attemptId : String)
    (attempt : Attempt) (variant : Variant (List VariantQuestion)) : Prop where
  ids : (store.attempts.map (·.id)).Nodup
  plain : Column.hasNul attemptId = false
  reach : store.CanReach [.attempts]
  own : IsOwn store studentId attemptId attempt
  inTime : now < attempt.deadlineAt
  read : Store.variant attempt.variantId store = .ok (variant, store)

/-- A save changes no tables but that of the answers. -/
theorem saveOne_answersOnly {now : Instant} {answer : SavedAnswer Answer}
    (ended : saveOne attempt variant now input store = .ok (answer, after)) :
    ∃ answers issued, after = { store with answers, issued } := by
  simp only [saveOne, bind_eq_ok, Transaction.demand_eq_ok,
    Transaction.require_eq_ok] at ended
  obtain ⟨question, _, ⟨-, rfl⟩, _, store, ⟨-, rfl⟩, ended⟩ := ended
  cases parsed : Answer.ofClient? question.payload.type input.value with
  | error error =>
      simp only [parsed, bind_eq_ok] at ended
      obtain ⟨_, _, refused, -⟩ := ended
      exact (Transaction.refuse_ne_ok refused).elim
  | ok value =>
      simp only [parsed, bind_eq_ok, pure_eq_ok, Transaction.lift_eq_ok,
        saveAnswer_eq_ok] at ended
      obtain ⟨value, store, ⟨rfl, rfl⟩, -, -, row, -, written⟩ := ended
      split at written
      · exact ⟨_, _, written.1⟩
      · exact ⟨_, _, written.2.1⟩

/-- An attempt that is open stays so while answers are saved on it. -/
theorem IsOpen.saved {now : Instant} {studentId : String}
    {answer : SavedAnswer Answer}
    (opened : IsOpen now store studentId attemptId attempt variant)
    (ended : saveOne attempt variant now input store = .ok (answer, after)) :
    IsOpen now after studentId attemptId attempt variant := by
  obtain ⟨answers, issued, rfl⟩ := saveOne_answersOnly ended
  obtain ⟨plain, reach, -, found⟩ := variant_eq_ok.mp opened.read
  exact
    { ids := opened.ids
      plain := opened.plain
      reach := opened.reach
      own := ⟨opened.own.listed, opened.own.id, opened.own.student,
        opened.own.running⟩
      inTime := opened.inTime
      read := variant_eq_ok.mpr ⟨plain, reach, rfl, found⟩ }

/-- A save that does not end well has been refused. -/
theorem exists_refused_of_failed {now : Instant} {halt : Halt AttemptError}
    (failed : saveOne attempt variant now input store = .error halt) :
    ∃ error, halt = .refused error := by
  cases halt with
  | refused error => exact ⟨error, rfl⟩
  | outOfRange =>
      exact (saveOne_staysInRange attempt variant now input store failed).elim

/-- A save whose bounds are broken would be refused in a batch as well. -/
theorem exists_refused_of_faults (attempt : Attempt)
    (variant : Variant (List VariantQuestion)) (now : Instant) (store : Store)
    (faults : input.faults ≠ []) :
    ∃ error,
      saveOne attempt variant now input store = .error (.refused error) := by
  have negative :
      input.timeSpentSeconds.all (fun seconds => decide (0 ≤ seconds)) =
        false := by
    rw [Bool.eq_false_iff]
    intro kept
    refine faults ?_
    rw [AnswerInput.faults, kept]
    rfl
  unfold saveOne
  cases variant.question? input.questionId with
  | none => exact ⟨_, bind_of_error rfl⟩
  | some question =>
      refine ⟨.negativeTime, ?_⟩
      rw [bind_of_ok (Transaction.demand_eq_ok.mpr ⟨rfl, rfl⟩), negative]
      exact bind_of_error rfl

/-- What is done on an open attempt is done with its variant. -/
theorem IsOpen.whileOpen {α : Type}
    (opened : IsOpen context.now store caller.id attemptId attempt variant)
    (work : Attempt → Variant (List VariantQuestion) →
      Transaction AttemptError α) :
    whileOpen caller attemptId context.now (fun attempt => do
      let variant ← Store.variant attempt.variantId
      work attempt variant) store =
        (Entry.inTime <$> work attempt variant) store := by
  rw [whileOpen_opened opened.plain opened.reach opened.ids opened.own
    opened.inTime]
  have begun := @bind_of_ok _ _ _ _ _ _ (fun variant => work attempt variant) _
    _ (Transaction.lift_eq_ok.mpr opened.read)
  cases ended : work attempt variant store with
  | error halt => rw [map_of_error ended, map_of_error (begun.trans ended)]
  | ok step =>
      rw [map_eq_ok.mpr ⟨_, ended, rfl⟩]
      exact map_eq_ok.mpr ⟨_, begun.trans ended, rfl⟩

/-- A single save whose transaction fails leaves everything as it was. -/
theorem save_of_failed {halt : Halt AttemptError}
    (failed : saveTransaction caller attemptId context.now input world.store =
      .error halt) :
    save caller attemptId input context world = (.error halt, world) := by
  unfold save
  rw [Action.read_bind_apply]
  exact Action.bind_apply_of_error (Action.commit_of_error failed)

/-- A batch whose transaction fails leaves everything as it was. -/
theorem saveBatch_of_failed {inputs : List AnswerInput}
    {halt : Halt AttemptError}
    (failed : batchTransaction caller attemptId context.now inputs world.store =
      .error halt) :
    saveBatch caller attemptId inputs context world = (.error halt, world) := by
  unfold saveBatch
  rw [Action.read_bind_apply]
  exact Action.bind_apply_of_error (Action.commit_of_error failed)

/-- A single save on an open attempt ends as the saving of its answer does, and
is told if it has been accepted. -/
theorem save_of_open
    (opened :
      IsOpen context.now world.store caller.id attemptId attempt variant) :
    save caller attemptId input context world =
      match saveOne attempt variant context.now input world.store with
      | .ok (answer, after) =>
          (.ok answer, World.telling context (eventOf .answerSaved attempt
            variant context.now after) { world with store := after })
      | .error halt => (.error halt, world) := by
  have entered :
      saveTransaction caller attemptId context.now input world.store = _ :=
    opened.whileOpen fun attempt variant => do
      let saved ← saveOne attempt variant context.now input
      pure (⟨attempt, variant, saved⟩ : Worked (SavedAnswer Answer))
  cases ended : saveOne attempt variant context.now input world.store with
  | error halt =>
      rw [map_of_error (bind_of_error ended)] at entered
      exact save_of_failed entered
  | ok step =>
      obtain ⟨answer, after⟩ := step
      rw [map_eq_ok.mpr ⟨⟨attempt, variant, answer⟩,
        (bind_of_ok ended).trans rfl, rfl⟩] at entered
      unfold save
      rw [Action.read_bind_apply,
        Action.bind_apply_of_ok (Action.commit_of_ok entered)]
      exact (Action.bind_apply_of_ok rfl).trans bind_notify_apply

/-- A batch on an open attempt ends as the saving of its entries does, and is
told if one has been accepted. -/
theorem saveBatch_of_open {inputs : List AnswerInput} {outcome : BatchOutcome}
    (opened :
      IsOpen context.now world.store caller.id attemptId attempt variant)
    (ended : saveEach attempt variant context.now inputs world.store =
      .ok (outcome, after)) :
    saveBatch caller attemptId inputs context world =
      (.ok outcome, if outcome.saved.isEmpty
        then { world with store := after } else
        World.telling context
          (eventOf .answerSaved attempt variant context.now after)
          { world with store := after }) := by
  have entered :
      batchTransaction caller attemptId context.now inputs world.store = _ :=
    opened.whileOpen fun attempt variant => do
      let outcome ← saveEach attempt variant context.now inputs
      pure (⟨attempt, variant, outcome⟩ : Worked BatchOutcome)
  rw [map_eq_ok.mpr ⟨⟨attempt, variant, outcome⟩, (bind_of_ok ended).trans rfl,
    rfl⟩] at entered
  unfold saveBatch
  rw [Action.read_bind_apply,
    Action.bind_apply_of_ok (Action.commit_of_ok entered)]
  refine (Action.bind_apply_of_ok rfl).trans ?_
  dsimp only
  split
  · rfl
  · exact bind_notify_apply

/-! ## Attempts that are not open -/

/-- Where the own attempt of a student cannot be worked on, no work on it is
done. -/
theorem exists_refused_of_not_open {now : Instant} (lawful : store.Lawful)
    (own : IsOwn store caller.id attemptId attempt)
    (inTime : now < attempt.deadlineAt)
    (closed : ∀ variant, ¬IsOpen now store caller.id attemptId attempt variant)
    {α : Type}
    (work : Attempt →
      Variant (List VariantQuestion) → Transaction AttemptError α) :
    ∃ error, whileOpen caller attemptId now (fun attempt => do
      let variant ← Store.variant attempt.variantId
      work attempt variant) store = .error (.refused error) := by
  have plain : Column.hasNul attemptId = false :=
    own.id ▸ (lawful.sittings.keys attempt own.listed).plain
  cases looked : attempt? attemptId store with
  | error fault => exact ⟨_, bind_of_error (Transaction.lift_of_error looked)⟩
  | ok step =>
      obtain ⟨-, reach, -⟩ := attempt?_eq_ok.mp looked
      rw [whileOpen_opened plain reach lawful.sittings.ids own inTime]
      cases read : Store.variant attempt.variantId store with
      | error fault => exact ⟨_,
        map_of_error (bind_of_error (Transaction.lift_of_error read))⟩
      | ok step =>
          obtain ⟨variant, left⟩ := step
          obtain rfl := isRead_variant _ _ _ _ read
          exact (closed variant ⟨lawful.sittings.ids, plain, reach, own, inTime,
            read⟩).elim

end ExamHall.Exam
