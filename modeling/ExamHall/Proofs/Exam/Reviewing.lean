import ExamHall.Proofs.Exam.Action
import ExamHall.Proofs.Exam.Grading

/-!
# Scores by hand

A reviewer's score replaces what one row says, and then the scores of the
attempt are summed up anew from all its rows.  Whether a score is admitted
depends on nothing that such scores change.  So scores of different answers can
be given in any order, and of several scores of one answer only the last one
matters.
-/

namespace ExamHall

open Store

/-- What a reviewer writes into the row of an answer. -/
structure HandMark where
  answerId : String
  earned : Decimal
  gradedBy : String
  score : ManualScore

/-- The row of an answer with a mark. -/
def HandMark.onto (mark : HandMark) (row : SavedAnswer (Stored Answer)) :
    SavedAnswer (Stored Answer) :=
  reviewedAnswer mark.earned mark.gradedBy mark.score row

namespace Store

/-- The store with a mark in the row of its answer. -/
def marking (mark : HandMark) (store : Store) : Store :=
  { store with
    answers :=
      updateWhere (fun row => row.id == mark.answerId) mark.onto store.answers }

/-- A store becomes another one when the scores of an attempt are summed up from
its rows. -/
inductive SumsUp (now : Instant) (attemptId : String) (store : Store) :
    Store → Prop where
  | intro {totals : Totals} {rawScore maxScore percentage : Decimal}
      (summed : totals? ((store.sheet attemptId).map SavedAnswer.tally) =
        some totals) (scores : Scores totals rawScore maxScore percentage) :
      SumsUp now attemptId store { store with
        attempts := updateWhere (fun attempt => attempt.id == attemptId)
          (scored rawScore maxScore percentage (Exam.scoreUpdate totals
            totals.statusAfterManual now)) store.attempts }

end Store

variable {now : Instant} {store before after : Store} {attemptId : String}
  {mark other : HandMark}

/-! ## Marks and sums -/

@[simp] theorem HandMark.onto_id (mark : HandMark)
    (row : SavedAnswer (Stored Answer)) : (mark.onto row).id = row.id := rfl

@[simp] theorem HandMark.onto_onto (row : SavedAnswer (Stored Answer)) :
    mark.onto (other.onto row) = mark.onto row := rfl

namespace Store

/-- Marks of different answers can be made in any order. -/
theorem marking_comm (apart : mark.answerId ≠ other.answerId) :
    (store.marking mark).marking other =
      (store.marking other).marking mark := by
  simp only [marking, updateWhere, List.map_map, Store.mk.injEq, true_and,
    and_true]
  apply List.map_congr_left
  intro row _
  by_cases first : row.id = mark.answerId
  · simp [first, apart]
  · by_cases second : row.id = other.answerId
    · simp [second, apart.symm]
    · simp [first, second]

/-- Of two marks of an answer the second one stays. -/
theorem marking_marking (same : other.answerId = mark.answerId) :
    (store.marking other).marking mark = store.marking mark := by
  simp only [marking, same]
  rw [updateWhere_updateWhere]
  · rfl
  · intro row _
    split <;> rfl

@[simp] theorem marking_attempts :
    (store.marking mark).attempts = store.attempts := rfl

theorem marking_ids :
    (store.marking mark).answers.map (·.id) = store.answers.map (·.id) :=
  map_updateWhere fun _ => rfl

/-- The row of the answer has the mark then. -/
theorem find?_marking {row : SavedAnswer (Stored Answer)}
    (ids : (store.answers.map (·.id)).Nodup) (inside : row ∈ store.answers)
    (same : row.id = mark.answerId) :
    (store.marking mark).answers.find? (·.id == row.id) =
      some (mark.onto row) := by
  have marked : mark.onto row ∈ (store.marking mark).answers :=
    mem_updateWhere_of_holds inside (beq_iff_eq.mpr same)
  exact find?_key_eq_some (marking_ids.symm ▸ ids) marked

/-- A mark leaves a sheet readable. -/
theorem isSome_read?_marking
    (readable : ∀ row ∈ store.answers, row.attemptId = attemptId →
      row.read?.isSome) :
    ∀ row ∈ (store.marking mark).sheet attemptId, row.read?.isSome := by
  intro row shown
  obtain ⟨listed, own⟩ := mem_sheet.mp shown
  obtain ⟨old, there, rfl⟩ := mem_updateWhere.mp listed
  by_cases selected : (old.id == mark.answerId) = true
  · rw [if_pos selected] at own ⊢
    exact isSome_read?_congr (by rfl) (readable old there own)
  · rw [if_neg selected] at own ⊢
    exact readable old there own

theorem SumsUp.unique {other : Store} (sums : SumsUp now attemptId store after)
    (sums' : SumsUp now attemptId store other) : after = other := by
  obtain ⟨summed, scores⟩ := sums
  obtain ⟨summed', scores'⟩ := sums'
  cases summed.symm.trans summed'
  cases scores.rawScore.symm.trans scores'.rawScore
  cases scores.maxScore.symm.trans scores'.maxScore
  cases scores.percentage.symm.trans scores'.percentage
  rfl

/-- Summing up goes by the rows: sums that were written before do not matter to
it. -/
theorem SumsUp.marking_iff {last : Store}
    (sums : SumsUp now attemptId before after) :
    SumsUp now attemptId (after.marking mark) last ↔
      SumsUp now attemptId (before.marking mark) last := by
  obtain @⟨totals, rawScore, maxScore, percentage, -, -⟩ := sums
  have twice : ∀ rawScore' maxScore' percentage' update update',
      updateWhere (fun attempt : Attempt => attempt.id == attemptId)
          (scored rawScore' maxScore' percentage' update')
          (updateWhere (fun attempt => attempt.id == attemptId)
            (scored rawScore maxScore percentage update) before.attempts) =
        updateWhere (fun attempt => attempt.id == attemptId)
          (scored rawScore' maxScore' percentage' update') before.attempts := by
    intros
    rw [updateWhere_updateWhere]
    · rfl
    · intro attempt _
      split <;> rfl
  constructor
  · rintro ⟨summed, scores⟩
    have again :=
      @SumsUp.intro now attemptId (before.marking mark) _ _ _ _ summed scores
    simpa [marking, twice] using again
  · rintro ⟨summed, scores⟩
    have again := @SumsUp.intro now attemptId (Store.marking mark { before with
      attempts := updateWhere (fun attempt => attempt.id == attemptId)
        (scored rawScore maxScore percentage (Exam.scoreUpdate totals
          totals.statusAfterManual now)) before.attempts }) _ _ _ _
        summed scores
    simpa [marking, twice] using again

end Store

/-! ## What is asked of a score -/

/-- A store admits a reviewer's score of an answer of an attempt with scores,
and keeps it as a mark. -/
inductive Store.Admits (now : Instant) (store : Store) (reviewer : Caller)
    (answerId : String) (review : Review) : String → HandMark → Prop where
  | intro {attempt : Attempt} {row : SavedAnswer (Stored Answer)}
      {outcome : GradeOutcome} {earned : Decimal} {gradedBy : String}
      (plain : ∀ text ∈ [answerId, reviewer.id] ++ review.feedback.toList,
        Column.hasNul text = false)
      (reach : store.CanReach [.answers, .attempts, .assignments])
      (listed : attempt ∈ store.attempts)
      (scored : attempt.status.isScored = true)
      (manages : Manages store reviewer attempt.assignmentId)
      (inside : row ∈ store.answers)
      (id : row.id = answerId) (own : row.attemptId = attempt.id)
      (granted : manualOutcome row.maxPoints review.score = .ok outcome)
      (stored : Column.points outcome.earned = .ok earned)
      (named : Column.id reviewer.id = .ok gradedBy) : Store.Admits now store
      reviewer answerId review attempt.id
      ⟨answerId, earned, gradedBy, ⟨outcome, review.feedback, reviewer.id, now⟩⟩

/-- Two stores differ in scores at most. -/
structure Store.IsAlike (left right : Store) : Prop where
  outages : left.outages = right.outages
  assignments : left.assignments = right.assignments
  attempts : left.attempts.map (fun attempt =>
      (attempt.id, attempt.assignmentId, attempt.status.isScored)) =
    right.attempts.map fun attempt =>
      (attempt.id, attempt.assignmentId, attempt.status.isScored)
  answers :
    left.answers.map (fun row => (row.id, row.attemptId, row.maxPoints)) =
      right.answers.map fun row => (row.id, row.attemptId, row.maxPoints)

theorem exists_mem_of_map_eq {ρ κ : Type} {key : ρ → κ} {rows others : List ρ}
    {row : ρ} (same : rows.map key = others.map key) (inside : row ∈ rows) :
    ∃ other ∈ others, key other = key row := by
  have listed : key row ∈ others.map key := same ▸ List.mem_map_of_mem inside
  exact List.mem_map.mp listed

section Admission

variable {reviewer : Caller} {answerId : String} {review : Review}

namespace Store

theorem IsAlike.symm (alike : IsAlike before after) : IsAlike after before :=
  ⟨alike.outages.symm, alike.assignments.symm, alike.attempts.symm,
    alike.answers.symm⟩

/-- Scores do not matter to what is asked of a score. -/
theorem Admits.congr
    (admits : before.Admits now reviewer answerId review attemptId mark)
    (alike : IsAlike before after) :
    after.Admits now reviewer answerId review attemptId mark := by
  obtain ⟨plain, reach, listed, scored, manages, inside, id, own, granted,
    stored, named⟩ := admits
  obtain ⟨attempt', listed', same⟩ := exists_mem_of_map_eq alike.attempts listed
  obtain ⟨row', inside', same'⟩ := exists_mem_of_map_eq alike.answers inside
  simp only [Prod.mk.injEq] at same same'
  obtain ⟨sameAttempt, sameAssignment, sameScored⟩ := same
  obtain ⟨sameRow, sameOwner, samePoints⟩ := same'
  rw [← sameAttempt]
  apply Admits.intro plain _ listed' (sameScored.trans scored) _ inside'
    (sameRow.trans id) _ _ stored named
  · rwa [CanReach, ← alike.outages]
  · rwa [Manages, ← alike.assignments, sameAssignment]
  · rw [sameOwner, own, sameAttempt]
  · rwa [samePoints]

/-- There is one mark for a score, and it belongs to one attempt. -/
theorem Admits.unique {attemptId' : String} (lawful : store.Lawful)
    (admits : store.Admits now reviewer answerId review attemptId mark)
    (admits' : store.Admits now reviewer answerId review attemptId' other) :
    attemptId' = attemptId ∧ other = mark := by
  obtain ⟨-, -, -, -, -, inside, id, own, granted, stored, named⟩ := admits
  obtain ⟨-, -, -, -, -, inside', id', own', granted', stored', named'⟩ :=
    admits'
  obtain rfl :=
    eq_of_key lawful.sittings.answerIds inside inside' (id.trans id'.symm)
  cases granted.symm.trans granted'
  cases stored.symm.trans stored'
  cases named.symm.trans named'
  exact ⟨own'.symm.trans own, rfl⟩

/-- A mark and the sums that follow from it change nothing but scores. -/
theorem SumsUp.isAlike_of_marking {attempt : Attempt}
    (sums : SumsUp now attempt.id (before.marking mark) after)
    (ids : (before.attempts.map (·.id)).Nodup)
    (listed : attempt ∈ before.attempts)
    (isScored : attempt.status.isScored = true) : IsAlike before after := by
  obtain @⟨totals, rawScore, maxScore, percentage, -, -⟩ := sums
  have rows : (before.marking mark).answers.map
      (fun row => (row.id, row.attemptId, row.maxPoints)) =
      before.answers.map fun row => (row.id, row.attemptId, row.maxPoints) :=
    map_updateWhere fun _ => rfl
  refine ⟨rfl, rfl, ?_, rows.symm⟩
  simp only [marking, updateWhere, List.map_map]
  apply List.map_congr_left
  intro other inside
  by_cases same : other.id = attempt.id
  · obtain rfl := eq_of_key ids inside listed same
    simp [scored, Exam.scoreUpdate, isScored, totals.isScored_statusAfterManual]
  · simp [same]

end Store

/-! ## Reviews -/

theorem Store.updateWhere_hasStatus {attempts : List Attempt}
    {attempt : Attempt} {change : Attempt → Attempt}
    (ids : (attempts.map (·.id)).Nodup) (listed : attempt ∈ attempts) :
    updateWhere (hasStatus attempt.id attempt.status) change attempts =
      updateWhere (fun other => other.id == attempt.id) change attempts := by
  apply updateWhere_congr
  intro other inside
  by_cases same : other.id = attempt.id
  · obtain rfl := eq_of_key ids inside listed same
    simp [hasStatus]
  · simp [hasStatus, same]

/-- The totals of an attempt are written into it, whatever status it has. -/
theorem Store.recordScores_of_scores {attempt : Attempt} {update : ScoreUpdate}
    {rawScore maxScore percentage : Decimal}
    (plain : Column.hasNul attempt.id = false)
    (reach : store.CanReach [.attempts])
    (ids : (store.attempts.map (·.id)).Nodup)
    (listed : attempt ∈ store.attempts)
    (raw : Column.points update.rawScore = .ok rawScore)
    (most : Column.points update.maxScore = .ok maxScore)
    (percent : Column.percent update.percentage = .ok percentage) :
    recordScores attempt.id attempt.status update store =
      .ok (some (scored rawScore maxScore percentage update attempt),
        { store with
          attempts := updateWhere (fun other => other.id == attempt.id)
            (scored rawScore maxScore percentage update) store.attempts }) := by
  have here : store.attempts.any (hasStatus attempt.id attempt.status) = true :=
    List.any_eq_true.mpr ⟨attempt, listed, hasStatus_eq_true.mpr ⟨rfl, rfl⟩⟩
  rw [recordScores_eq_ok, if_pos here, find?_hasStatus ids listed rfl]
  refine ⟨plain, reach, rawScore, maxScore, percentage, raw, most,
    percent, rfl, ?_⟩
  rw [updateWhere_hasStatus ids listed]

namespace Exam

/-- A review that ends well has been admitted, and has left its mark and the
sums that follow from it. -/
theorem reviewTransaction_admits {result : SavedAnswer Answer × Attempt}
    (lawful : before.Lawful)
    (linked : (before.answers.find? (·.id == answerId)).map (·.attemptId) =
      some attemptId)
    (ended : reviewTransaction reviewer attemptId answerId review now before =
      .ok (result, after)) :
    ∃ mark, before.Admits now reviewer answerId review attemptId mark ∧
      SumsUp now attemptId (before.marking mark) after := by
  simp only [reviewTransaction, bind_eq_ok, Transaction.lift_eq_ok,
    Transaction.demand_eq_ok, Transaction.require_eq_ok, attempt?_eq_ok,
    answer?_eq_ok, managedAssignment_eq_ok] at ended
  obtain ⟨_, _, ⟨-, reachAttempts, rfl, rfl⟩, attempt, _, ⟨found, rfl⟩,
    assignment, _, ⟨-, reachAssignments, rfl, owned, may⟩, _, _, ⟨scored, rfl⟩,
    _, _, ⟨-, reachAnswers, rfl, read⟩, answer, _, ⟨rfl, rfl⟩, ended⟩ := ended
  obtain ⟨listed, rfl⟩ := mem_and_key_of_find? found
  obtain ⟨assigned, sameAssignment⟩ := mem_and_key_of_find? owned
  rcases read with ⟨missing, -⟩ | ⟨row, _, same, read, present⟩
  · cases missing
  cases same
  obtain ⟨inside, rfl⟩ := mem_and_key_of_find? present
  rw [present, Option.map_some, Option.some.injEq] at linked
  obtain ⟨value, rfl⟩ := exists_value_of_read? read
  cases granted : manualOutcome row.maxPoints review.score with
  | error error =>
      simp only [granted, bind_eq_ok] at ended
      obtain ⟨_, _, refused, -⟩ := ended
      exact (Transaction.refuse_ne_ok refused).elim
  | ok outcome =>
      simp only [granted, bind_eq_ok, pure_eq_ok, Transaction.lift_eq_ok,
        Transaction.inRange_eq_ok, Transaction.demand_eq_ok,
        recordManualScore_eq_ok, answersOf_eq_ok, recordScores_eq_ok] at ended
      obtain ⟨outcome, _, ⟨rfl, rfl⟩, reviewed, _,
        ⟨plain, -, earned, gradedBy, kept, named, rfl, -⟩,
        answers, _, ⟨-, -, rfl, sheet⟩, totals, _, ⟨summed, rfl⟩, regraded, _,
        ⟨-, -, written⟩, _, _, ⟨rfl, rfl⟩, rfl, rfl⟩ := ended
      have reach := List.forall_mem_append.mpr ⟨reachAnswers,
        List.forall_mem_append.mpr ⟨reachAttempts, reachAssignments⟩⟩
      refine ⟨_, .intro plain reach listed scored ⟨assignment, assigned,
        sameAssignment, may⟩ inside
        rfl linked granted kept named, ?_⟩
      split at written
      · obtain ⟨rawScore, maxScore, percentage, raw, most, percent, -, rfl⟩ :=
          written
        rw [updateWhere_hasStatus lawful.sittings.ids listed]
        change totals? (answers.map SavedAnswer.tally) = some totals at summed
        rw [map_tally sheet] at summed
        exact .intro summed ⟨raw, most, percent⟩
      · cases written.1

/-- A review of an answer of an attempt is one change, made by who manages the
assignment. -/
theorem reviewTransaction_reviewsInto {result : SavedAnswer Answer × Attempt}
    (lawful : before.Lawful)
    (linked : (before.answers.find? (·.id == answerId)).map (·.attemptId) =
      some attemptId)
    (ended : reviewTransaction reviewer attemptId answerId review now before =
      .ok (result, after)) :
    ∃ attempt, ReviewsInto now before attempt after ∧
      Manages before reviewer attempt.assignmentId ∧ ∃ row ∈ before.answers,
        row.id = answerId ∧ row.attemptId = attempt.id := by
  obtain ⟨mark, admits, sums⟩ := reviewTransaction_admits lawful linked ended
  obtain @⟨attempt, row, outcome, earned, gradedBy, -, -, listed, scored,
    manages, inside, rfl, own, granted, stored, -⟩ := admits
  refine ⟨attempt, ?_, manages, row, inside, rfl, own⟩
  obtain @⟨totals, rawScore, maxScore, percentage, summed, scores⟩ := sums
  rw [marking_attempts, ← updateWhere_hasStatus lawful.sittings.ids listed]
  exact ⟨row, outcome, earned, _, totals, rawScore, maxScore, percentage,
    ⟨listed, scored, inside, own, ⟨review.score, granted⟩, stored,
      ⟨gradedBy, _, rfl, rfl⟩, summed⟩, scores, rfl⟩

theorem reviewTransaction_handsOver {result : SavedAnswer Answer × Attempt}
    (lawful : before.Lawful)
    (linked : (before.answers.find? (·.id == answerId)).map (·.attemptId) =
      some attemptId)
    (ended : reviewTransaction reviewer attemptId answerId review now before =
      .ok (result, after)) : HandsOver now none before after :=
  (reviewTransaction_reviewsInto lawful linked ended).elim fun _ reviewed =>
    reviewed.1.handsOver

/-- An admitted review of a readable sheet ends well. -/
theorem reviewTransaction_of_admits (lawful : before.Lawful)
    (readable : ∀ row ∈ before.answers,
      row.attemptId = attemptId → row.read?.isSome)
    (admits : before.Admits now reviewer answerId review attemptId mark)
    (sums : SumsUp now attemptId (before.marking mark) after) :
    ∃ result, reviewTransaction reviewer attemptId answerId review now before =
        .ok (result, after) := by
  obtain @⟨attempt, row, outcome, earned, gradedBy, plain, reach, listed,
    scored, manages, inside, rfl, own, granted, stored, named⟩ := admits
  obtain @⟨totals, rawScore, maxScore, percentage, summed, scores⟩ := sums
  obtain ⟨assignment, assigned, sameAssignment, may⟩ := manages
  obtain ⟨answer, read⟩ := Option.isSome_iff_exists.mp (readable row inside own)
  obtain ⟨value, rfl⟩ := exists_value_of_read? read
  have plainRow : Column.hasNul row.id = false := plain _ List.mem_cons_self
  have plainAttempt := (lawful.sittings.keys attempt listed).plain
  have plainAssignment : Column.hasNul attempt.assignmentId = false := by
    rw [← sameAssignment]
    exact (lawful.assignments.keys assignment assigned).plain
  have reaches : ∀ table ∈ [Table.answers, .attempts, .assignments],
      before.CanReach [table] :=
    fun table inside => List.forall_mem_singleton.mpr (reach table inside)
  obtain ⟨reachAnswers, reachAttempts, reachAssignments⟩ :
      before.CanReach [.answers] ∧
      before.CanReach [.attempts] ∧ before.CanReach [.assignments] := by
    simpa using reaches
  have found := find?_key_eq_some lawful.sittings.ids listed
  have owned := find?_key_eq_some lawful.assignments.ids assigned
  have present := find?_key_eq_some lawful.sittings.answerIds inside
  -- The marked row is found and read again, and the sheet is read with it.
  set mark : HandMark :=
    ⟨row.id, earned, gradedBy, ⟨outcome, review.feedback, reviewer.id, now⟩⟩
  have present' := @find?_marking _ mark _ lawful.sittings.answerIds inside rfl
  obtain ⟨answers, sheet⟩ :=
    exists_mapM_eq_some (@isSome_read?_marking _ _ mark readable)
  obtain ⟨reviewed, read'⟩ :
      ∃ reviewed, (mark.onto row).read? = some reviewed :=
    Option.isSome_iff_exists.mp (isSome_read?_congr (by rfl)
        (readable row inside own))
  have tallies : totals? (answers.map SavedAnswer.tally) = some totals := by
    rw [map_tally sheet]
    exact summed
  have recorded := @recordScores_of_scores (before.marking mark) attempt
    (scoreUpdate totals totals.statusAfterManual now) _ _ _ plainAttempt
    reachAttempts lawful.sittings.ids listed scores.rawScore scores.maxScore
    scores.percentage
  refine ⟨(reviewed, Store.scored rawScore maxScore percentage
    (scoreUpdate totals totals.statusAfterManual now) attempt), ?_⟩
  simp only [reviewTransaction, bind_eq_ok, Transaction.lift_eq_ok,
    Transaction.demand_eq_ok, Transaction.require_eq_ok, attempt?_eq_ok,
    answer?_eq_ok, managedAssignment_eq_ok]
  refine ⟨some attempt, before, ⟨plainAttempt, reachAttempts, rfl, found.symm⟩,
    attempt, before, ⟨rfl, rfl⟩, assignment, before, ⟨plainAssignment,
      reachAssignments, rfl, ?_, may⟩, ⟨⟩, before, ⟨scored, rfl⟩, _, before,
    ⟨plainRow, reachAnswers, rfl, .inr ⟨row, _, rfl, read, present⟩⟩, _, before,
    ⟨rfl, rfl⟩, ?_⟩
  · rw [← sameAssignment]
    exact owned
  simp only [granted, bind_eq_ok, pure_eq_ok, Transaction.lift_eq_ok,
    Transaction.inRange_eq_ok, Transaction.demand_eq_ok,
    recordManualScore_eq_ok, answersOf_eq_ok]
  refine ⟨outcome, before, ⟨rfl, rfl⟩, reviewed, before.marking mark,
    ⟨plain, reachAnswers, earned, gradedBy, stored, named,
      rfl, mark.onto row, present', read'⟩, answers, before.marking mark,
    ⟨plainAttempt, reachAnswers, rfl, sheet⟩, totals, before.marking mark,
    ⟨tallies, rfl⟩, _, _, recorded, _, _, ⟨rfl, rfl⟩, rfl, rfl⟩

/-- A review is refused and leaves nothing, or it is admitted and leaves its
mark and the sums that follow from it. -/
theorem review_cases (context : Context) (reviewer : Caller) (answerId : String)
    (review : Review) (lawful : store.Lawful) (published : List ProgressEvent) :
    (∃ halt, Exam.review reviewer answerId review context ⟨store, published⟩ =
      (.error halt, ⟨store, published⟩)) ∨ ∃ attemptId mark result after,
      store.Admits context.now reviewer answerId review attemptId mark ∧
      SumsUp context.now attemptId (store.marking mark) after ∧
      Exam.review reviewer answerId review context ⟨store, published⟩ =
        (.ok result, ⟨after, published⟩) := by
  unfold Exam.review
  cases looked : attemptOfAnswer? answerId store with
  | error fault =>
      have failed : (Transaction.run ReportsFaults.ofFault
            (attemptOfAnswer? answerId) : Transaction AttemptError _) store =
          .error (.refused (.storage fault)) := by
        rw [Transaction.run, looked]
        rfl
      exact .inl ⟨_, Action.bind_apply_of_error (Action.commit_of_error failed)⟩
  | ok step =>
      obtain ⟨found, middle⟩ := step
      obtain ⟨-, -, same, linked⟩ := attemptOfAnswer?_eq_ok.mp looked
      subst same
      rw [Action.bind_apply_of_ok (Action.query_of_ok looked)]
      cases found with
      | none => exact .inl ⟨_, rfl⟩
      | some attemptId =>
          rw [Action.demand_bind_apply, Action.read_bind_apply]
          cases ended : reviewTransaction reviewer attemptId answerId review
              context.now middle with
          | error halt => exact .inl ⟨halt, Action.commit_of_error ended⟩
          | ok step =>
              obtain ⟨result, after⟩ := step
              obtain ⟨mark, admits, sums⟩ :=
                reviewTransaction_admits lawful linked.symm ended
              exact .inr ⟨attemptId, mark, result, after, admits, sums,
                Action.commit_of_ok ended⟩

/-- A review that is admitted ends well if the sums can be stored. -/
theorem review_of_admits (context : Context) (lawful : store.Lawful)
    (published : List ProgressEvent)
    (readable : ∀ row ∈ store.answers, row.attemptId = attemptId →
      row.read?.isSome)
    (admits : store.Admits context.now reviewer answerId review attemptId mark)
    (sums : SumsUp context.now attemptId (store.marking mark) after) :
    ∃ result, Exam.review reviewer answerId review context ⟨store, published⟩ =
        (.ok result, ⟨after, published⟩) := by
  obtain ⟨result, ended⟩ :=
    reviewTransaction_of_admits lawful readable admits sums
  obtain ⟨plain, reach, -, -, -, inside, rfl, own, -, -, -⟩ := admits
  have looked : attemptOfAnswer? _ store = .ok (some _, store) :=
    attemptOfAnswer?_eq_ok.mpr ⟨plain _ List.mem_cons_self,
      List.forall_mem_singleton.mpr (reach _ List.mem_cons_self), rfl, by
        rw [find?_key_eq_some lawful.sittings.answerIds inside,
          Option.map_some, own]⟩
  refine ⟨result, ?_⟩
  unfold Exam.review
  rw [Action.bind_apply_of_ok (Action.query_of_ok looked),
    Action.demand_bind_apply, Action.read_bind_apply]
  exact Action.commit_of_ok ended

end Exam

/-! ## Scores one after another -/

/-- What it leaves when somebody gives a score to an answer, or brings none: its
mark and the sums that follow from it, or nothing if the store does not admit
it. -/
inductive Store.ScoredBy (now : Instant) (store : Store) (answerId : String) :
    Option (Caller × Review) → Store → Prop where
  | marked {reviewer : Caller} {review : Review} {attemptId : String}
      {mark : HandMark} {after : Store}
      (admits : store.Admits now reviewer answerId review attemptId mark)
      (sums : SumsUp now attemptId (store.marking mark) after) :
      Store.ScoredBy now store answerId (some (reviewer, review)) after
  | refused {given : Option (Caller × Review)} (none : ∀ reviewer review,
        given = some (reviewer, review) → ∀ attemptId mark,
          ¬store.Admits now reviewer answerId review attemptId mark) :
      Store.ScoredBy now store answerId given store

theorem Store.Admits.attemptId_eq {row : SavedAnswer (Stored Answer)}
    (lawful : store.Lawful)
    (admits : store.Admits now reviewer row.id review attemptId mark)
    (listed : row ∈ store.answers) :
    attemptId = row.attemptId ∧ mark.answerId = row.id := by
  generalize named : row.id = answerId at admits
  obtain ⟨-, -, -, -, -, inside, rfl, own, -, -, -⟩ := admits
  obtain rfl := eq_of_key lawful.sittings.answerIds listed inside named
  exact ⟨own.symm, rfl⟩

namespace Store.ScoredBy

variable {given given' : Option (Caller × Review)} {middle last : Store}

theorem isAlike (scored : ScoredBy now before answerId given after)
    (ids : (before.attempts.map (·.id)).Nodup) : IsAlike before after := by
  cases scored with
  | marked admits sums =>
      obtain ⟨-, -, listed, isScored, -⟩ := admits
      exact sums.isAlike_of_marking ids listed isScored
  | refused => exact ⟨rfl, rfl, rfl, rfl⟩

theorem unique (lawful : before.Lawful)
    (scored : ScoredBy now before answerId given after)
    (scored' : ScoredBy now before answerId given last) : last = after := by
  cases scored with
  | marked admits sums =>
      cases scored' with
      | marked admits' sums' =>
          obtain ⟨rfl, rfl⟩ := admits.unique lawful admits'
          exact sums'.unique sums
      | refused none => exact absurd admits (none _ _ rfl _ _)
  | refused none =>
      cases scored' with
      | marked admits' => exact absurd admits' (none _ _ rfl _ _)
      | refused => rfl

/-- What a store admits, one like it admits as well, and it leaves the mark and
the sums there. -/
theorem eq_marked {attemptId : String} {mark : HandMark}
    (lawful : before.Lawful) (alike : IsAlike before middle)
    (admits : before.Admits now reviewer answerId review attemptId mark)
    (scored : ScoredBy now middle answerId (some (reviewer, review)) after) :
    SumsUp now attemptId (middle.marking mark) after := by
  cases scored with
  | marked admits' sums =>
      obtain ⟨rfl, rfl⟩ := admits.unique lawful (admits'.congr alike.symm)
      exact sums
  | refused none => exact absurd (admits.congr alike) (none _ _ rfl _ _)

/-- What a store does not admit, one like it does not admit either. -/
theorem eq_self (alike : IsAlike before middle)
    (none : ∀ reviewer review, given = some (reviewer, review) →
      ∀ attemptId mark,
        ¬before.Admits now reviewer answerId review attemptId mark)
    (scored : ScoredBy now middle answerId given after) : after = middle := by
  cases scored with
  | marked admits => exact absurd (admits.congr alike.symm) (none _ _ rfl _ _)
  | refused => rfl

/-- Scores of two answers of an attempt leave the same in either order. -/
theorem comm {left right : SavedAnswer (Stored Answer)} {other : Store}
    (lawful : before.Lawful) (leftListed : left ∈ before.answers)
    (rightListed : right ∈ before.answers)
    (same : left.attemptId = right.attemptId) (apart : left.id ≠ right.id)
    (first : ScoredBy now before left.id given middle)
    (second : ScoredBy now middle right.id given' after)
    (first' : ScoredBy now before right.id given' other)
    (second' : ScoredBy now other left.id given last) : last = after := by
  have alike := first.isAlike lawful.sittings.ids
  have alike' := first'.isAlike lawful.sittings.ids
  cases first with
  | refused none =>
      obtain rfl := eq_self alike' none second'
      exact unique lawful second first'
  | marked admits sums =>
      cases first' with
      | refused none =>
          obtain rfl := eq_self alike none second
          exact unique lawful (.marked admits sums) second'
      | marked admits' sums' =>
          obtain ⟨rfl, here⟩ := admits.attemptId_eq lawful leftListed
          obtain ⟨rfl, there⟩ := admits'.attemptId_eq lawful rightListed
          have sumsAfter := eq_marked lawful alike admits' second
          have sumsLast := eq_marked lawful alike' admits second'
          rw [← same] at sumsAfter sums'
          rw [sums.marking_iff, marking_comm (by rwa [here, there])]
            at sumsAfter
          rw [sums'.marking_iff] at sumsLast
          exact sumsLast.unique sumsAfter

/-- Of two scores of an answer the second one stays, if it is admitted. -/
theorem again {row : SavedAnswer (Stored Answer)} (lawful : before.Lawful)
    (listed : row ∈ before.answers)
    (admits : before.Admits now reviewer row.id review attemptId mark)
    (first : ScoredBy now before row.id given middle)
    (second : ScoredBy now middle row.id (some (reviewer, review)) after)
    (alone : ScoredBy now before row.id (some (reviewer, review)) last) :
    after = last := by
  have alike := first.isAlike lawful.sittings.ids
  have sumsAfter := eq_marked lawful alike admits second
  have sumsLast := eq_marked lawful ⟨rfl, rfl, rfl, rfl⟩ admits alone
  cases first with
  | refused => exact sumsAfter.unique sumsLast
  | marked admits' sums =>
      obtain ⟨rfl, here⟩ := admits.attemptId_eq lawful listed
      obtain ⟨rfl, there⟩ := admits'.attemptId_eq lawful listed
      rw [sums.marking_iff, marking_marking (there.trans here.symm)]
        at sumsAfter
      exact sumsAfter.unique sumsLast

end Store.ScoredBy

end Admission

end ExamHall
