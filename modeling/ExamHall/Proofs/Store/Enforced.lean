import ExamHall.Proofs.Lists
import ExamHall.Proofs.Store.Change

/-!
# Changes keep a store lawful

New rows are checked against the tables before they are added.  All other
changes keep the keys of the rows, and an attempt that leaves the state
`in_progress` stands in nobody's way.
-/

namespace ExamHall

open Store

/-! ## What changes of attempts and answers keep -/

/-- The fields of an attempt that are set when it starts and never change. -/
structure Attempt.Kept (before after : Attempt) : Prop where
  id : after.id = before.id
  assignmentId : after.assignmentId = before.assignmentId
  studentId : after.studentId = before.studentId
  number : after.number = before.number
  variantId : after.variantId = before.variantId
  variantIndex : after.variantIndex = before.variantIndex
  startedAt : after.startedAt = before.startedAt
  deadlineAt : after.deadlineAt = before.deadlineAt

namespace Attempt.Kept

theorem refl (attempt : Attempt) : Attempt.Kept attempt attempt :=
  ⟨rfl, rfl, rfl, rfl, rfl, rfl, rfl, rfl⟩

theorem trans {first second third : Attempt} (early : Attempt.Kept first second)
    (late : Attempt.Kept second third) : Attempt.Kept first third :=
  ⟨late.id.trans early.id, late.assignmentId.trans early.assignmentId,
    late.studentId.trans early.studentId, late.number.trans early.number,
    late.variantId.trans early.variantId,
    late.variantIndex.trans early.variantIndex,
    late.startedAt.trans early.startedAt,
    late.deadlineAt.trans early.deadlineAt⟩

theorem submitted (submittedAt now : Instant) (attempt : Attempt) :
    Attempt.Kept attempt (Store.submitted submittedAt now attempt) :=
  ⟨rfl, rfl, rfl, rfl, rfl, rfl, rfl, rfl⟩

theorem violated (now : Instant) (attempt : Attempt) :
    Attempt.Kept attempt (Store.violated now attempt) :=
  ⟨rfl, rfl, rfl, rfl, rfl, rfl, rfl, rfl⟩

theorem marked (reason : String) (now : Instant) (attempt : Attempt) :
    Attempt.Kept attempt (Store.marked reason now attempt) :=
  ⟨rfl, rfl, rfl, rfl, rfl, rfl, rfl, rfl⟩

theorem scored (rawScore maxScore percentage : Decimal) (update : ScoreUpdate)
    (attempt : Attempt) :
    Attempt.Kept attempt
      (Store.scored rawScore maxScore percentage update attempt) :=
  ⟨rfl, rfl, rfl, rfl, rfl, rfl, rfl, rfl⟩

theorem ite {holds : Bool} {change : Attempt → Attempt} {attempt : Attempt}
    (kept : Attempt.Kept attempt (change attempt)) :
    Attempt.Kept attempt (if holds then change attempt else attempt) := by
  split
  · exact kept
  · exact refl attempt

theorem conflicts {left left' right right' : Attempt}
    (leftKept : Attempt.Kept left left') (rightKept : Attempt.Kept right right')
    (leftRuns : left'.status = .inProgress → left.status = .inProgress)
    (rightRuns : right'.status = .inProgress → right.status = .inProgress)
    (apart : Store.conflicts left right = false) :
    Store.conflicts left' right' = false := by
  simp only [Store.conflicts, Store.isSameSitter, leftKept.id,
    leftKept.assignmentId, leftKept.studentId, leftKept.number, rightKept.id,
    rightKept.assignmentId, rightKept.studentId, rightKept.number,
    Bool.or_eq_false_iff, Bool.and_eq_false_iff, decide_eq_false_iff_not]
    at apart ⊢
  grind

end Attempt.Kept

/-- The id of a row, and the attempt and the question that it is for. -/
def SavedAnswer.key {π : Type} (row : SavedAnswer π) :
    String × String × String :=
  (row.id, row.attemptId, row.questionId)

theorem RowGraded.key {questions : List VariantQuestion} {now : Instant}
    {row graded : SavedAnswer (Stored Answer)}
    (change : RowGraded questions now row graded) : graded.key = row.key := by
  cases change with
  | passedOver => rfl
  | scored => rfl

theorem Grades.keys {now : Instant} {store : Store} {attempt : Attempt}
    {added answers : List (SavedAnswer (Stored Answer))} {totals : Totals}
    (grades : Grades now store attempt added answers totals) :
    answers.map SavedAnswer.key =
      (store.answers ++ added).map SavedAnswer.key := by
  obtain ⟨questions, -, -, pairs, -⟩ := grades.rows
  apply map_eq_of_forall₂ pairs
  intro row graded change
  split at change
  · exact change.key
  · rw [change]

/-! ## Tables -/

section Tables

variable {tests tests' : List GeneratedTest}
  {assignments assignments' : List Assignment}
  {variants variants' : List (Variant (Stored (List VariantQuestion)))}
  {roster : List RosterEntry} {attempts : List Attempt}
  {answers answers' : List (SavedAnswer (Stored Answer))}

theorem LawfulAssignments.mono_tests
    (lawful : LawfulAssignments tests assignments roster)
    (more : tests.map (·.id) ⊆ tests'.map (·.id)) :
    LawfulAssignments tests' assignments roster :=
  { lawful with
      tests := fun assignment inside => more (lawful.tests assignment inside) }

theorem LawfulSittings.mono
    (lawful : LawfulSittings assignments variants attempts answers)
    (moreAssignments : assignments.map (·.id) ⊆ assignments'.map (·.id))
    (moreVariants : variants.map (·.id) ⊆ variants'.map (·.id)) :
    LawfulSittings assignments' variants' attempts answers :=
  { lawful with
    assignments := fun attempt inside =>
      moreAssignments (lawful.assignments attempt inside)
    variants := fun attempt inside =>
      moreVariants (lawful.variants attempt inside) }

/-- Rows of answers may change in everything but their keys. -/
theorem LawfulSittings.withAnswers
    (lawful : LawfulSittings assignments variants attempts answers)
    (same : answers'.map SavedAnswer.key = answers.map SavedAnswer.key) :
    LawfulSittings assignments variants attempts answers' := by
  have ids : answers'.map (·.id) = answers.map (·.id) := by
    have := congrArg (List.map Prod.fst) same
    simpa [SavedAnswer.key, Function.comp_def] using this
  have known : ∀ row ∈ answers', ∃ old ∈ answers, old.key = row.key := by
    intro row inside
    exact List.mem_map.mp (same ▸ List.mem_map_of_mem inside)
  refine { lawful with
    answerIds := ids ▸ lawful.answerIds, answerKeys := ?_, answered := ?_,
    answersApart := ?_ }
  · intro row inside
    obtain ⟨old, listed, sameKey⟩ := known row inside
    have sameId : old.id = row.id := congrArg Prod.fst sameKey
    exact sameId ▸ lawful.answerKeys old listed
  · intro row inside
    obtain ⟨old, listed, sameKey⟩ := known row inside
    have sameAttempt : old.attemptId = row.attemptId := congrArg (·.2.1) sameKey
    exact sameAttempt ▸ lawful.answered old listed
  · have pairs : (answers'.map SavedAnswer.key).Pairwise fun left right =>
        (right.2.1 == left.2.1 && right.2.2 == left.2.2) = false := by
      rw [same, List.pairwise_map]
      exact lawful.answersApart
    rw [List.pairwise_map] at pairs
    exact pairs

/-- Attempts may change in what does not identify them, as long as none returns
to the state `in_progress`. -/
theorem LawfulSittings.updateAttempts
    (lawful : LawfulSittings assignments variants attempts answers)
    {holds : Attempt → Bool} {change : Attempt → Attempt}
    (kept : ∀ attempt, Attempt.Kept attempt (change attempt))
    (runs : ∀ attempt, holds attempt = true →
      (change attempt).status = .inProgress → attempt.status = .inProgress) :
    LawfulSittings assignments variants
      (updateWhere holds change attempts) answers := by
  have ids : (updateWhere holds change attempts).map (·.id) =
      attempts.map (·.id) :=
    map_updateWhere fun attempt => (kept attempt).id
  refine { lawful with
    ids := ids ▸ lawful.ids, answered := ids ▸ lawful.answered
    keys := ?_, assignments := ?_, variants := ?_, apart := ?_ }
  · exact forall_mem_updateWhere lawful.keys fun attempt inside _ =>
      (kept attempt).id ▸ lawful.keys attempt inside
  · exact forall_mem_updateWhere lawful.assignments fun attempt inside _ =>
      (kept attempt).assignmentId ▸ lawful.assignments attempt inside
  · exact forall_mem_updateWhere lawful.variants fun attempt inside _ =>
      (kept attempt).variantId ▸ lawful.variants attempt inside
  · apply pairwise_updateWhere lawful.apart
    intro left right apart
    refine Attempt.Kept.conflicts (.ite (kept left)) (.ite (kept right))
      ?_ ?_ apart
    · split
      · next selected => exact runs left selected
      · exact id
    · split
      · next selected => exact runs right selected
      · exact id

end Tables

/-! ## Changes -/

theorem Generates.lawfulTests {store : Store} {test : GeneratedTest}
    {variants : List (Variant (Stored (List VariantQuestion)))}
    (generates : Generates store test variants)
    (lawful : LawfulTests store.tests store.variants) :
    LawfulTests (store.tests ++ [test]) (store.variants ++ variants) := by
  refine ⟨nodup_map_append_singleton lawful.ids generates.fresh, ?_,
    generates.variantIds, ?_, ?_, generates.places⟩
  · intro other inside
    rcases List.mem_append.mp inside with old | new
    · exact lawful.keys other old
    · exact List.mem_singleton.mp new ▸ generates.key
  · intro variant inside
    rcases List.mem_append.mp inside with old | new
    · exact lawful.variantKeys variant old
    · exact generates.variantKeys variant new
  · intro variant inside
    rw [List.map_append]
    rcases List.mem_append.mp inside with old | new
    · exact List.mem_append_left _ (lawful.variantTests variant old)
    · rw [generates.variantTests variant new]
      exact List.mem_append_right _ List.mem_cons_self

theorem Assigns.lawfulAssignments {store : Store} {assignment : Assignment}
    {entries : List RosterEntry} (assigns : Assigns store assignment entries)
    (lawful : LawfulAssignments store.tests store.assignments store.roster) :
    LawfulAssignments store.tests
      (store.assignments ++ [assignment]) (store.roster ++ entries) := by
  have each : ∀ {good : Assignment → Prop},
      (∀ other ∈ store.assignments, good other) → good assignment →
      ∀ other ∈ store.assignments ++ [assignment], good other := by
    intro good old new other inside
    rcases List.mem_append.mp inside with listed | last
    · exact old other listed
    · exact List.mem_singleton.mp last ▸ new
  refine ⟨nodup_map_append_singleton lawful.ids assigns.fresh,
    each lawful.keys assigns.key,
    each lawful.tests assigns.test, each lawful.duration assigns.duration,
    each lawful.maxAttempts assigns.maxAttempts, ?_, ?_⟩
  · intro entry inside
    rcases List.mem_append.mp inside with old | new
    · exact lawful.students entry old
    · exact assigns.students entry new
  · intro entry inside
    rw [List.map_append]
    rcases List.mem_append.mp inside with old | new
    · exact List.mem_append_left _ (lawful.enrolled entry old)
    · rw [assigns.enrolled entry new]
      exact List.mem_append_right _ List.mem_cons_self

theorem ids_close (assignments : List Assignment) (id : String)
    (now : Instant) :
    (updateWhere (isOpen id) (Store.closed now) assignments).map (·.id) =
      assignments.map (·.id) :=
  map_updateWhere fun _ => rfl

theorem lawfulAssignments_close {tests : List GeneratedTest}
    {assignments : List Assignment} {roster : List RosterEntry}
    (lawful : LawfulAssignments tests assignments roster)
    (id : String) (now : Instant) :
    LawfulAssignments tests
      (updateWhere (isOpen id) (Store.closed now) assignments) roster := by
  have ids := ids_close assignments id now
  refine { lawful with
    ids := ids ▸ lawful.ids, enrolled := ids ▸ lawful.enrolled
    keys := ?_, tests := ?_, duration := ?_, maxAttempts := ?_ }
  · exact forall_mem_updateWhere lawful.keys fun assignment inside _ =>
      lawful.keys assignment inside
  · exact forall_mem_updateWhere lawful.tests fun assignment inside _ =>
      lawful.tests assignment inside
  · exact forall_mem_updateWhere lawful.duration fun assignment inside _ =>
      lawful.duration assignment inside
  · exact forall_mem_updateWhere lawful.maxAttempts fun assignment inside _ =>
      lawful.maxAttempts assignment inside

theorem Opens.lawfulSittings {now : Instant} {store : Store}
    {assignment : Assignment}
    {variant : Variant (Stored (List VariantQuestion))} {attempt : Attempt}
    (opens : Opens now store assignment variant attempt)
    (lawful : store.Lawful) :
    LawfulSittings store.assignments store.variants
      (store.attempts ++ [attempt])
      store.answers := by
  have sittings := lawful.sittings
  obtain ⟨_, _, _, _, _, _, _, _, begun⟩ := opens.begun
  have each : ∀ {good : Attempt → Prop},
      (∀ other ∈ store.attempts, good other) →
      good attempt → ∀ other ∈ store.attempts ++ [attempt], good other := by
    intro good old new other inside
    rcases List.mem_append.mp inside with listed | last
    · exact old other listed
    · exact List.mem_singleton.mp last ▸ new
  refine { sittings with
    ids := nodup_map_append_singleton sittings.ids opens.fresh
    keys := each sittings.keys opens.key
    assignments := each sittings.assignments ?_
    variants := each sittings.variants ?_
    apart := pairwise_append_singleton sittings.apart ?_
    answered := ?_ }
  · rw [begun]
    exact List.mem_map_of_mem opens.listed
  · rw [begun]
    exact List.mem_map_of_mem opens.dealt
  · intro other inside
    rw [conflicts_comm]
    exact opens.apart other inside
  · intro row inside
    rw [List.map_append]
    exact List.mem_append_left _ (sittings.answered row inside)

theorem Saves.lawfulSittings {now : Instant} {store : Store} {attempt : Attempt}
    {row : SavedAnswer (Stored Answer)} (saves : Saves now store attempt row)
    (first : ∀ other ∈ store.answers,
      isAnswerTo row.attemptId row.questionId other = false)
    (lawful : LawfulSittings store.assignments store.variants store.attempts
      store.answers) :
    LawfulSittings store.assignments store.variants store.attempts
      (store.answers ++ [row]) := by
  have each : ∀ {good : SavedAnswer (Stored Answer) → Prop},
      (∀ other ∈ store.answers, good other) →
      good row → ∀ other ∈ store.answers ++ [row], good other := by
    intro good old new other inside
    rcases List.mem_append.mp inside with listed | last
    · exact old other listed
    · exact List.mem_singleton.mp last ▸ new
  refine { lawful with
    answerIds := nodup_map_append_singleton lawful.answerIds saves.fresh
    answerKeys := each lawful.answerKeys saves.plain
    answered := each lawful.answered ?_
    answersApart := pairwise_append_singleton lawful.answersApart ?_ }
  · rw [saves.attemptId]
    exact List.mem_map_of_mem saves.worked.listed
  · intro other inside
    rw [isAnswerTo_comm]
    exact first other inside

theorem Fills.lawfulSittings {now : Instant} {store : Store} {attempt : Attempt}
    {questions : List VariantQuestion}
    {added : List (SavedAnswer (Stored Answer))}
    (fills : Fills now store attempt questions added)
    (listed : attempt ∈ store.attempts)
    (lawful : LawfulSittings store.assignments
      store.variants store.attempts store.answers) :
    LawfulSittings store.assignments store.variants store.attempts
      (store.answers ++ added) := by
  refine { lawful with
    answerIds := fills.ids, answersApart := fills.apart, answerKeys := ?_,
    answered := ?_ }
  · intro row inside
    rcases List.mem_append.mp inside with old | new
    · exact lawful.answerKeys row old
    · exact fills.plain row new
  · intro row inside
    rcases List.mem_append.mp inside with old | new
    · exact lawful.answered row old
    · rw [(fills.rows row new).2]
      exact List.mem_map_of_mem listed

theorem Grades.lawfulSittings {now : Instant} {store : Store}
    {attempt : Attempt} {added answers : List (SavedAnswer (Stored Answer))}
    {totals : Totals} (grades : Grades now store attempt added answers totals)
    (lawful : LawfulSittings store.assignments
      store.variants store.attempts store.answers) :
    LawfulSittings store.assignments store.variants store.attempts answers := by
  obtain ⟨_, _, fills, _⟩ := grades.rows
  exact (fills.lawfulSittings grades.listed lawful).withAnswers grades.keys

theorem Reviews.lawfulSittings {store : Store} {attempt : Attempt}
    {row : SavedAnswer (Stored Answer)} {outcome : GradeOutcome}
    {earned : Decimal} {answers : List (SavedAnswer (Stored Answer))}
    {totals : Totals}
    (reviews : Reviews store attempt row outcome earned answers totals)
    (lawful : LawfulSittings store.assignments
      store.variants store.attempts store.answers) :
    LawfulSittings store.assignments store.variants store.attempts answers := by
  obtain ⟨_, _, _, rfl⟩ := reviews.changed
  exact lawful.withAnswers (map_updateWhere fun _ => rfl)

/-! ## The status after grading -/

theorem Totals.isScored_statusAfterAuto (totals : Totals) :
    totals.statusAfterAuto.isScored = true := by
  unfold Totals.statusAfterAuto
  split <;> rfl

theorem Totals.isScored_statusAfterManual (totals : Totals) :
    totals.statusAfterManual.isScored = true := by
  unfold Totals.statusAfterManual
  split <;> rfl

theorem AttemptStatus.ne_inProgress_of_isScored {status : AttemptStatus}
    (scored : status.isScored = true) : status ≠ .inProgress := by
  rintro rfl
  cases scored

theorem AttemptStatus.ne_submitted_of_isScored {status : AttemptStatus}
    (scored : status.isScored = true) : status ≠ .submitted := by
  rintro rfl
  cases scored

/-- Every change keeps a store lawful. -/
theorem Change.lawful {now : Instant} {before after : Store}
    (change : Change now before after) (lawful : before.Lawful) :
    after.Lawful := by
  obtain ⟨bank, tests, assignments, sittings⟩ := lawful
  cases change with
  | generated generates =>
      refine ⟨bank, generates.lawfulTests tests, assignments.mono_tests ?_,
        sittings.mono ?_ ?_⟩
      · exact List.map_subset _ (List.subset_append_left _ _)
      · exact List.Subset.refl _
      · exact List.map_subset _ (List.subset_append_left _ _)
  | assigned assigns =>
      refine ⟨bank, tests, assigns.lawfulAssignments assignments,
        sittings.mono ?_ ?_⟩
      · exact List.map_subset _ (List.subset_append_left _ _)
      · exact List.Subset.refl _
  | @closed id =>
      refine ⟨bank, tests, lawfulAssignments_close assignments id now,
        sittings.mono ?_ ?_⟩
      · exact (ids_close before.assignments id now).symm ▸ List.Subset.refl _
      · exact List.Subset.refl _
  | opened opens =>
      exact ⟨bank, tests, assignments,
        opens.lawfulSittings ⟨bank, tests, assignments, sittings⟩⟩
  | submitted closes =>
      refine ⟨bank, tests, assignments,
        sittings.updateAttempts (.submitted _ now) ?_⟩
      intro attempt _ runs
      cases runs
  | violated worked =>
      exact ⟨bank, tests, assignments,
        sittings.updateAttempts (.violated now) fun _ _ => id⟩
  | flagged worked =>
      exact ⟨bank, tests, assignments,
        sittings.updateAttempts (.marked _ now) fun _ _ => id⟩
  | saved saves first =>
      exact ⟨bank, tests, assignments, saves.lawfulSittings first sittings⟩
  | resaved saves =>
      exact ⟨bank, tests, assignments,
        sittings.withAnswers (map_updateWhere fun _ => rfl)⟩
  | graded grades scores =>
      refine ⟨bank, tests, assignments,
        (grades.lawfulSittings sittings).updateAttempts (.scored _ _ _ _) ?_⟩
      intro attempt _ runs
      exact absurd runs (AttemptStatus.ne_inProgress_of_isScored
          (Totals.isScored_statusAfterAuto _))
  | reviewed reviews scores =>
      refine ⟨bank, tests, assignments,
        (reviews.lawfulSittings sittings).updateAttempts (.scored _ _ _ _) ?_⟩
      intro attempt _ runs
      exact absurd runs (AttemptStatus.ne_inProgress_of_isScored
          (Totals.isScored_statusAfterManual _))

theorem Reaches.lawful {now : Instant} {before after : Store}
    (changes : Reaches now before after) (lawful : before.Lawful) :
    after.Lawful := by
  induction changes with
  | refl => exact lawful
  | tail _ change ih => exact change.lawful ih

/-- What each change keeps, any number of changes keep. -/
theorem Reaches.keeps {now : Instant} {before after : Store}
    {kept : Store → Prop} (changes : Reaches now before after)
    (lawful : before.Lawful)
    (changed : ∀ {before after}, Change now before after → before.Lawful →
      kept before → kept after) (holds : kept before) : kept after := by
  induction changes with
  | refl => exact holds
  | tail early change ih =>
      exact changed change (Reaches.lawful early lawful) ih

end ExamHall
