import ExamHall.Proofs.Store.Enforced
import ExamHall.Proofs.Store.Writing

/-!
# Filling and grading a sheet

Each question of an attempt gets a row, and each row is graded once.
-/

/-!
## Filling a sheet

Before an attempt is graded, each question without an answer gets an empty one.
The new rows have ids of their own, and every question has its row afterwards.
-/

namespace ExamHall

open Store

theorem answerId_fresh (store : Store) :
    idOf "answer" (nextAnswerNumber store) ∉ store.answers.map (·.id) :=
  idOf_freshNumber_not_mem _ _ _

theorem answerId_plain (number : Nat) :
    Column.hasNul (idOf "answer" number) = false := by
  have plain : Column.hasNul "answer" = false := by decide +kernel
  exact hasNul_idOf plain number

/-- What has been added when each question of a list has its row. -/
structure Filled (attemptId : String) (now : Instant)
    (questions : List (String × Decimal)) (store : Store)
    (added : List (SavedAnswer (Stored Answer))) : Prop where
  rows : ∀ row ∈ added, (row.questionId, row.maxPoints) ∈ questions ∧
    row = unscored row.id attemptId row.questionId row.maxPoints now
  ids : (store.answers.map (·.id)).Nodup →
    ((store.answers ++ added).map (·.id)).Nodup
  plain : ∀ row ∈ added, Column.hasNul row.id = false
  apart : (store.answers.Pairwise fun left right =>
      isAnswerTo left.attemptId left.questionId right = false) →
    (store.answers ++ added).Pairwise fun left right =>
      isAnswerTo left.attemptId left.questionId right = false
  complete : ∀ question ∈ questions, ∃ row ∈ store.answers ++ added,
    isAnswerTo attemptId question.1 row = true

namespace Filled

variable {attemptId : String} {now : Instant} {rest : List (String × Decimal)}
  {question : String × Decimal} {store : Store}
  {added : List (SavedAnswer (Stored Answer))}

theorem nil (attemptId : String) (now : Instant) (store : Store) :
    Filled attemptId now [] store [] := by
  refine ⟨fun row inside => ?_, fun ids => ?_, fun row inside => ?_,
    fun apart => ?_, fun question inside => ?_⟩
  · cases inside
  · rwa [List.append_nil]
  · cases inside
  · rwa [List.append_nil]
  · cases inside

/-- A question that has its row already is passed over. -/
theorem present (filled : Filled attemptId now rest store added)
    (present : store.answers.any (isAnswerTo attemptId question.1) = true) :
    Filled attemptId now (question :: rest) store added := by
  refine ⟨fun row inside => ?_, filled.ids, filled.plain, filled.apart, ?_⟩
  · obtain ⟨listed, made⟩ := filled.rows row inside
    exact ⟨List.mem_cons_of_mem question listed, made⟩
  · intro wanted listed
    rcases List.mem_cons.mp listed with rfl | later
    · obtain ⟨row, inside, same⟩ := List.any_eq_true.mp present
      exact ⟨row, List.mem_append_left added inside, same⟩
    · exact filled.complete wanted later

/-- A question without a row gets one before the questions after it. -/
theorem absent {row : SavedAnswer (Stored Answer)}
    (made : row = unscored (idOf "answer" (nextAnswerNumber store)) attemptId
      question.1 question.2 now)
    (filled : Filled attemptId now rest
      (withAnswer store (nextAnswerNumber store) row) added)
    (absent : ∀ other ∈ store.answers,
      isAnswerTo attemptId question.1 other = false) :
    Filled attemptId now (question :: rest) store (row :: added) := by
  have shift : (withAnswer store (nextAnswerNumber store) row).answers ++
      added = store.answers ++ row :: added := by
    simp [withAnswer]
  obtain ⟨rows, ids, plain, apart, complete⟩ := filled
  rw [shift] at ids apart complete
  subst made
  refine ⟨?_, fun distinct => ?_, ?_, fun separate => ?_, ?_⟩
  · refine List.forall_mem_cons.mpr ⟨⟨List.mem_cons_self, rfl⟩,
      fun other later => ?_⟩
    obtain ⟨listed, made⟩ := rows other later
    exact ⟨List.mem_cons_of_mem question listed, made⟩
  · exact ids (nodup_map_append_singleton distinct (answerId_fresh store))
  · exact List.forall_mem_cons.mpr ⟨answerId_plain _, plain⟩
  · refine apart (pairwise_append_singleton separate fun other inside => ?_)
    rw [isAnswerTo_comm]
    exact absent other inside
  · refine List.forall_mem_cons.mpr
      ⟨⟨_, List.mem_append_right _ List.mem_cons_self, ?_⟩, complete⟩
    simp [isAnswerTo, unscored]

end Filled

/-- Adding rows question by question only appends to the answers. -/
theorem exists_filled (attemptId : String) (now : Instant)
    (questions : List (String × Decimal)) (store : Store) :
    ∃ added issued, Filled attemptId now questions store added ∧
      questions.foldl (withUnanswered attemptId now) store =
        { store with answers := store.answers ++ added, issued } := by
  induction questions generalizing store with
  | nil =>
      refine ⟨[], store.issued, .nil attemptId now store, ?_⟩
      rw [List.foldl_nil, List.append_nil]
  | cons question rest ih =>
      rw [List.foldl_cons, withUnanswered]
      split
      · next present =>
          obtain ⟨added, issued, filled, ended⟩ := ih store
          exact ⟨added, issued, filled.present present, ended⟩
      · next none =>
          obtain ⟨added, issued, filled, ended⟩ := ih (withAnswer store _ _)
          refine ⟨_ :: added, issued, filled.absent rfl fun other inside => ?_,
            ended.trans ?_⟩
          · exact Bool.eq_false_iff.mpr fun same =>
              none (List.any_eq_true.mpr ⟨other, inside, same⟩)
          · simp [withAnswer]

/-- The rows that are stored for the questions without an answer. -/
theorem mem_of_unanswered {questions : List VariantQuestion}
    {answers : List (SavedAnswer Answer)} {question : String × Decimal}
    (membership : question ∈ Exam.unanswered questions answers) :
    ∃ asked ∈ questions, question = (asked.questionId, asked.points) ∧
      ∀ answer ∈ answers, answer.questionId ≠ asked.questionId := by
  obtain ⟨asked, inside, rfl⟩ := List.mem_map.mp membership
  obtain ⟨listed, missing⟩ := List.mem_filter.mp inside
  refine ⟨asked, listed, rfl, fun answer present same => ?_⟩
  have : asked.questionId ∈ answers.map (·.questionId) :=
    List.mem_map.mpr ⟨answer, present, same⟩
  simp [this] at missing

theorem mem_unanswered {questions : List VariantQuestion}
    {answers : List (SavedAnswer Answer)} {asked : VariantQuestion}
    (listed : asked ∈ questions)
    (missing : ∀ answer ∈ answers, answer.questionId ≠ asked.questionId) :
    (asked.questionId, asked.points) ∈ Exam.unanswered questions answers := by
  refine List.mem_map.mpr ⟨asked, List.mem_filter.mpr ⟨listed, ?_⟩, rfl⟩
  rw [Bool.not_eq_true', Bool.eq_false_iff]
  intro present
  obtain ⟨answer, inside, same⟩ :=
    List.mem_map.mp (List.contains_iff_mem.mp present)
  exact missing answer inside same

end ExamHall

/-!
## Grading the answers of an attempt

The answers are graded one after another, each by its id.  Since ids differ,
every row of the attempt is graded once, from what it was before, and no other
row is touched.
-/

namespace ExamHall

open Store

/-- Reading a row changes only its value. -/
theorem exists_value_of_read? {row : SavedAnswer (Stored Answer)}
    {answer : SavedAnswer Answer} (read : row.read? = some answer) :
    ∃ value, answer = { row with value := value } := by
  unfold SavedAnswer.read? at read
  split at read
  · exact ⟨none, (Option.some.inj read).symm⟩
  · obtain ⟨value, -, rfl⟩ := Option.map_eq_some_iff.mp read
    exact ⟨some value, rfl⟩

/-- What is read of a row is up to its value. -/
theorem read?_congr {row row' : SavedAnswer (Stored Answer)}
    {value : Option Answer} (same : row'.value = row.value)
    (read : row.read? = some { row with value }) :
    row'.read? = some { row' with value } := by
  unfold SavedAnswer.read? at read ⊢
  rw [same]
  cases stored : row.value with
  | none =>
      simp only [stored, Option.some.injEq] at read ⊢
      obtain rfl : none = value := congrArg SavedAnswer.value read
      rfl
  | some document =>
      simp only [stored, Option.map_eq_some_iff] at read ⊢
      obtain ⟨answer, known, made⟩ := read
      obtain rfl : some answer = value := congrArg SavedAnswer.value made
      exact ⟨answer, known, rfl⟩

theorem isSome_read?_congr {row row' : SavedAnswer (Stored Answer)}
    (same : row'.value = row.value) (readable : row.read?.isSome) :
    row'.read?.isSome := by
  obtain ⟨answer, read⟩ := Option.isSome_iff_exists.mp readable
  obtain ⟨value, rfl⟩ := exists_value_of_read? read
  rw [read?_congr same read]
  rfl

/-- An answer to a question that the variant does not have adds nothing to the
totals. -/
theorem tally?_of_foreign {questions : List VariantQuestion}
    {row : SavedAnswer (Stored Answer)}
    (foreign : questions.find? (·.questionId == row.questionId) = none) :
    tally? questions row = none := by
  unfold tally?
  cases read : row.read? with
  | none => rfl
  | some answer =>
      obtain ⟨_, rfl⟩ := exists_value_of_read? read
      rw [Option.bind_some, answerTally?, foreign]
      rfl

theorem tally?_of_graded {questions : List VariantQuestion}
    {row : SavedAnswer (Stored Answer)} {question : VariantQuestion}
    {answer : SavedAnswer Answer} {outcome : GradeOutcome}
    (found : questions.find? (·.questionId == row.questionId) = some question)
    (read : row.read? = some answer)
    (graded : Grading.grade? question.payload question.points answer.value =
      some outcome) : tally? questions row = some ⟨outcome.earned,
        roundPoints question.points, outcome.needsManual⟩ := by
  rw [tally?, read, Option.bind_some]
  obtain ⟨_, rfl⟩ := exists_value_of_read? read
  rw [answerTally?, found, Option.bind_eq_bind, Option.bind_some, graded]
  rfl

namespace Exam

variable {variant : Variant (List VariantQuestion)} {now : Instant}
  {before after : Store}

theorem gradeAnswer_eq_ok {answer : SavedAnswer Answer} {tally : Option Tally} :
    gradeAnswer variant now answer before = .ok (tally, after) ↔
      match variant.questions.find? (·.questionId == answer.questionId) with
      | none => tally = none ∧ after = before
      | some question =>
        ∃ outcome, Grading.grade? question.payload question.points
            answer.value = some outcome ∧
            Column.hasNul answer.id = false ∧ before.CanReach [.answers] ∧
            ∃ earned most, Column.points outcome.earned = .ok earned ∧
              Column.points (roundPoints question.points) = .ok most ∧
            after = { before with
              answers := updateWhere (fun other => other.id == answer.id)
                (gradedAnswer earned most ⟨outcome, roundPoints question.points,
                  now⟩) before.answers } ∧
            tally = some ⟨outcome.earned, roundPoints question.points,
              outcome.needsManual⟩ := by
  unfold gradeAnswer Variant.question?
  cases variant.questions.find? fun question =>
    question.questionId == answer.questionId with
  | none => simp
  | some question =>
      simp only [bind_eq_ok, Transaction.inRange_eq_ok, Transaction.lift_eq_ok,
        recordScore_eq_ok, pure_eq_ok]
      constructor
      · rintro ⟨outcome, _, ⟨graded, rfl⟩, _, _,
          ⟨plain, reached, earned, most, kept, bound, rfl⟩,
          rfl, rfl⟩
        exact ⟨outcome, graded, plain, reached, earned, most, kept, bound,
          rfl, rfl⟩
      · rintro ⟨outcome, graded, plain, reached, earned, most, kept, bound,
          rfl, rfl⟩
        exact ⟨outcome, before, ⟨graded, rfl⟩, ⟨⟩, _,
          ⟨plain, reached, earned, most, kept, bound,
          rfl⟩, rfl, rfl⟩

theorem answerTally?_eq {answer : SavedAnswer Answer} {tally : Option Tally}
    (graded : gradeAnswer variant now answer before = .ok (tally, after)) :
    answerTally? variant.questions answer = tally := by
  have ended := gradeAnswer_eq_ok.mp graded
  unfold answerTally?
  split at ended
  · next missing => simp [missing, ended.1]
  · next question found =>
      obtain ⟨outcome, gradedTo, -, -, _, _, -, -, -, rfl⟩ := ended
      simp [found, gradedTo]

/-- The rows after some answers have been graded, which are known by their
ids. -/
def AreGraded (questions : List VariantQuestion) (now : Instant)
    (answers : List (SavedAnswer Answer))
    (rows graded : List (SavedAnswer (Stored Answer))) : Prop :=
  List.Forall₂ (fun row after =>
    if row.id ∈ answers.map (·.id) then RowGraded questions now row after
    else after = row)
    rows graded

/-- One graded answer is one changed row, whose id no other row has. -/
theorem areGraded_singleton {answer : SavedAnswer Answer} {tally : Option Tally}
    (ids : (before.answers.map (·.id)).Nodup) (listed : ∃ row ∈ before.answers,
      row.read? = some answer)
    (graded : gradeAnswer variant now answer before = .ok (tally, after)) :
    ∃ rows, after = { before with answers := rows } ∧
      AreGraded variant.questions now [answer] before.answers rows := by
  obtain ⟨row, inside, read⟩ := listed
  have rowOf : ∀ other ∈ before.answers, other.id = answer.id →
      other = row := by
    intro other present same
    obtain ⟨_, rfl⟩ := exists_value_of_read? read
    exact eq_of_key ids present inside same
  have sameQuestion : row.questionId = answer.questionId := by
    obtain ⟨_, rfl⟩ := exists_value_of_read? read
    rfl
  have ended := gradeAnswer_eq_ok.mp graded
  unfold AreGraded
  simp only [List.map_cons, List.map_nil, List.mem_singleton]
  split at ended
  · next missing =>
      refine ⟨before.answers, ended.2,
        List.forall₂_same.mpr fun other present => ?_⟩
      split
      · next same =>
          rw [rowOf other present same]
          exact .passedOver (sameQuestion ▸ missing)
      · rfl
  · next question found =>
      obtain ⟨outcome, gradedTo, -, -, earned, most, kept, bound, rfl, -⟩ :=
        ended
      refine ⟨_, rfl, List.forall₂_map_right_iff.mpr
        (List.forall₂_same.mpr fun other present => ?_)⟩
      by_cases same : other.id = answer.id
      · obtain rfl := rowOf other present same
        rw [if_pos same, if_pos (by simpa using same)]
        exact .scored (sameQuestion ▸ found) read gradedTo kept bound
      · rw [if_neg same, if_neg (by simpa using same)]

theorem AreGraded.trans {questions : List VariantQuestion}
    {answer : SavedAnswer Answer} {rest : List (SavedAnswer Answer)}
    {rows middle graded : List (SavedAnswer (Stored Answer))}
    (other : answer.id ∉ rest.map (·.id))
    (first : AreGraded questions now [answer] rows middle)
    (later : AreGraded questions now rest middle graded) :
    AreGraded questions now (answer :: rest) rows graded := by
  unfold AreGraded at first
  induction first generalizing graded with
  | nil =>
      cases later
      exact List.Forall₂.nil
  | @cons row row' rows middle here _ ih =>
      cases later with
      | cons next others =>
          refine List.Forall₂.cons ?_ (ih others)
          simp only [List.map_cons, List.map_nil, List.mem_singleton] at here
          simp only [List.map_cons, List.mem_cons]
          by_cases same : row.id = answer.id
          · rw [if_pos same] at here
            rw [if_pos (.inl same)]
            have sameId : row'.id = row.id := congrArg Prod.fst here.key
            rw [if_neg (by rwa [sameId, same])] at next
            rwa [next]
          · rw [if_neg same] at here
            subst here
            by_cases listed : row'.id ∈ rest.map (·.id)
            · rw [if_pos listed] at next
              rwa [if_pos (.inr listed)]
            · rw [if_neg listed] at next
              rwa [if_neg (not_or.mpr ⟨same, listed⟩)]

/-- Grading a list of answers grades the rows with their ids, and adds up what
the answers bring. -/
theorem gradeAnswers_areGraded {answers : List (SavedAnswer Answer)}
    {tallies : List Tally} (ids : (before.answers.map (·.id)).Nodup)
    (distinct : (answers.map (·.id)).Nodup)
    (listed : ∀ answer ∈ answers, ∃ row ∈ before.answers,
      row.read? = some answer)
    (graded : gradeAnswers variant now answers before = .ok (tallies, after)) :
    tallies = answers.filterMap (answerTally? variant.questions) ∧ ∃ rows,
      after = { before with answers := rows } ∧
      AreGraded variant.questions now answers before.answers rows := by
  induction answers generalizing before tallies with
  | nil =>
      obtain ⟨rfl, rfl⟩ := pure_eq_ok.mp graded
      refine ⟨rfl, after.answers, rfl, List.forall₂_same.mpr fun row _ => ?_⟩
      simp
  | cons answer rest ih =>
      simp only [gradeAnswers, bind_eq_ok, pure_eq_ok] at graded
      obtain ⟨tally, middle, here, others, _, later, rfl, rfl⟩ := graded
      obtain ⟨other, distinct⟩ := List.nodup_cons.mp distinct
      obtain ⟨rows, rfl, first⟩ :=
        areGraded_singleton ids (listed answer List.mem_cons_self) here
      have sameIds : rows.map (·.id) = before.answers.map (·.id) := by
        apply map_eq_of_forall₂ first
        intro row row' change
        split at change
        · exact congrArg Prod.fst change.key
        · rw [change]
      have kept : ∀ found ∈ rest, ∃ row ∈ rows, row.read? = some found := by
        intro found inside
        obtain ⟨row, present, read⟩ :=
          listed found (List.mem_cons_of_mem answer inside)
        obtain ⟨row', present', change⟩ :=
          exists_mem_right_of_forall₂ first present
        have different : row.id ≠ answer.id := by
          intro same
          obtain ⟨_, rfl⟩ := exists_value_of_read? read
          exact other (List.mem_map.mpr ⟨_, inside, same⟩)
        rw [if_neg (by simpa using different)] at change
        exact ⟨row', present', change ▸ read⟩
      obtain ⟨rfl, graded, rfl, second⟩ :=
        ih (sameIds ▸ ids) distinct kept later
      refine ⟨?_, graded, rfl, AreGraded.trans other first second⟩
      rw [List.filterMap_cons, answerTally?_eq here]
      cases tally with
      | none => rfl
      | some tally => rfl

end Exam

end ExamHall
