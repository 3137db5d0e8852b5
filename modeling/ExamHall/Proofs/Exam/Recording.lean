import ExamHall.Proofs.Attempt.Order
import ExamHall.Proofs.Exam.Saving

/-!
# What becomes of accepted saves

The answers of an attempt are what the saves that have been accepted for it make
of them.  The first save of an answer gives it its id, and the last one its
value and its bookmark; the time is the last one that a save has brought.  An
answer without any save is empty, and stands only where an attempt has scores.
-/

namespace ExamHall

open Store

/-- The saves that have been accepted for the answer of an attempt to a
question, in their order. -/
def savesTo (attemptId questionId : String) (history : List AcceptedSave) :
    List AcceptedSave :=
  history.filter fun save =>
    save.attemptId == attemptId && save.input.questionId == questionId

/-- An answer to one of some questions is what a list of saves makes of it. -/
structure IsRecordOf (questions : List VariantQuestion)
    (saves : List AcceptedSave) (answer : SavedAnswer Answer) : Prop where
  id : saves.head?.map (·.answer.id) = some answer.id
  timeSpentSeconds :
    answer.timeSpentSeconds = saves.reverse.findSome? (·.input.timeSpentSeconds)
  last : ∃ save, saves.getLast? = some save ∧
    answer.bookmarked = save.input.bookmarked ∧
    ∃ question ∈ questions, question.questionId = answer.questionId ∧
      Answer.ofClient? question.payload.type save.input.value = .ok answer.value

/-- A store has the answer of an attempt to a question, as a list of saves makes
it. -/
inductive Store.HasRecord (store : Store) (attemptId questionId : String)
    (saves : List AcceptedSave) : Prop where
  | intro {attempt : Attempt} {questions : List VariantQuestion}
      {row : SavedAnswer (Stored Answer)} {answer : SavedAnswer Answer}
      (listed : attempt ∈ store.attempts) (id : attempt.id = attemptId)
      (shown : HasVariant store attempt.variantId questions)
      (inside : row ∈ store.answers) (ofAttempt : row.attemptId = attemptId)
      (ofQuestion : row.questionId = questionId)
      (read : row.read? = some answer)
      (record : IsRecordOf questions saves answer) :
      Store.HasRecord store attemptId questionId saves

/-- The answers of a store are what a history of accepted saves makes of
them. -/
structure Store.Remembers (history : List AcceptedSave) (store : Store) :
    Prop where
  saved : ∀ attemptId questionId, savesTo attemptId questionId history ≠ [] →
    store.HasRecord attemptId questionId (savesTo attemptId questionId history)
  blank : ∀ row ∈ store.answers,
    savesTo row.attemptId row.questionId history = [] →
    row.IsBlank ∧ store.HasScores row.attemptId

variable {history : List AcceptedSave} {save : AcceptedSave}
  {attemptId questionId : String} {now : Instant} {before after : Store}
  {attempt : Attempt} {questions : List VariantQuestion}
  {row later : SavedAnswer (Stored Answer)} {answer : SavedAnswer Answer}

/-! ## Histories -/

theorem savesTo_append_self :
    savesTo save.attemptId save.input.questionId (history ++ [save]) =
      savesTo save.attemptId save.input.questionId history ++ [save] := by
  unfold savesTo
  rw [List.filter_append, List.filter_singleton, beq_self_eq_true,
    beq_self_eq_true]
  rfl

theorem savesTo_append_other
    (other :
      ¬(save.attemptId = attemptId ∧ save.input.questionId = questionId)) :
    savesTo attemptId questionId (history ++ [save]) =
      savesTo attemptId questionId history := by
  have quiet :
      (save.attemptId == attemptId && save.input.questionId == questionId) =
        false := by
    rw [Bool.eq_false_iff]
    intro same
    rw [Bool.and_eq_true, beq_iff_eq, beq_iff_eq] at same
    exact other same
  unfold savesTo
  rw [List.filter_append, List.filter_singleton, quiet]
  exact List.append_nil _

theorem savesTo_append_self_ne_nil :
    savesTo save.attemptId save.input.questionId (history ++ [save]) ≠ [] := by
  rw [savesTo_append_self]
  exact List.append_ne_nil_of_right_ne_nil _ (List.cons_ne_nil _ _)

theorem savesTo_eq_nil_of_append
    (empty : savesTo attemptId questionId (history ++ [save]) = []) :
    savesTo attemptId questionId history = [] := by
  unfold savesTo at empty ⊢
  rw [List.filter_append] at empty
  exact (List.append_eq_nil_iff.mp empty).1

/-! ## Rows -/

theorem isAnswerTo_eq_true {π : Type} {row : SavedAnswer π} :
    isAnswerTo attemptId questionId row = true ↔
      row.attemptId = attemptId ∧ row.questionId = questionId := by
  simp [isAnswerTo]

/-- An attempt has one answer to a question. -/
theorem Store.Lawful.eq_of_answersTo {store : Store} (lawful : store.Lawful)
    {left right : SavedAnswer (Stored Answer)}
    (leftInside : left ∈ store.answers) (rightInside : right ∈ store.answers)
    (attempts : left.attemptId = right.attemptId)
    (questions : left.questionId = right.questionId) : left = right := by
  by_contra different
  have symmetric : Std.Symm fun left right : SavedAnswer (Stored Answer) =>
      isAnswerTo left.attemptId left.questionId right = false :=
    ⟨fun left right apart => by rwa [isAnswerTo_comm] at apart⟩
  have apart :=
    lawful.sittings.answersApart.forall leftInside rightInside different
  rw [isAnswerTo_eq_true.mpr ⟨attempts.symm, questions.symm⟩] at apart
  cases apart

theorem SavedAnswer.eq_of_read? (read : row.read? = some answer) :
    ∃ value, answer = { row with value } := by
  unfold read? at read
  split at read
  · exact ⟨_, (Option.some.inj read).symm⟩
  · obtain ⟨value, -, made⟩ := Option.map_eq_some_iff.mp read
    exact ⟨_, made.symm⟩

theorem SavedAnswer.id_of_read? (read : row.read? = some answer) :
    answer.id = row.id := by
  obtain ⟨_, rfl⟩ := eq_of_read? read
  rfl

theorem SavedAnswer.questionId_of_read? (read : row.read? = some answer) :
    answer.questionId = row.questionId := by
  obtain ⟨_, rfl⟩ := eq_of_read? read
  rfl

theorem SavedAnswer.timeSpentSeconds_of_read? (read : row.read? = some answer) :
    answer.timeSpentSeconds = row.timeSpentSeconds := by
  obtain ⟨_, rfl⟩ := eq_of_read? read
  rfl

/-- How a row reads depends on its value. -/
theorem SavedAnswer.read?_value_congr (same : later.value = row.value) :
    later.read?.map (·.value) = row.read?.map (·.value) := by
  unfold read?
  rw [same]
  cases row.value with
  | none => rfl
  | some document =>
      simp only [Option.map_map]
      rfl

/-- An empty row reads as an empty answer. -/
theorem SavedAnswer.IsBlank.read? (blank : row.IsBlank)
    (read : row.read? = some answer) :
    answer.IsBlank := by
  unfold SavedAnswer.read? at read
  rw [blank.value] at read
  obtain rfl := Option.some.inj read
  exact ⟨rfl, blank.timeSpentSeconds, blank.bookmarked⟩

/-- A row on which nothing is saved anew reads as before. -/
theorem SavedAnswer.Kept.read? (kept : SavedAnswer.Kept row later)
    (read : row.read? = some answer) :
    ∃ still, later.read? = some still ∧ SavedAnswer.Kept answer still := by
  have values := SavedAnswer.read?_value_congr kept.value
  rw [read] at values
  obtain ⟨still, present, same⟩ := Option.map_eq_some_iff.mp values
  obtain ⟨_, rfl⟩ := SavedAnswer.eq_of_read? read
  obtain ⟨_, rfl⟩ := SavedAnswer.eq_of_read? present
  exact ⟨_, present, kept.id, kept.attemptId, kept.questionId, same,
    kept.timeSpentSeconds, kept.bookmarked, kept.savedAt⟩

theorem IsRecordOf.kept {saves : List AcceptedSave} {still : SavedAnswer Answer}
    (record : IsRecordOf questions saves answer)
    (kept : SavedAnswer.Kept answer still) :
    IsRecordOf questions saves still := by
  obtain ⟨id, time, last⟩ := record
  exact ⟨by rw [kept.id, id], by rw [kept.timeSpentSeconds, time],
    by rw [kept.bookmarked, kept.questionId, kept.value]; exact last⟩

/-! ## One save -/

namespace AcceptedSave.Makes

/-- The row of a save belongs to the attempt and the question of the save. -/
theorem key (makes : save.Makes now before attempt questions row)
    (paper : IsPaper questions) :
    row.attemptId = save.attemptId ∧
    row.questionId = save.input.questionId := by
  obtain ⟨question, asked, same, kept, -⟩ := makes.question
  rw [(paper.keys question asked).id_eq_ok] at kept
  exact ⟨makes.saves.attemptId.trans makes.attemptId.symm,
    (Except.ok.inj kept).symm.trans same⟩

/-- A row with what a save has written is what the save makes of it after
earlier ones. -/
theorem isRecordOf {saves : List AcceptedSave}
    {written : SavedAnswer (Stored Answer)}
    (makes : save.Makes now before attempt questions row)
    (paper : IsPaper questions)
    (read : written.read? = some answer) (value : written.value = row.value)
    (bookmarked : written.bookmarked = row.bookmarked)
    (question : written.questionId = row.questionId)
    (id : (saves ++ [save]).head?.map (·.answer.id) = some written.id)
    (time : written.timeSpentSeconds = row.timeSpentSeconds.or
      (saves.reverse.findSome? (·.input.timeSpentSeconds))) :
    IsRecordOf questions (saves ++ [save]) answer := by
  have values := SavedAnswer.read?_value_congr value
  obtain ⟨asked, inside, same, -, given, parsed, reads⟩ := makes.question
  rw [read, reads] at values
  obtain ⟨_, rfl⟩ := SavedAnswer.eq_of_read? read
  refine ⟨id, ?_, save, List.getLast?_concat, bookmarked.trans makes.bookmarked,
    asked, inside, ?_, ?_⟩
  · rw [List.reverse_append, List.reverse_singleton, List.singleton_append,
      List.findSome?_cons]
    rw [makes.timeSpentSeconds] at time
    cases brought : save.input.timeSpentSeconds with
    | none => simpa only [brought, Option.none_or] using time
    | some seconds => simpa only [brought, Option.some_or] using time
  · exact same.trans ((makes.key paper).2.symm.trans question.symm)
  · obtain rfl := Option.some.inj values
    exact parsed

end AcceptedSave.Makes

namespace Store.Remembers

theorem nil {store : Store} (none : store.answers = []) : store.Remembers [] :=
  ⟨fun _ _ some => (some rfl).elim, forall_mem_of_eq_nil none⟩

/-- Where nothing is saved, the history stays what it is. -/
theorem unsaved (remembers : before.Remembers history)
    (nothing : before.SavesNothing after)
    (carries : Carries before.attempts after.attempts)
    (variants : ∀ id questions, HasVariant before id questions →
      HasVariant after id questions) : after.Remembers history := by
  refine ⟨fun attemptId questionId any => ?_, fun row inside empty => ?_⟩
  · obtain @⟨attempt, questions, row, answer, listed, id, shown, inside,
      ofAttempt, ofQuestion, read, record⟩ :=
      remembers.saved attemptId questionId any
    obtain ⟨evolved, present, evolves⟩ := carries attempt listed
    obtain ⟨later, still, same⟩ := nothing.answers.exists_later inside
    have kept : SavedAnswer.Kept row later := by
      rcases same with rfl | kept
      · exact ⟨rfl, rfl, rfl, rfl, rfl, rfl, rfl⟩
      · exact kept
    obtain ⟨answer', read', kept'⟩ := kept.read? read
    refine .intro present (evolves.kept.id.trans id) (variants _ _ ?_) still
      (kept.attemptId.trans ofAttempt) (kept.questionId.trans ofQuestion) read'
      (record.kept kept')
    exact evolves.kept.variantId ▸ shown
  · rcases nothing.answers.old_or_new inside
      with ⟨old, listed, rfl | kept⟩ | new
    · obtain ⟨blank, scored⟩ := remembers.blank row listed empty
      exact ⟨blank, nothing.scored _ scored⟩
    · rw [kept.attemptId, kept.questionId] at empty
      obtain ⟨blank, scored⟩ := remembers.blank old listed empty
      exact ⟨blank.kept kept, kept.attemptId ▸ nothing.scored _ scored⟩
    · exact new

/-- Where one answer is saved and the others stay, its record gets the save as
its last one. -/
theorem saving {rows : List (SavedAnswer (Stored Answer))} {issued : Issued}
    (remembers : before.Remembers history)
    (here : HasRecord { before with answers := rows, issued } save.attemptId
      save.input.questionId
      (savesTo save.attemptId save.input.questionId history ++ [save]))
    (stays : ∀ row ∈ before.answers,
      isAnswerTo save.attemptId save.input.questionId row = false → row ∈ rows)
    (adds : ∀ row ∈ rows, row ∈ before.answers ∨
      isAnswerTo save.attemptId save.input.questionId row = true) :
    Remembers (history ++ [save]) { before with answers := rows, issued } := by
  refine ⟨fun attemptId questionId any => ?_, fun row inside empty => ?_⟩
  · by_cases same : save.attemptId = attemptId ∧
      save.input.questionId = questionId
    · obtain ⟨rfl, rfl⟩ := same
      rwa [savesTo_append_self]
    · rw [savesTo_append_other same] at any ⊢
      obtain ⟨listed, id, shown, inside, ofAttempt, ofQuestion, read, record⟩ :=
        remembers.saved attemptId questionId any
      refine .intro listed id shown (stays _ inside ?_) ofAttempt ofQuestion
        read record
      rw [Bool.eq_false_iff, Ne, isAnswerTo_eq_true]
      rintro ⟨attempts, questions⟩
      exact same ⟨attempts.symm.trans ofAttempt,
        questions.symm.trans ofQuestion⟩
  · rcases adds row inside with old | own
    · exact remembers.blank row old (savesTo_eq_nil_of_append empty)
    · obtain ⟨attempts, questions⟩ := isAnswerTo_eq_true.mp own
      rw [attempts, questions] at empty
      exact (savesTo_append_self_ne_nil empty).elim

/-- The first save of an answer makes its row. -/
theorem first {issued : Issued} (remembers : before.Remembers history)
    (paper : IsPaper questions)
    (shown : HasVariant before attempt.variantId questions)
    (makes : save.Makes now before attempt questions row)
    (unique : ∀ other ∈ before.answers,
      isAnswerTo row.attemptId row.questionId other = false)
    (read : row.read? = some save.answer) : Remembers (history ++ [save])
      { before with answers := before.answers ++ [row], issued } := by
  obtain ⟨sameAttempt, sameQuestion⟩ := makes.key paper
  have fresh : savesTo save.attemptId save.input.questionId history = [] := by
    by_contra any
    obtain @⟨_, _, other, _, _, _, _, inside, attempts, questions, -, -⟩ :=
      remembers.saved _ _ any
    have here : isAnswerTo row.attemptId row.questionId other = true :=
      isAnswerTo_eq_true.mpr ⟨attempts.trans sameAttempt.symm,
        questions.trans sameQuestion.symm⟩
    exact Bool.false_ne_true ((unique other inside).symm.trans here)
  refine remembers.saving ?_
    (fun other inside _ => List.mem_append_left _ inside) fun other inside => ?_
  · rw [fresh]
    exact .intro makes.saves.worked.listed makes.attemptId.symm shown
      (List.mem_append_right _ (List.mem_singleton_self row)) sameAttempt
      sameQuestion read (makes.isRecordOf paper read rfl rfl rfl (congrArg some
        (SavedAnswer.id_of_read? read)) Option.or_none.symm)
  · rcases List.mem_append.mp inside with old | new
    · exact .inl old
    · obtain rfl := List.mem_singleton.mp new
      exact .inr (isAnswerTo_eq_true.mpr ⟨sameAttempt, sameQuestion⟩)

/-- A row of an attempt in progress has been saved: grading adds rows to
attempts with scores only. -/
theorem savesTo_ne_nil (remembers : before.Remembers history)
    (lawful : before.Lawful) (listed : attempt ∈ before.attempts)
    (running : attempt.status = .inProgress) (inside : row ∈ before.answers)
    (same : row.attemptId = attempt.id) :
    savesTo row.attemptId row.questionId history ≠ [] := by
  intro empty
  obtain ⟨-, other, there, sameId, scored⟩ := remembers.blank row inside empty
  obtain rfl := eq_of_key lawful.sittings.ids there listed (sameId.trans same)
  rw [running] at scored
  cases scored

/-- Every later save of an answer goes into its row. -/
theorem again {old : SavedAnswer (Stored Answer)}
    (remembers : before.Remembers history) (lawful : before.Lawful)
    (paper : IsPaper questions)
    (shown : HasVariant before attempt.variantId questions)
    (makes : save.Makes now before attempt questions row)
    (listed : old ∈ before.answers)
    (same : isAnswerTo row.attemptId row.questionId old = true)
    (read : (resaved row old).read? = some save.answer) :
    Remembers (history ++ [save]) { before with
      answers := updateWhere (isAnswerTo row.attemptId row.questionId)
        (resaved row) before.answers } := by
  obtain ⟨sameAttempt, sameQuestion⟩ := makes.key paper
  rw [sameAttempt, sameQuestion] at same ⊢
  obtain ⟨oldAttempt, oldQuestion⟩ := isAnswerTo_eq_true.mp same
  have prior : savesTo save.attemptId save.input.questionId history ≠ [] := by
    rw [← oldAttempt, ← oldQuestion]
    exact remembers.savesTo_ne_nil lawful makes.saves.worked.listed
      makes.saves.worked.running listed (oldAttempt.trans makes.attemptId)
  refine remembers.saving ?_
    (fun other inside unselected => ?_) fun changed inside => ?_
  · refine .intro makes.saves.worked.listed makes.attemptId.symm shown
      (mem_updateWhere_of_holds listed same) oldAttempt oldQuestion read ?_
    obtain @⟨_, _, other, _, _, _, _, inside, attempts, questions, reads,
        record⟩ :=
      remembers.saved _ _ prior
    obtain rfl := lawful.eq_of_answersTo inside listed
      (attempts.trans oldAttempt.symm) (questions.trans oldQuestion.symm)
    refine makes.isRecordOf paper read
      rfl rfl (oldQuestion.trans sameQuestion.symm) ?_ ?_
    · rw [List.head?_append_of_ne_nil _ prior, record.id,
        SavedAnswer.id_of_read? reads]
      rfl
    · rw [← record.timeSpentSeconds,
        SavedAnswer.timeSpentSeconds_of_read? reads]
      rfl
  · exact mem_updateWhere.mpr ⟨other, inside,
      if_neg (Bool.eq_false_iff.mp unselected)⟩
  · obtain ⟨original, there, rfl⟩ := mem_updateWhere.mp inside
    split
    · next selected => exact .inr selected
    · exact .inl there

/-- Each accepted save is the last one of its answer then. -/
theorem writesEach {saves : List AcceptedSave} (paper : IsPaper questions)
    (writes : WritesEach now attempt questions saves before after)
    (remembers : before.Remembers history) (lawful : before.Lawful)
    (shown : HasVariant before attempt.variantId questions) :
    after.Remembers (history ++ saves) := by
  induction writes generalizing history with
  | nil =>
      rw [List.append_nil]
      exact remembers
  | @cons save rest before middle after here _ ih =>
      rw [← List.singleton_append, ← List.append_assoc]
      have lawful' := here.change.lawful lawful
      cases here with
      | first makes unique read =>
          exact ih (remembers.first paper shown makes unique read) lawful' shown
      | again makes listed same read =>
          exact ih (remembers.again lawful paper shown makes listed same read)
            lawful' shown

end Store.Remembers

end ExamHall
