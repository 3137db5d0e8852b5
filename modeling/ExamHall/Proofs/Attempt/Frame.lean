import ExamHall.Proofs.Exam.Settling

/-!
# What concerns one attempt only

Working on an attempt, submitting it, grading it and reviewing it changes the
row of that attempt and the rows of its answers.  All other rows stay as they
are and where they are.  Except for saves, none of this changes what has been
saved: grading fills a sheet with empty answers, and otherwise writes scores
only.
-/

namespace ExamHall

open Store

/-! ## Tables that grow -/

/-- The rows of a table after a step.  Those that were there are there still,
each as it was or changed as it may; new ones stand behind them. -/
inductive Grows {ρ : Type} (changes : ρ → ρ → Prop) (adds : ρ → Prop) :
    List ρ → List ρ → Prop where
  | new {added : List ρ} (rows : ∀ row ∈ added, adds row) :
      Grows changes adds [] added
  | cons {old row : ρ} {olds rows : List ρ} (step : row = old ∨ changes old row)
      (rest : Grows changes adds olds rows) :
      Grows changes adds (old :: olds) (row :: rows)

namespace Grows

variable {ρ : Type} {changes changes' : ρ → ρ → Prop} {adds adds' : ρ → Prop}
  {first second third : List ρ}

theorem append (rows : List ρ) {added : List ρ}
    (new : ∀ row ∈ added, adds row) :
    Grows changes adds rows (rows ++ added) := by
  induction rows with
  | nil => exact .new new
  | cons row rest ih => exact .cons (.inl rfl) ih

theorem refl (rows : List ρ) : Grows changes adds rows rows := by
  simpa using @append _ changes adds rows [] (List.forall_mem_nil adds)

theorem updateWhere {rows : List ρ} {holds : ρ → Bool} {change : ρ → ρ}
    (changed : ∀ row ∈ rows, holds row = true → changes row (change row)) :
    Grows changes adds rows (updateWhere holds change rows) := by
  induction rows with
  | nil => exact .new (List.forall_mem_nil _)
  | cons row rest ih =>
      obtain ⟨here, later⟩ := List.forall_mem_cons.mp changed
      refine .cons ?_ (ih later)
      by_cases selected : holds row = true
      · exact .inr (by simpa only [if_pos selected] using here selected)
      · exact .inl (if_neg selected)

theorem mono (grows : Grows changes adds first second)
    (weaker : ∀ old ∈ first, ∀ row, changes old row → changes' old row)
    (new : ∀ row, adds row → adds' row) :
    Grows changes' adds' first second := by
  induction grows with
  | new rows => exact .new fun row inside => new row (rows row inside)
  | cons step _ ih =>
      obtain ⟨here, later⟩ := List.forall_mem_cons.mp weaker
      exact .cons (step.imp_right (here _)) (ih later)

/-- Each row that was there is there still. -/
theorem exists_later (grows : Grows changes adds first second) {old : ρ}
    (inside : old ∈ first) : ∃ row ∈ second, row = old ∨ changes old row := by
  induction grows with
  | new => cases inside
  | cons step _ ih =>
      rcases List.mem_cons.mp inside with rfl | later
      · exact ⟨_, List.mem_cons_self, step⟩
      · obtain ⟨row, listed, found⟩ := ih later
        exact ⟨row, List.mem_cons_of_mem _ listed, found⟩

/-- Each row was there before or is new. -/
theorem old_or_new (grows : Grows changes adds first second) {row : ρ}
    (inside : row ∈ second) :
    (∃ old ∈ first, row = old ∨ changes old row) ∨ adds row := by
  induction grows with
  | new rows => exact .inr (rows row inside)
  | cons step _ ih =>
      rcases List.mem_cons.mp inside with rfl | later
      · exact .inl ⟨_, List.mem_cons_self, step⟩
      · rcases ih later with ⟨old, listed, found⟩ | came
        · exact .inl ⟨old, List.mem_cons_of_mem _ listed, found⟩
        · exact .inr came

theorem trans (early : Grows changes adds first second)
    (late : Grows changes adds' second third)
    (changed : ∀ old row later, changes old row → changes row later →
      changes old later) (new : ∀ row, adds row → adds' row)
    (still : ∀ row later, adds' row → changes row later → adds' later) :
    Grows changes adds' first third := by
  induction early generalizing third with
  | new rows =>
      refine .new fun later inside => ?_
      rcases late.old_or_new inside with ⟨row, listed, rfl | step⟩ | came
      · exact new later (rows later listed)
      · exact still row later (new row (rows row listed)) step
      · exact came
  | cons step _ ih =>
      cases late with
      | cons next rest =>
          refine .cons ?_ (ih rest)
          rcases step with rfl | step
          · exact next
          · rcases next with rfl | next
            · exact .inr step
            · exact .inr (changed _ _ _ step next)

end Grows

/-! ## Rows of attempts and answers -/

/-- An attempt after a step that concerns it.  Once it has scores, it keeps
having some. -/
structure Attempt.Advances (before after : Attempt) : Prop where
  kept : Attempt.Kept before after
  scored : before.status.isScored = true → after.status.isScored = true

theorem Attempt.Advances.trans {first second third : Attempt}
    (early : Attempt.Advances first second)
    (late : Attempt.Advances second third) : Attempt.Advances first third :=
  ⟨early.kept.trans late.kept, late.scored ∘ early.scored⟩

/-- A row of an answer on which nothing has been saved anew. -/
structure SavedAnswer.Kept {π : Type} (before after : SavedAnswer π) :
    Prop where
  id : after.id = before.id
  attemptId : after.attemptId = before.attemptId
  questionId : after.questionId = before.questionId
  value : after.value = before.value
  timeSpentSeconds : after.timeSpentSeconds = before.timeSpentSeconds
  bookmarked : after.bookmarked = before.bookmarked
  savedAt : after.savedAt = before.savedAt

theorem SavedAnswer.Kept.trans {π : Type} {first second third : SavedAnswer π}
    (early : SavedAnswer.Kept first second)
    (late : SavedAnswer.Kept second third) : SavedAnswer.Kept first third :=
  ⟨late.id.trans early.id, late.attemptId.trans early.attemptId,
    late.questionId.trans early.questionId, late.value.trans early.value,
    late.timeSpentSeconds.trans early.timeSpentSeconds,
    late.bookmarked.trans early.bookmarked, late.savedAt.trans early.savedAt⟩

theorem SavedAnswer.Kept.key {π : Type} {before after : SavedAnswer π}
    (kept : SavedAnswer.Kept before after) : after.key = before.key := by
  rw [SavedAnswer.key, kept.id, kept.attemptId, kept.questionId]
  rfl

/-- A row without an answer, as grading adds it. -/
structure SavedAnswer.IsBlank {π : Type} (row : SavedAnswer π) : Prop where
  value : row.value = none
  timeSpentSeconds : row.timeSpentSeconds = none
  bookmarked : row.bookmarked = false

theorem SavedAnswer.IsBlank.kept {π : Type} {before after : SavedAnswer π}
    (blank : before.IsBlank) (kept : SavedAnswer.Kept before after) :
    after.IsBlank :=
  ⟨kept.value.trans blank.value,
    kept.timeSpentSeconds.trans blank.timeSpentSeconds,
    kept.bookmarked.trans blank.bookmarked⟩

theorem RowGraded.kept {questions : List VariantQuestion} {now : Instant}
    {row graded : SavedAnswer (Stored Answer)}
    (change : RowGraded questions now row graded) :
    SavedAnswer.Kept row graded := by
  cases change with
  | passedOver => exact ⟨rfl, rfl, rfl, rfl, rfl, rfl, rfl⟩
  | scored => exact ⟨rfl, rfl, rfl, rfl, rfl, rfl, rfl⟩

/-- Grading goes over the rows of an attempt, and adds empty ones. -/
theorem Grades.grows {now : Instant} {store : Store} {attempt : Attempt}
    {added answers : List (SavedAnswer (Stored Answer))} {totals : Totals}
    (grades : Grades now store attempt added answers totals) :
    Grows (fun old row => old.attemptId = attempt.id ∧ SavedAnswer.Kept old row)
      (fun row => row.attemptId = attempt.id ∧ row.IsBlank) store.answers
      answers := by
  obtain ⟨questions, -, fills, pairs, -⟩ := grades.rows
  have empty : ∀ row ∈ added, row.attemptId = attempt.id ∧ row.IsBlank := by
    intro row inside
    obtain ⟨-, made⟩ := fills.rows row inside
    rw [made]
    exact ⟨rfl, rfl, rfl, rfl⟩
  clear fills grades
  generalize store.answers = rows at pairs
  induction rows generalizing answers with
  | nil =>
      refine .new fun row inside => ?_
      obtain ⟨old, listed, change⟩ := exists_mem_left_of_forall₂ pairs inside
      obtain ⟨same, blank⟩ := empty old listed
      rw [if_pos same] at change
      exact ⟨change.kept.attemptId.trans same, blank.kept change.kept⟩
  | cons old rest ih =>
      cases pairs with
      | cons here later =>
          refine .cons ?_ (ih later)
          split at here
          · next same => exact .inr ⟨same, here.kept⟩
          · exact .inl here

/-! ## One attempt -/

/-- A store after the attempt with an id, if it was in progress, has been
submitted as of a time. -/
def Store.submitting (store : Store) (attemptId : String)
    (submittedAt now : Instant) : Store :=
  { store with
    attempts := updateWhere (hasStatus attemptId .inProgress)
      (Store.submitted submittedAt now) store.attempts }

/-- Nothing differs but an attempt and its answers. -/
structure Touches (attemptId : String) (before after : Store) : Prop where
  attempts : Grows (fun old row => old.id = attemptId ∧
      Attempt.Advances old row) (fun _ => False) before.attempts after.attempts
  answers : Grows
    (fun old row => old.attemptId = attemptId ∧ SavedAnswer.key row = old.key)
    (fun row => row.attemptId = attemptId) before.answers after.answers
  rest : ∃ issued, after =
    { before with attempts := after.attempts, answers := after.answers, issued }

/-- Whether the attempt with an id has scores. -/
def Store.HasScores (store : Store) (attemptId : String) : Prop :=
  ∃ attempt ∈ store.attempts, attempt.id = attemptId ∧
    attempt.status.isScored = true

/-- Nothing has been saved: the answers that were there are what they have been
saved as, and those that have been added are empty and belong to attempts with
scores. -/
structure Store.SavesNothing (before after : Store) : Prop where
  answers : Grows SavedAnswer.Kept (fun row => row.IsBlank ∧
      after.HasScores row.attemptId) before.answers after.answers
  scored : ∀ attemptId, before.HasScores attemptId → after.HasScores attemptId

variable {now : Instant} {before middle after : Store} {attempt : Attempt}
  {attemptId : String}

namespace Touches

theorem refl (store : Store) : Touches attemptId store store :=
  ⟨.refl _, .refl _, store.issued, rfl⟩

theorem trans (early : Touches attemptId before middle)
    (late : Touches attemptId middle after) :
    Touches attemptId before after := by
  refine ⟨early.attempts.trans late.attempts ?_
    (fun _ => id) (fun _ _ none _ => none),
    early.answers.trans late.answers ?_ (fun _ => id) ?_, ?_⟩
  · exact fun _ _ _ first second => ⟨first.1, first.2.trans second.2⟩
  · exact fun _ _ _ first second => ⟨first.1, second.2.trans first.2⟩
  · rintro row later same ⟨-, key⟩
    exact (congrArg (·.2.1) key).trans same
  · obtain ⟨_, first⟩ := early.rest
    obtain ⟨issued, second⟩ := late.rest
    rw [first] at second
    exact ⟨issued, second⟩

theorem updateAttempts {holds : Attempt → Bool} {change : Attempt → Attempt}
    (changed : ∀ attempt, holds attempt = true →
      attempt.id = attemptId ∧ Attempt.Advances attempt (change attempt)) :
    Touches attemptId before
      { before with attempts := updateWhere holds change before.attempts } :=
  ⟨.updateWhere fun row _ selected => changed row selected, .refl _,
    before.issued, rfl⟩

/-- Attempts with scores keep having some. -/
theorem scored (touches : Touches attemptId before after) {id : String}
    (has : before.HasScores id) : after.HasScores id := by
  obtain ⟨attempt, listed, rfl, scored⟩ := has
  obtain ⟨later, present, rfl | ⟨-, advances⟩⟩ :=
    touches.attempts.exists_later listed
  · exact ⟨later, present, rfl, scored⟩
  · exact ⟨later, present, advances.kept.id, advances.scored scored⟩

/-- The attempts stay which they are. -/
theorem ids (touches : Touches attemptId before after) :
    after.attempts.map (·.id) = before.attempts.map (·.id) := by
  obtain ⟨attempts, -, -⟩ := touches
  generalize before.attempts = olds at attempts
  generalize after.attempts = rows at attempts
  induction attempts with
  | @new added none => rw [List.eq_nil_iff_forall_not_mem.mpr none]
  | cons step _ ih =>
      rw [List.map_cons, List.map_cons, ih]
      rcases step with rfl | ⟨-, advances⟩
      · rfl
      · rw [advances.kept.id]

/-- Other attempts stay as they are. -/
theorem mem_of_ne (touches : Touches attemptId before after)
    (listed : attempt ∈ before.attempts) (other : attempt.id ≠ attemptId) :
    attempt ∈ after.attempts := by
  obtain ⟨row, present, rfl | ⟨same, -⟩⟩ := touches.attempts.exists_later listed
  · exact present
  · exact (other same).elim

/-- The rows of other attempts stay as they are. -/
theorem rowsOf_eq (touches : Touches attemptId before after) {otherId : String}
    (other : otherId ≠ attemptId) :
    rowsOf otherId after.answers = rowsOf otherId before.answers := by
  obtain ⟨-, answers, -⟩ := touches
  generalize before.answers = olds at answers
  generalize after.answers = rows at answers
  unfold rowsOf
  induction answers with
  | new rows =>
      refine List.filter_eq_nil_iff.mpr fun row inside => ?_
      rw [beq_iff_eq, rows row inside]
      exact other.symm
  | @cons old row olds rows step _ ih =>
      rcases step with rfl | ⟨same, key⟩
      · rw [List.filter_cons, List.filter_cons, ih]
      · have same' : row.attemptId = attemptId :=
          (congrArg (·.2.1) key).trans same
        rw [List.filter_cons_of_neg
          (by rw [beq_iff_eq, same']; exact other.symm),
          List.filter_cons_of_neg (by rw [beq_iff_eq, same]; exact other.symm),
          ih]

theorem variants (touches : Touches attemptId before after) :
    after.variants = before.variants := by
  obtain ⟨issued, same⟩ := touches.rest
  rw [same]

theorem collation (touches : Touches attemptId before after) :
    after.collation = before.collation := by
  obtain ⟨issued, same⟩ := touches.rest
  rw [same]

/-- Where the answers have not changed, nothing has been saved. -/
theorem savesNothing (touches : Touches attemptId before after)
    (same : after.answers = before.answers) : before.SavesNothing after :=
  ⟨same ▸ .refl _, fun _ => touches.scored⟩

end Touches

namespace Store.SavesNothing

theorem of_eq (answers : after.answers = before.answers)
    (attempts : after.attempts = before.attempts) : before.SavesNothing after :=
  ⟨answers ▸ .refl _, fun _ has => by rwa [HasScores, attempts]⟩

theorem refl (store : Store) : store.SavesNothing store :=
  .of_eq rfl rfl

theorem trans (early : before.SavesNothing middle)
    (late : middle.SavesNothing after) : before.SavesNothing after := by
  refine ⟨early.answers.trans late.answers (fun _ _ _ => .trans) ?_ ?_,
    fun id has => late.scored id (early.scored id has)⟩
  · exact fun row blank => ⟨blank.1, late.scored _ blank.2⟩
  · rintro row later ⟨blank, scored⟩ kept
    exact ⟨blank.kept kept, kept.attemptId ▸ scored⟩

end Store.SavesNothing

theorem Store.mem_submitting {store : Store} {attempt : Attempt}
    (listed : attempt ∈ store.attempts) (running : attempt.status = .inProgress)
    (submittedAt now : Instant) :
    Store.submitted submittedAt now attempt ∈
      (store.submitting attempt.id submittedAt now).attempts :=
  mem_updateWhere_of_holds listed (hasStatus_eq_true.mpr ⟨rfl, running⟩)

/-- Submitting an attempt touches no other. -/
theorem Touches.submitting (store : Store) (attemptId : String)
    (submittedAt now : Instant) :
    Touches attemptId store (store.submitting attemptId submittedAt now) := by
  refine .updateAttempts fun other selected => ?_
  obtain ⟨same, running⟩ := hasStatus_eq_true.mp selected
  refine ⟨same, .submitted _ _ _, fun scored => ?_⟩
  rw [running] at scored
  cases scored

namespace GradesInto

variable {graded : Attempt}

theorem touches (into : GradesInto now before attempt graded after) :
    Touches attempt.id before after := by
  obtain ⟨added, answers, totals, _, _, _, issued, grades, -, -, rfl⟩ := into
  refine ⟨.updateWhere fun row _ selected => ?_, ?_, issued, rfl⟩
  · exact ⟨(hasStatus_eq_true.mp selected).1, .scored _ _ _ _ _, fun _ =>
      totals.isScored_statusAfterAuto⟩
  · exact grades.grows.mono (fun _ _ _ change => ⟨change.1, change.2.key⟩)
      fun _ blank => blank.1

theorem savesNothing (into : GradesInto now before attempt graded after) :
    before.SavesNothing after := by
  have touches := into.touches
  obtain ⟨added, answers, totals, _, _, _, issued, grades, -, -, rfl⟩ := into
  refine ⟨grades.grows.mono (fun _ _ _ change => change.2) ?_,
    fun _ => touches.scored⟩
  rintro row ⟨same, blank⟩
  have here := hasStatus_eq_true.mpr ⟨rfl, grades.submitted⟩
  exact ⟨blank, _, mem_updateWhere_of_holds grades.listed here, same.symm,
    totals.isScored_statusAfterAuto⟩

end GradesInto

/-- A review touches the reviewed answer and its attempt, and saves nothing. -/
theorem ReviewsInto.touches (into : ReviewsInto now before attempt after)
    (lawful : before.Lawful) :
    Touches attempt.id before after ∧ before.SavesNothing after := by
  obtain ⟨row, _, earned, answers, totals, rawScore, maxScore, percentage,
    reviews, -, rfl⟩ := into
  obtain ⟨gradedBy, score, -, changed⟩ := reviews.changed
  have grows : Grows
      (fun old later => old.attemptId = attempt.id ∧ SavedAnswer.Kept old later)
      (fun _ => False) before.answers answers := by
    rw [changed]
    refine .updateWhere fun old inside selected => ?_
    obtain rfl := eq_of_key lawful.sittings.answerIds inside reviews.rowListed
      (beq_iff_eq.mp selected)
    exact ⟨reviews.rowAttempt, rfl, rfl, rfl, rfl, rfl, rfl, rfl⟩
  have touches : Touches attempt.id before { before with
      attempts := updateWhere (hasStatus attempt.id attempt.status)
        (Store.scored rawScore maxScore percentage
          (Exam.scoreUpdate totals totals.statusAfterManual now))
        before.attempts
      answers } := by
    refine ⟨.updateWhere fun other _ selected => ?_, ?_, before.issued, rfl⟩
    · exact ⟨(hasStatus_eq_true.mp selected).1, .scored _ _ _ _ _, fun _ =>
        totals.isScored_statusAfterManual⟩
    · exact grows.mono (fun _ _ _ change => ⟨change.1, change.2.key⟩) fun _ =>
        False.elim
  exact ⟨touches,
    grows.mono (fun _ _ _ change => change.2) (fun _ => False.elim),
    fun _ => touches.scored⟩

namespace Exam.Completes

theorem touches (completes : Completes now attemptId before after) :
    Touches attemptId before after := by
  cases completes with
  | passed => exact .refl before
  | graded same into => exact same ▸ into.touches

theorem savesNothing (completes : Completes now attemptId before after) :
    before.SavesNothing after := by
  cases completes with
  | passed => exact .refl before
  | graded _ into => exact into.savesNothing

end Exam.Completes

end ExamHall
