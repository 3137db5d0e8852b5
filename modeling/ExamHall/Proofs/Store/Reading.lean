import ExamHall.Exam.Assigning
import ExamHall.Exam.Generating
import ExamHall.Exam.Starting
import ExamHall.Proofs.Steps

/-!
# What statements find

Statements that only read leave the store as it is.  For those whose results
matter later, it is stated when they succeed and what they find.
-/

namespace ExamHall

/-! ## Sorting by texts -/

namespace Collation

variable {α : Type} {collation : Collation} {key : α → String}
  {items others : List α}

variable (collation key items) in
theorem sortBy_perm : (collation.sortBy key items).Perm items :=
  List.mergeSort_perm _ _

theorem mem_sortBy {item : α} :
    item ∈ collation.sortBy key items ↔ item ∈ items :=
  (sortBy_perm collation key items).mem_iff

theorem pairwise_sortBy : (collation.sortBy key items).Pairwise
    fun left right => collation.le (key left) (key right) = true := by
  unfold sortBy
  apply List.pairwise_mergeSort
  · exact fun _ _ _ => collation.trans
  · intro left right
    rw [Bool.or_eq_true]
    exact collation.total _ _

theorem sortBy_of_pairwise (ordered : items.Pairwise
    fun left right => collation.le (key left) (key right) = true) :
    collation.sortBy key items = items :=
  List.mergeSort_of_pairwise ordered

/-- Items with different keys are sorted in one way only, whatever order they
come in. -/
theorem sortBy_eq_of_perm (perm : items.Perm others)
    (apart : ∀ left ∈ items,
      ∀ right ∈ items, key left = key right → left = right) :
    collation.sortBy key items = collation.sortBy key others := by
  have reordered :
      (collation.sortBy key items).Perm (collation.sortBy key others) :=
    (sortBy_perm _ _ _).trans (perm.trans (sortBy_perm _ _ _).symm)
  refine reordered.eq_of_pairwise (fun left right inside inside' below above =>
      ?_) pairwise_sortBy pairwise_sortBy
  exact apart left (mem_sortBy.mp inside) right
    (perm.mem_iff.mpr (mem_sortBy.mp inside')) (collation.antisymm below above)

/-- Texts in the order of their codes stay as they are where texts are sorted
so. -/
theorem sort_byCode {texts : List String} (ordered : texts.Pairwise (· < ·)) :
    byCode.sort texts = texts :=
  sortBy_of_pairwise
    (ordered.imp fun before => decide_eq_true (Std.le_of_lt before))

end Collation

/-! ## Reading -/

/-- A step that leaves the store as it finds it. -/
def IsRead {σ ε α : Type} (step : StateT σ (Except ε) α) : Prop :=
  ∀ before value after, step before = .ok (value, after) → after = before

namespace IsRead

variable {σ ε α β : Type}

theorem bind {first : StateT σ (Except ε) α} {next : α → StateT σ (Except ε) β}
    (firstReads : IsRead first) (nextReads : ∀ value, IsRead (next value)) :
    IsRead (first >>= next) := by
  intro before value after ended
  obtain ⟨found, middle, started, finished⟩ := bind_eq_ok.mp ended
  rw [nextReads found middle value after finished,
    firstReads before found middle started]

theorem pure (value : α) :
    IsRead (Pure.pure value : StateT σ (Except ε) α) := by
  intro before found after ended
  exact (pure_eq_ok.mp ended).2

theorem get : IsRead (MonadState.get : StateT σ (Except ε) σ) := by
  intro before found after ended
  exact (get_eq_ok.mp ended).2

theorem fail (fault : StorageFault) :
    IsRead (Statement.fail fault : Statement α) := by
  intro before found after ended
  exact (Statement.fail_ne_ok ended).elim

theorem ensure (holds : Bool) (fault : StorageFault) :
    IsRead (Statement.ensure holds fault) := by
  intro before found after ended
  exact (Statement.ensure_eq_ok.mp ended).2

theorem plain (texts : List String) : IsRead (Statement.plain texts) :=
  ensure _ _

theorem reach (tables : List Table) : IsRead (Statement.reach tables) := by
  intro before found after ended
  exact (Statement.reach_eq_ok.mp ended).2

theorem readAll {ρ : Type} (read? : ρ → Option α) (rows : Store → List ρ) :
    IsRead (Statement.readAll read? rows) := by
  intro before found after ended
  exact (Statement.readAll_eq_ok.mp ended).2

/-- A statement on texts that may be asked for, and a table that has to be
there. -/
theorem guarded {texts : List String} {tables : List Table}
    {statement : Statement α} (reads : IsRead statement) :
    IsRead (Statement.plain texts >>= fun _ => Statement.reach tables >>=
      fun _ => statement) :=
  (plain texts).bind fun _ => (reach tables).bind fun _ => reads

/-- A value that is computed from the store. -/
theorem gets {value : Store → α} :
    IsRead
      (MonadState.get >>= fun store => Pure.pure (value store) : Statement α) :=
  get.bind fun _ => pure _

theorem require (holds : Bool) (error : ε) :
    IsRead (Transaction.require holds error) := by
  intro before found after ended
  exact (Transaction.require_eq_ok.mp ended).2

theorem demand (found : Option α) (error : ε) :
    IsRead (Transaction.demand found error) := by
  intro before value after ended
  exact (Transaction.demand_eq_ok.mp ended).2

theorem run {report : StorageFault → ε} {statement : Statement α}
    (reads : IsRead statement) : IsRead (Transaction.run report statement) := by
  intro before value after ended
  exact reads before value after (Transaction.run_eq_ok.mp ended)

end IsRead

namespace Store

theorem isRead_attempt? (id : String) : IsRead (attempt? id) := .guarded .gets

theorem isRead_latestAttempt? (assignmentId studentId : String) :
    IsRead (latestAttempt? assignmentId studentId) := .guarded .gets

theorem isRead_countAttempts (assignmentId studentId : String) :
    IsRead (countAttempts assignmentId studentId) := .guarded .gets

theorem isRead_expiredAttempts (now : Instant) (limit : Nat) :
    IsRead (expiredAttempts now limit) :=
  (IsRead.reach _).bind fun _ => .gets

theorem isRead_stalledAttempts (cutoff : Instant) (limit : Nat) :
    IsRead (stalledAttempts cutoff limit) :=
  (IsRead.reach _).bind fun _ => .gets

theorem isRead_listAttempts (assignmentId : String)
    (status : Option AttemptStatus) (skip limit : Nat) :
    IsRead (listAttempts assignmentId status skip limit) := .guarded .gets

theorem isRead_countListed (assignmentId : String)
    (status : Option AttemptStatus) :
    IsRead (countListed assignmentId status) := .guarded .gets

theorem isRead_answersOf (attemptId : String) : IsRead (answersOf attemptId) :=
  .guarded (.readAll _ _)

theorem isRead_countAnswered (attemptId : String) :
    IsRead (countAnswered attemptId) :=
  .guarded .gets

theorem isRead_attemptOfAnswer? (id : String) : IsRead (attemptOfAnswer? id) :=
  .guarded .gets

theorem isRead_test? (id : String) : IsRead (test? id) := .guarded .gets

theorem isRead_variantsOf (testId : String) : IsRead (variantsOf testId) :=
  .guarded (.readAll _ _)

theorem isRead_variant (id : String) : IsRead (variant id) := by
  apply IsRead.guarded
  apply (IsRead.readAll _ _).bind
  intro found
  cases found with
  | nil => exact .fail _
  | cons variant rest => exact .pure _

theorem isRead_assignment? (id : String) : IsRead (assignment? id) :=
  .guarded .gets

theorem isRead_assignment (id : String) : IsRead (assignment id) := by
  apply (isRead_assignment? id).bind
  intro found
  cases found with
  | none => exact .fail _
  | some assignment => exact .pure _

theorem isRead_students (assignmentId : String) :
    IsRead (students assignmentId) := .guarded .gets

theorem isRead_isOnRoster (assignmentId studentId : String) :
    IsRead (isOnRoster assignmentId studentId) := .guarded .gets

theorem isRead_lockSitter (assignmentId studentId : String) :
    IsRead (lockSitter assignmentId studentId) := .plain _

theorem isRead_candidates (authorId : String)
    (subjectId topicId : Option String) :
    IsRead (candidates authorId subjectId topicId) := .guarded (.readAll _ _)

theorem isRead_questionsWithIds (ids : List String) :
    IsRead (questionsWithIds ids) :=
  .guarded (.readAll _ _)

end Store

/-! ## Finding rows -/

namespace Store

variable {before after : Store}

theorem attempt?_eq_ok {id : String} {found : Option Attempt} :
    attempt? id before = .ok (found, after) ↔
      Column.hasNul id = false ∧ before.CanReach [.attempts] ∧
        after = before ∧ found = before.attempts.find? (·.id == id) := by
  simp [attempt?]

theorem attemptInProgress?_eq_ok {assignmentId studentId : String}
    {found : Option Attempt} :
    attemptInProgress? assignmentId studentId before = .ok (found, after) ↔
      (Column.hasNul assignmentId = false ∧ Column.hasNul studentId = false) ∧
    before.CanReach [.attempts] ∧ after = before ∧ found = before.attempts.find?
      (fun attempt => isOf assignmentId studentId attempt &&
        decide (attempt.status = .inProgress)) := by
  simp [attemptInProgress?]

theorem countAttempts_eq_ok {assignmentId studentId : String} {count : Nat} :
    countAttempts assignmentId studentId before = .ok (count, after) ↔
      (Column.hasNul assignmentId = false ∧ Column.hasNul studentId = false) ∧
        before.CanReach [.attempts] ∧ after = before ∧
        count = before.attempts.countP (isOf assignmentId studentId) := by
  simp [countAttempts]

theorem latestAttempt?_eq_ok {assignmentId studentId : String}
    {found : Option Attempt} :
    latestAttempt? assignmentId studentId before = .ok (found, after) ↔
      (Column.hasNul assignmentId = false ∧ Column.hasNul studentId = false) ∧
    before.CanReach [.attempts] ∧ after = before ∧
    found = match before.attempts.filter (isOf assignmentId studentId) with
          | [] => none
          | first :: rest => some (rest.foldl later first) := by
  simp only [latestAttempt?, bind_eq_ok, Statement.plain_eq_ok,
    Statement.reach_eq_ok, get_eq_ok, pure_eq_ok, List.forall_mem_cons]
  constructor
  · rintro ⟨_, _, ⟨⟨plain, plain', -⟩, rfl⟩, _, _, ⟨reached, rfl⟩, _, _,
      ⟨rfl, rfl⟩, same, rfl⟩
    exact ⟨⟨plain, plain'⟩, reached, rfl, same⟩
  · rintro ⟨⟨plain, plain'⟩, reached, rfl, same⟩
    exact ⟨(), after, ⟨⟨plain, plain', List.forall_mem_nil _⟩, rfl⟩, (), after,
      ⟨reached, rfl⟩, after, after, ⟨rfl, rfl⟩, same, rfl⟩

theorem assignment?_eq_ok {id : String} {found : Option Assignment} :
    assignment? id before = .ok (found, after) ↔
      Column.hasNul id = false ∧ before.CanReach [.assignments] ∧
        after = before ∧ found = before.assignments.find? (·.id == id) := by
  simp [assignment?]

theorem isOnRoster_eq_ok {assignmentId studentId : String} {listed : Bool} :
    isOnRoster assignmentId studentId before = .ok (listed, after) ↔
      (Column.hasNul assignmentId = false ∧ Column.hasNul studentId = false) ∧
        before.CanReach [.roster] ∧ after = before ∧
        listed = before.roster.contains ⟨assignmentId, studentId⟩ := by
  simp [isOnRoster]

theorem students_eq_ok {assignmentId : String} {found : List String} :
    students assignmentId before = .ok (found, after) ↔
      Column.hasNul assignmentId = false ∧
    before.CanReach [.roster] ∧ after = before ∧ found = before.collation.sort
      ((before.roster.filter (·.assignmentId == assignmentId)).map
        (·.studentId)) := by
  simp [students]

theorem test?_eq_ok {id : String} {found : Option GeneratedTest} :
    test? id before = .ok (found, after) ↔
      Column.hasNul id = false ∧ before.CanReach [.tests] ∧ after = before ∧
        found = before.tests.find? (·.id == id) := by
  simp [test?]

theorem countVariants_eq_ok {testId : String} {count : Nat} :
    countVariants testId before = .ok (count, after) ↔
      Column.hasNul testId = false ∧
    before.CanReach [.variants] ∧ after = before ∧
    count =
      before.variants.countP (fun variant => variant.testId == testId) := by
  simp [countVariants]

/-- Reading the only row that is asked for, if it is there. -/
theorem mapM_toList_eq_some {ρ α : Type} {read? : ρ → Option α} {row : Option ρ}
    {values : List α} :
    row.toList.mapM read? = some values ↔ (row = none ∧ values = []) ∨
    ∃ found value, row = some found ∧ read? found = some value ∧
      values = [value] := by
  cases row with
  | none => simp [eq_comm]
  | some found =>
      cases read : read? found with
      | none => simp [read]
      | some value => simp [read, eq_comm]

theorem variantAt?_eq_ok {testId : String} {position : Int}
    {found : Option (Variant (List VariantQuestion))} :
    variantAt? testId position before = .ok (found, after) ↔
      Column.hasNul testId = false ∧ before.CanReach [.variants] ∧
    after = before ∧ ((found = none ∧ before.variants.find? (fun variant =>
      variant.testId == testId && variant.position == position) = none) ∨
      ∃ row variant, found = some variant ∧ row.read? = some variant ∧
        before.variants.find? (fun variant => variant.testId ==
          testId && variant.position == position) = some row) := by
  simp only [variantAt?, bind_eq_ok, Statement.plain_eq_ok,
    Statement.reach_eq_ok, Statement.readAll_eq_ok, pure_eq_ok,
    mapM_toList_eq_some]
  constructor
  · rintro ⟨_, _, ⟨plain, rfl⟩, _, _, ⟨reached, rfl⟩, values, _, ⟨read, rfl⟩,
      rfl, rfl⟩
    refine ⟨plain testId List.mem_cons_self, reached, rfl, ?_⟩
    rcases read with ⟨missing, rfl⟩ | ⟨row, variant, present, read, rfl⟩
    · exact .inl ⟨rfl, missing⟩
    · exact .inr ⟨row, variant, rfl, read, present⟩
  · rintro ⟨plain, reached, rfl, read⟩
    refine ⟨⟨⟩, after, ⟨by simpa using plain, rfl⟩, ⟨⟩, after,
      ⟨reached, rfl⟩, ?_⟩
    rcases read with ⟨rfl, missing⟩ | ⟨row, variant, rfl, read, present⟩
    · exact ⟨[], after, ⟨.inl ⟨missing, rfl⟩, rfl⟩, rfl, rfl⟩
    · exact ⟨[variant], after, ⟨.inr ⟨row, variant, present, read, rfl⟩, rfl⟩,
        rfl, rfl⟩

theorem variant_eq_ok {id : String} {found : Variant (List VariantQuestion)} :
    variant id before = .ok (found, after) ↔ Column.hasNul id = false ∧
    before.CanReach [.variants] ∧ after = before ∧ ∃ row,
      before.variants.find? (·.id == id) = some row ∧
      row.read? = some found := by
  simp only [variant, bind_eq_ok, Statement.plain_eq_ok, Statement.reach_eq_ok,
    Statement.readAll_eq_ok, mapM_toList_eq_some]
  constructor
  · rintro ⟨_, _, ⟨plain, rfl⟩, _, _, ⟨reached, rfl⟩, values, _,
      ⟨read, rfl⟩, ended⟩
    rcases read with ⟨missing, rfl⟩ | ⟨row, variant, present, read, rfl⟩
    · exact (Statement.fail_ne_ok ended).elim
    · obtain ⟨rfl, rfl⟩ := pure_eq_ok.mp ended
      exact ⟨plain id List.mem_cons_self, reached, rfl, row, present, read⟩
  · rintro ⟨plain, reached, rfl, row, present, read⟩
    refine ⟨⟨⟩, after, ⟨by simpa using plain, rfl⟩, ⟨⟩, after, ⟨reached, rfl⟩,
      [found], after, ⟨.inr ⟨row, found, present, read, rfl⟩, rfl⟩, ?_⟩
    rfl

/-- The rows of an attempt, by question. -/
def sheet (store : Store) (attemptId : String) :
    List (SavedAnswer (Stored Answer)) :=
  store.collation.sortBy SavedAnswer.questionId
    (store.answers.filter fun answer => answer.attemptId == attemptId)

theorem answersOf_eq_ok {attemptId : String}
    {found : List (SavedAnswer Answer)} :
    answersOf attemptId before = .ok (found, after) ↔
      Column.hasNul attemptId = false ∧
    before.CanReach [.answers] ∧ after = before ∧
    (before.sheet attemptId).mapM SavedAnswer.read? = some found := by
  simp only [answersOf, bind_eq_ok, Statement.plain_eq_ok,
    Statement.reach_eq_ok, Statement.readAll_eq_ok]
  constructor
  · rintro ⟨_, _, ⟨plain, rfl⟩, _, _, ⟨reached, rfl⟩, read, rfl⟩
    exact ⟨plain attemptId List.mem_cons_self, reached, rfl, read⟩
  · rintro ⟨plain, reached, rfl, read⟩
    exact ⟨⟨⟩, after, ⟨by simpa using plain, rfl⟩, ⟨⟩, after, ⟨reached, rfl⟩,
      read, rfl⟩

theorem attemptOfAnswer?_eq_ok {id : String} {found : Option String} :
    attemptOfAnswer? id before = .ok (found, after) ↔ Column.hasNul id = false ∧
    before.CanReach [.answers] ∧ after = before ∧
    found = (before.answers.find? (·.id == id)).map (·.attemptId) := by
  simp [attemptOfAnswer?]

theorem answer?_eq_ok {id : String} {found : Option (SavedAnswer Answer)} :
    answer? id before = .ok (found, after) ↔
      Column.hasNul id = false ∧ before.CanReach [.answers] ∧ after = before ∧
        ((found = none ∧ before.answers.find? (·.id == id) = none) ∨
          ∃ row answer, found = some answer ∧ row.read? = some answer ∧
            before.answers.find? (·.id == id) = some row) := by
  simp only [answer?, bind_eq_ok, Statement.plain_eq_ok, Statement.reach_eq_ok,
    Statement.readAll_eq_ok, pure_eq_ok, mapM_toList_eq_some]
  constructor
  · rintro ⟨_, _, ⟨plain, rfl⟩, _, _, ⟨reached, rfl⟩, values, _, ⟨read, rfl⟩,
      rfl, rfl⟩
    refine ⟨plain id List.mem_cons_self, reached, rfl, ?_⟩
    rcases read with ⟨missing, rfl⟩ | ⟨row, answer, present, read, rfl⟩
    · exact .inl ⟨rfl, missing⟩
    · exact .inr ⟨row, answer, rfl, read, present⟩
  · rintro ⟨plain, reached, rfl, read⟩
    refine ⟨⟨⟩, after, ⟨by simpa using plain, rfl⟩, ⟨⟩, after,
      ⟨reached, rfl⟩, ?_⟩
    rcases read with ⟨rfl, missing⟩ | ⟨row, answer, rfl, read, present⟩
    · exact ⟨[], after, ⟨.inl ⟨missing, rfl⟩, rfl⟩, rfl, rfl⟩
    · exact ⟨[answer], after, ⟨.inr ⟨row, answer, present, read, rfl⟩, rfl⟩,
        rfl, rfl⟩

end Store

theorem Exam.isRead_managedAssignment (caller : Caller)
    (assignmentId : String) :
    IsRead (Exam.managedAssignment caller assignmentId) := by
  apply (IsRead.run (Store.isRead_assignment? assignmentId)).bind
  intro found
  apply (IsRead.demand _ _).bind
  intro assignment
  exact (IsRead.require _ _).bind fun _ => .pure _

end ExamHall
