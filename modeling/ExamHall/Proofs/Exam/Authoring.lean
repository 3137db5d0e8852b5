import ExamHall.Exam.Assigning
import ExamHall.Proofs.Attempt.Pending
import ExamHall.Proofs.Exam.Generating
import ExamHall.Proofs.Exam.Keeping
import ExamHall.Proofs.Store.Writing

/-!
# What authors do

Authors write tests and assignments, and close what they have assigned.
-/

/-!
## Assigning a test

An assignment and its roster are stored together.  Closing changes one row and
keeps its key.
-/

namespace ExamHall

open Store

variable {now : Instant} {before after : Store}

namespace Store

theorem assignmentRow_eq_ok {id : String} {assignment : NewAssignment}
    {row : Assignment} :
    assignmentRow id assignment = .ok row ↔
      ∃ testId ownerId title accessCodeHash,
      Column.id assignment.testId = .ok testId ∧
      Column.id assignment.ownerId = .ok ownerId ∧
      Column.bounded Column.titleWidth assignment.title = .ok title ∧
      Column.keeps assignment.startsAt = true ∧
      Column.keeps assignment.endsAt = true ∧
      Column.id? assignment.accessCodeHash = .ok accessCodeHash ∧ row =
          { id, testId, ownerId, title
            status := assignment.status
            startsAt := Column.time assignment.startsAt
            endsAt := Column.time assignment.endsAt
            durationMinutes := assignment.durationMinutes
            maxAttempts := assignment.maxAttempts
            shufflePerStudent := assignment.shufflePerStudent
            accessCodeHash
            tabSwitchThreshold := assignment.tabSwitchThreshold
            tabSwitchAction := assignment.tabSwitchAction
            createdAt := Column.time assignment.createdAt
            updatedAt := Column.time assignment.createdAt
            closedAt := none } := by
  simp only [assignmentRow, exceptBind_eq_ok, Column.timestamp_eq_ok,
    Except.ok.injEq]
  constructor
  · rintro ⟨testId, test, ownerId, owner, title, titled, _, ⟨starts, rfl⟩, _,
      ⟨ends, rfl⟩, hash, hashed, rfl⟩
    exact ⟨testId, ownerId, title, hash, test, owner, titled, starts, ends,
      hashed, rfl⟩
  · rintro ⟨testId, ownerId, title, hash, test, owner, titled, starts, ends,
      hashed, rfl⟩
    exact ⟨testId, test, ownerId, owner, title, titled, _, ⟨starts, rfl⟩, _,
      ⟨ends, rfl⟩, hash, hashed, rfl⟩

/-- The number of the next assignment's id. -/
def nextAssignmentNumber (store : Store) : Nat :=
  freshNumber "assignment" (store.assignments.map (·.id))
    store.issued.assignments

theorem issueAssignmentId_eq_ok {id : String} :
    issueAssignmentId before = .ok (id, after) ↔
      id = idOf "assignment" (nextAssignmentNumber before) ∧ after =
        { before with
          issued := { before.issued with
              assignments := nextAssignmentNumber before } } := by
  constructor
  · intro ended
    cases ended
    exact ⟨rfl, rfl⟩
  · rintro ⟨rfl, rfl⟩
    rfl

theorem createAssignment_eq_ok {assignment : NewAssignment} {row : Assignment} :
    createAssignment assignment before = .ok (row, after) ↔
      (∀ text ∈ [assignment.testId, assignment.ownerId, assignment.title] ++
        assignment.accessCodeHash.toList, Column.hasNul text = false) ∧
    before.CanReach [.assignments] ∧
    assignmentRow (idOf "assignment" (nextAssignmentNumber before)) assignment =
      .ok row ∧
    isSoundAssignment row = true ∧ row.testId ∈ before.tests.map (·.id) ∧
      after = { before with
        assignments := before.assignments ++ [row]
        issued := { before.issued with
            assignments := nextAssignmentNumber before } } := by
  simp only [createAssignment, bind_eq_ok, Statement.plain_eq_ok,
    Statement.reach_eq_ok, get_eq_ok, set_eq_ok, pure_eq_ok,
    Statement.ofExcept_eq_ok, Statement.ensure_eq_ok,
    issueAssignmentId_eq_ok, List.contains_iff_mem]
  constructor
  · rintro ⟨_, _, ⟨plain, rfl⟩, _, _, ⟨reached, rfl⟩, _, _, ⟨rfl, rfl⟩, _, _,
      ⟨made, rfl⟩, _, _, ⟨sound, rfl⟩, _, _, ⟨rfl, rfl⟩, _, _, ⟨known, rfl⟩, _,
      _, rfl, rfl, rfl⟩
    exact ⟨plain, reached, made, sound, known, rfl⟩
  · rintro ⟨plain, reached, made, sound, known, rfl⟩
    exact ⟨⟨⟩, before, ⟨plain, rfl⟩, ⟨⟩, before, ⟨reached, rfl⟩, _, _,
      ⟨rfl, rfl⟩, row, _, ⟨made, rfl⟩, ⟨⟩, _, ⟨sound, rfl⟩, _, _, ⟨rfl, rfl⟩,
      ⟨⟩, _, ⟨known, rfl⟩, ⟨⟩, _, rfl, rfl,
      rfl⟩

theorem mem_of_newEntries {known entries : List RosterEntry}
    {entry : RosterEntry} (membership : entry ∈ newEntries known entries) :
    entry ∈ entries := by
  induction entries generalizing known with
  | nil => cases membership
  | cons first rest ih =>
      unfold newEntries at membership
      split at membership
      · exact List.mem_cons_of_mem first (ih membership)
      · rcases List.mem_cons.mp membership with rfl | later
        · exact List.mem_cons_self
        · exact List.mem_cons_of_mem first (ih later)

theorem addStudents_eq_ok {assignmentId : String} {studentIds : List String}
    {found : Unit} :
    addStudents assignmentId studentIds before = .ok (found, after) ↔
      (∀ text ∈ assignmentId :: studentIds, Column.hasNul text = false) ∧
    before.CanReach [.roster] ∧ ∃ ids, studentIds.mapM Column.id = .ok ids ∧
      (newEntries before.roster (ids.map fun id => ⟨assignmentId, id⟩) = [] ∨
        assignmentId ∈ before.assignments.map (·.id)) ∧
        after = { before with
          roster := before.roster ++ newEntries before.roster
            (ids.map fun id => ⟨assignmentId, id⟩) } := by
  simp [addStudents]

theorem closeAssignment_eq_ok {id : String} {found : Option Assignment} :
    closeAssignment id now before = .ok (found, after) ↔
      Column.hasNul id = false ∧ before.CanReach [.assignments] ∧
        after = { before with
          assignments :=
            updateWhere (isOpen id) (closed now) before.assignments } ∧
        found = (before.assignments.find? (isOpen id)).map (closed now) := by
  simp only [closeAssignment, bind_eq_ok, Statement.plain_eq_ok,
    Statement.reach_eq_ok, get_eq_ok, set_eq_ok, pure_eq_ok]
  constructor
  · rintro ⟨_, _, ⟨plain, rfl⟩, _, _, ⟨reached, rfl⟩, _, _, ⟨rfl, rfl⟩, _, _,
      rfl, rfl, rfl⟩
    exact ⟨plain id List.mem_cons_self, reached, rfl, rfl⟩
  · rintro ⟨plain, reached, rfl, rfl⟩
    exact ⟨⟨⟩, before, ⟨by simpa using plain, rfl⟩, ⟨⟩, before, ⟨reached, rfl⟩,
      _, _, ⟨rfl, rfl⟩, ⟨⟩, _, rfl, rfl, rfl⟩

end Store

namespace Exam

/-- An assignment is stored with its roster. -/
theorem assignTransaction_assigns {assignment : NewAssignment}
    {studentIds : List String} {created : Assignment}
    (ended : assignTransaction assignment studentIds before =
      .ok (created, after)) : ∃ entries issued, Assigns before created entries ∧
      Column.id assignment.testId = .ok created.testId ∧ after = { before with
        assignments := before.assignments ++ [created],
        roster := before.roster ++ entries, issued } := by
  simp only [assignTransaction, atStage, bind_eq_ok, Transaction.run_eq_ok,
    pure_eq_ok, createAssignment_eq_ok, addStudents_eq_ok] at ended
  obtain ⟨row, _, ⟨plain, -, made, sound, known, rfl⟩, _, _,
    ⟨plainIds, -, ids, kept, -, rfl⟩, rfl,
    rfl⟩ := ended
  obtain ⟨testId, ownerId, title, hash, keptTest, -, -, -, -, -, same⟩ :=
    assignmentRow_eq_ok.mp made
  have sameId :
    created.id = idOf "assignment" (nextAssignmentNumber before) := by rw [same]
  have sameTest : created.testId = testId := by rw [same]
  simp only [isSoundAssignment, Bool.and_eq_true, decide_eq_true_eq] at sound
  obtain ⟨⟨⟨duration, maxAttempts⟩, -⟩, -⟩ := sound
  have students : ∀ id ∈ ids, FitsId id := by
    intro id inside
    obtain ⟨given, listed, fits⟩ :=
      exists_mem_left_of_forall₂ (mapM_ok_iff_forall₂.mp kept) inside
    exact fitsId_of_id_eq_ok fits
      (plainIds given (List.mem_cons_of_mem _ listed))
  have assigns : Assigns before created
      (newEntries before.roster (ids.map fun id => ⟨created.id, id⟩)) :=
    { fresh := sameId ▸ idOf_freshNumber_not_mem _ _ _
      key := sameId ▸ isKey_idOf (by decide +kernel) _
      test := known
      duration, maxAttempts
      students := by
        intro entry inside
        obtain ⟨id, listed, rfl⟩ := List.mem_map.mp (mem_of_newEntries inside)
        exact students id listed
      enrolled := by
        intro entry inside
        obtain ⟨id, listed, rfl⟩ := List.mem_map.mp (mem_of_newEntries inside)
        rfl }
  exact ⟨_, _, assigns, sameTest ▸ keptTest, rfl⟩

theorem assignTransaction_handsOver {assignment : NewAssignment}
    {studentIds : List String} {created : Assignment}
    (ended : assignTransaction assignment studentIds before =
      .ok (created, after)) : HandsOver now none before after := by
  obtain ⟨entries, issued, assigns, -, rfl⟩ := assignTransaction_assigns ended
  exact .single (.assigned assigns) (.of_attempts_eq rfl)

theorem closeAssignment_handsOver {id : String} {found : Option Assignment}
    (ended : closeAssignment id now before = .ok (found, after)) :
    HandsOver now none before after := by
  obtain ⟨-, -, rfl, -⟩ := closeAssignment_eq_ok.mp ended
  exact .single .closed (.of_attempts_eq rfl)

end Exam

end ExamHall

/-!
## Writing tests and assignments

The operations of authors only add tests and assignments, and close assignments.
What they select is a paper.
-/

namespace ExamHall.Exam

open Store ExamHall.Action

variable {context : Context} {start : Store}

/-! ### Generating tests -/

theorem questionsWithIds_isSelection {store after : Store} {ids : List String}
    {questions : List (Question Payload)} (lawful : LawfulBank store.questions)
    (ended : questionsWithIds ids store = .ok (questions, after)) :
    IsSelection questions := by
  simp only [questionsWithIds, bind_eq_ok, Statement.plain_eq_ok,
    Statement.reach_eq_ok, Statement.readAll_eq_ok] at ended
  obtain ⟨_, _, ⟨-, rfl⟩, _, _, ⟨-, rfl⟩, read, rfl⟩ := ended
  exact .of_rows lawful List.filter_sublist.subperm read

theorem candidates_isSelection {store after : Store} {authorId : String}
    {subjectId topicId : Option String} {questions : List (Question Payload)}
    (lawful : LawfulBank store.questions)
    (ended : candidates authorId subjectId topicId store =
      .ok (questions, after)) : IsSelection questions := by
  simp only [candidates, bind_eq_ok, Statement.plain_eq_ok,
    Statement.reach_eq_ok, Statement.readAll_eq_ok] at ended
  obtain ⟨_, _, ⟨-, rfl⟩, _, _, ⟨-, rfl⟩, read, rfl⟩ := ended
  exact .of_rows lawful ((Collation.sortBy_perm _ _ _).subperm.trans
      List.filter_sublist.subperm) read

/-- What an action selects when it is run in a settled world. -/
abbrev Selects {ε α : Type} (context : Context) (start : Store)
    (questionsOf : α → List (Question Payload)) (action : Action ε α) : Prop :=
  Gives context (World.IsSettled context.now start)
    (fun selected _ => IsSelection (questionsOf selected)) action

theorem selectFromScope_selects {author : Caller}
    {subjectId topicId : Option String} {count : Nat}
    {percentages : PerDifficulty Nat}
    {generator : Random.Generator} (lawful : start.Lawful) :
    Selects context start (·.1.questions) (selectFromScope author subjectId
      topicId count percentages generator) := by
  unfold selectFromScope
  apply Ends.reading
  refine .bind _ (Keeps.require _ _) (fun _ => ?_) fun _ _ settled =>
    ⟨settled, trivial⟩
  cases Apportion.splitFault? percentages with
  | some fault => exact Gives.refuse
  | none =>
      refine .bind _ (Keeps.inRange _) (fun counts => ?_) fun _ _ settled =>
        ⟨settled, trivial⟩
      refine Gives.bind (.query (isRead_candidates _ _ _)) (fun found => ?_)
        fun _ _ settled => ⟨settled, trivial⟩
      cases drawn : drawSelection found count percentages counts generator with
      | error error => exact .refuse fun world reached => ⟨reached.1, trivial⟩
      | ok selected =>
          refine .pure fun world reached => ⟨reached.1, ?_⟩
          have bank := (reached.1.reached.lawful lawful).bank
          have selection := candidates_isSelection bank reached.2
          exact drawSelection_isSelection selection drawn

theorem selectListed_selects {author : Caller} {given : List String}
    (lawful : start.Lawful) :
    Selects context start (·.questions) (selectListed author given) := by
  unfold selectListed
  apply Ends.reading
  refine .bind _ (Keeps.require _ _) (fun _ => ?_) fun _ _ settled =>
    ⟨settled, trivial⟩
  refine .bind _ (Keeps.require _ _) (fun _ => ?_) fun _ _ settled =>
    ⟨settled, trivial⟩
  refine Gives.bind (.query (isRead_questionsWithIds _)) (fun found => ?_)
    fun _ _ settled => ⟨settled, trivial⟩
  cases picked : pickListed author (listedIds given) found with
  | error error => exact .refuse fun world reached => ⟨reached.1, trivial⟩
  | ok questions =>
      refine .bind _ (Keeps.inRange _) (fun percentages => ?_)
        fun _ _ reached => ⟨reached.1, trivial⟩
      refine .pure fun world reached => ⟨reached.1, ?_⟩
      have bank := (reached.1.reached.lawful lawful).bank
      have selection := questionsWithIds_isSelection bank reached.2
      exact pickListed_isSelection (nodup_distinct _) selection picked

theorem selectFor_selects {author : Caller} {source : QuestionSource}
    {generator : Random.Generator} (lawful : start.Lawful) :
    Selects context start (·.1.questions)
      (selectFor author source generator) := by
  cases source with
  | scope subjectId topicId count percentages =>
      exact selectFromScope_selects lawful
  | manual ids =>
      refine Gives.bind (selectListed_selects lawful) (fun selection => ?_)
        fun _ _ settled => ⟨settled, trivial⟩
      exact .assuming fun selects => Gives.pure fun _ _ => selects

/-- What is generated is stored as a test with papers. -/
theorem generate_settles {author : Caller} {request : GenerationRequest}
    (lawful : start.Lawful) :
    Keeps context (World.IsSettled context.now start)
      (generate author request) := by
  unfold generate
  refine Gives.bind .require
    (fun _ => .assuming fun counted => ?_) fun _ _ settled => settled
  apply Keeps.reading
  refine Gives.bind (selectFor_selects lawful)
    (fun selected => .assuming fun selection => ?_) fun _ _ settled => settled
  cases arranged :
      arrange request.layout (selected.1.questions.map snapshot) selected.2 with
  | mk variants generator =>
      rw [Bool.and_eq_true, decide_eq_true_eq] at counted
      have papers : ∀ variant ∈ variants, IsPaper variant.questions := by
        intro variant inside
        have shown : variant ∈ (arrange request.layout
              (selected.1.questions.map snapshot) selected.2).1 := by
          rw [arranged]
          exact inside
        exact isPaper_arrange (isPaper_snapshot selection) shown
      have nonempty : variants ≠ [] := by
        have := @arrange_ne_nil request.layout
          (selected.1.questions.map snapshot) selected.2 counted.1
        rwa [arranged] at this
      simp only [arranged]
      split
      · exact Keeps.pure _
      · apply commit_settles lawful
        intro before result after admitted ended
        refine storeTest_handsOver admitted ?_ ?_
          (Transaction.run_eq_ok.mp ended)
        · exact fun empty => nonempty (List.map_eq_nil_iff.mp empty)
        · intro variant inside
          obtain ⟨labelled, listed, rfl⟩ := List.mem_map.mp inside
          exact papers labelled listed

/-! ### Assigning tests -/

theorem isRead_atStage {α : Type} {stage : AssigningStage}
    {statement : Statement α} (reads : IsRead statement) :
    IsRead (atStage stage statement) :=
  .run reads

theorem assign_settles {author : Caller} {form : AssignmentForm}
    (lawful : start.Lawful) :
    Keeps context (World.IsSettled context.now start) (assign author form) := by
  unfold assign
  refine .bind (.inRange _) fun startsAt => .bind (.inRange _) fun endsAt =>
    .bind (.require _ _) fun _ =>
    .bind (.commit (isRead_atStage (isRead_test? _))) fun found =>
    .bind (.demand _ _) fun test => .bind (.require _ _) fun _ => .reading ?_
  refine .bind (.require _ _) fun _ =>
    .bind (commit_settles lawful ?_) fun created => .pure _
  intro before result after _ ended
  exact assignTransaction_handsOver ended

theorem managed_keeps {kept : World → Prop} {caller : Caller}
    {assignmentId : String} :
    Keeps context kept (managed caller assignmentId) :=
  .mapError (.commit (isRead_managedAssignment caller assignmentId))

theorem withRoster_keeps {kept : World → Prop} {assignment : Assignment} :
    Keeps context kept (withRoster assignment) :=
  .bind (.commit (isRead_atStage (isRead_students _))) fun _ => .pure _

theorem close_settles {caller : Caller} {assignmentId : String}
    (lawful : start.Lawful) :
    Keeps context (World.IsSettled context.now start)
      (close caller assignmentId) := by
  unfold close
  refine .bind managed_keeps fun _ =>
    .reading (.bind (commit_settles lawful ?_) fun closed =>
    .bind (.demand _ _) fun _ => withRoster_keeps)
  intro before result after _ ended
  exact closeAssignment_handsOver (Transaction.run_eq_ok.mp ended)

/-! ### Looking at tests and assignments -/

variable {kept : World → Prop} {caller : Caller}

theorem showTest_keeps {testId : String} :
    Keeps context kept (showTest caller testId) :=
  .bind (.query (isRead_test? testId)) fun _ => .bind (.demand _ _) fun _ =>
    .bind (.require _ _) fun _ =>
    .bind (.query (isRead_variantsOf _)) fun _ => .pure _

theorem showAssignment_keeps {assignmentId : String} :
    Keeps context kept (showAssignment caller assignmentId) :=
  .bind managed_keeps fun _ => withRoster_keeps

theorem attemptPage_keeps {assignmentId : String} {query : AttemptQuery} :
    Keeps context kept (attemptPage caller assignmentId query) :=
  .bind managed_keeps fun _ =>
    .bind (.commit (isRead_atStage (isRead_listAttempts _ _ _ _))) fun _ =>
    .bind (.commit (isRead_atStage (isRead_countListed _ _))) fun _ => .pure _

end ExamHall.Exam
