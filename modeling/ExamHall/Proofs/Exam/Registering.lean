import ExamHall.Proofs.Assignment.AccessCode
import ExamHall.Proofs.Exam.Enrolling
import ExamHall.Proofs.Exam.Storing
import ExamHall.Proofs.Text.Case

/-!
# Storing an assignment and reading it back

An assignment that passes the checks is stored if nothing in it is too long for
its column, has the character zero in it, lies before the times that a column
keeps, or vanishes at the precision of a column.  Its row and its roster then
keep every column, check and key.

Whoever manages an assignment is shown its row and its roster, sorted as texts
are sorted by the store.  Both stay as they are, but for the one time that the
assignment is closed.
-/

namespace ExamHall

open Store Column

/-! ## Rows -/

/-- A row of an assignment that the columns and the checks of its table
admit. -/
structure Assignment.FitsTable (row : Assignment) : Prop where
  testId : FitsId row.testId
  ownerId : FitsId row.ownerId
  title : hasNul row.title = false ∧ row.title.length ≤ titleWidth
  accessCodeHash : ∀ hash, row.accessCodeHash = some hash → FitsId hash
  numbers : ∀ number ∈ [row.durationMinutes, row.maxAttempts,
    row.tabSwitchThreshold], int32 number = .ok number
  precision : ∀ instant ∈ [row.startsAt, row.endsAt, row.createdAt,
    row.updatedAt], Column.time instant = instant
  range : Column.earliest ≤ row.startsAt ∧ row.endsAt < Column.limit
  positive : 0 < row.durationMinutes ∧ 0 < row.maxAttempts ∧
    0 ≤ row.tabSwitchThreshold
  window : row.startsAt < row.endsAt

/-- A form that the tables can take: the id of its test and the ids on its
roster fit into their columns, its title has no character zero in it, and its
window begins no earlier than a column can tell and is not lost at its
precision. -/
structure AssignmentForm.IsStorable (form : AssignmentForm) : Prop where
  testId : FitsId form.testId
  title : hasNul (Text.trim form.title) = false
  early : Column.earliest ≤ Column.time form.startsAt.utc
  students : ∀ id ∈ Exam.rosterIds form.studentIds, FitsId id
  window : Column.time form.startsAt.utc < Column.time form.endsAt.utc

/-- The row of an assignment whose texts and times fit into their columns. -/
def NewAssignment.row (assignment : NewAssignment) (id : String) : Assignment :=
  { id
    testId := assignment.testId
    ownerId := assignment.ownerId
    title := assignment.title
    status := assignment.status
    startsAt := Column.time assignment.startsAt
    endsAt := Column.time assignment.endsAt
    durationMinutes := assignment.durationMinutes
    maxAttempts := assignment.maxAttempts
    shufflePerStudent := assignment.shufflePerStudent
    accessCodeHash := assignment.accessCodeHash
    tabSwitchThreshold := assignment.tabSwitchThreshold
    tabSwitchAction := assignment.tabSwitchAction
    createdAt := Column.time assignment.createdAt
    updatedAt := Column.time assignment.createdAt
    closedAt := none }

theorem assignmentRow_of_fits {id : String} {assignment : NewAssignment}
    (fits : (assignment.row id).FitsTable) :
    assignmentRow id assignment = .ok (assignment.row id) := by
  obtain ⟨early, late⟩ := fits.range
  have window := fits.window
  have starts : keeps assignment.startsAt = true :=
    keeps_eq_true.mpr ⟨early, Int.lt_trans window late⟩
  have ends : keeps assignment.endsAt = true :=
    keeps_eq_true.mpr ⟨Int.le_of_lt (Int.lt_of_le_of_lt early window), late⟩
  exact assignmentRow_eq_ok.mpr ⟨_, _, _, _, fits.testId.id_eq_ok,
    fits.ownerId.id_eq_ok, if_pos fits.title.2, starts, ends,
    id?_of_fits fits.accessCodeHash, rfl⟩

/-! ## Storing an assignment -/

variable {now : Instant} {store before after : Store}

/-- An assignment whose row fits its table is stored. -/
theorem exists_createAssignment {assignment : NewAssignment}
    (reach : store.CanReach [.assignments])
    (fits : ∀ id, (assignment.row id).FitsTable)
    (known : assignment.testId ∈ store.tests.map (·.id)) :
    ∃ id issued, id ∉ store.assignments.map (·.id) ∧ IsKey id ∧
      createAssignment assignment store = .ok (assignment.row id,
        { store with assignments := store.assignments ++ [assignment.row id],
                     issued }) := by
  let id := idOf "assignment" (nextAssignmentNumber store)
  have fit := fits id
  have sound : isSoundAssignment (assignment.row id) = true := by
    simp [isSoundAssignment, fit.positive, fit.window]
  refine ⟨id, { store.issued with assignments := nextAssignmentNumber store },
    idOf_freshNumber_not_mem _ _ _, isKey_idOf (by decide +kernel) _,
    createAssignment_eq_ok.mpr ⟨?_, reach, assignmentRow_of_fits fit, sound,
      known, rfl⟩⟩
  simp only [List.forall_mem_append, List.forall_mem_cons, Option.mem_toList]
  exact ⟨⟨fit.testId.plain, fit.ownerId.plain, fit.title.1,
    List.forall_mem_nil _⟩,
    fun hash given => (fit.accessCodeHash hash given).plain⟩

/-- Entries that are not known yet and all different are all new. -/
theorem newEntries_of_fresh {known entries : List RosterEntry}
    (apart : entries.Nodup) (fresh : ∀ entry ∈ entries, entry ∉ known) :
    newEntries known entries = entries := by
  induction entries generalizing known with
  | nil => rfl
  | cons entry rest ih =>
      obtain ⟨here, later⟩ := List.forall_mem_cons.mp fresh
      obtain ⟨single, apart⟩ := List.nodup_cons.mp apart
      rw [newEntries, if_neg (by simpa using here), ih apart]
      intro other inside
      rw [List.mem_cons, not_or]
      exact ⟨fun same => single (same ▸ inside), later other inside⟩

/-- A roster for a new assignment whose ids fit into their column is stored as
it is. -/
theorem addStudents_of_fresh {assignmentId : String} {studentIds : List String}
    (plain : hasNul assignmentId = false) (reach : store.CanReach [.roster])
    (fits : ∀ id ∈ studentIds, FitsId id) (apart : studentIds.Nodup)
    (known : assignmentId ∈ store.assignments.map (·.id))
    (fresh : ∀ entry ∈ store.roster, entry.assignmentId ≠ assignmentId) :
    addStudents assignmentId studentIds store = .ok ((), { store with
      roster := store.roster ++ studentIds.map fun id =>
        ⟨assignmentId, id⟩ }) := by
  have kept : studentIds.mapM Column.id = .ok studentIds := by
    rw [mapM_ok_iff_forall₂, List.forall₂_same]
    exact fun id inside => (fits id inside).id_eq_ok
  have entries :
      newEntries store.roster (studentIds.map fun id => ⟨assignmentId, id⟩) =
        studentIds.map fun id => ⟨assignmentId, id⟩ := by
    apply newEntries_of_fresh
    · exact apart.map fun left right same => (RosterEntry.mk.inj same).2
    · intro entry inside listed
      obtain ⟨id, -, rfl⟩ := List.mem_map.mp inside
      exact fresh _ listed rfl
  refine addStudents_eq_ok.mpr ⟨?_, reach, studentIds, kept,
    .inr known, by rw [entries]⟩
  exact List.forall_mem_cons.mpr ⟨plain,
    fun id inside => (fits id inside).plain⟩

/-- The students of a new assignment are those of its new entries. -/
theorem students_of_fresh {assignmentId : String} {roster : List RosterEntry}
    {studentIds : List String}
    (fresh : ∀ entry ∈ roster, entry.assignmentId ≠ assignmentId) :
    ((roster ++ studentIds.map (RosterEntry.mk assignmentId)).filter
      fun entry => entry.assignmentId == assignmentId).map (·.studentId) =
      studentIds := by
  have others :
      roster.filter (fun entry => entry.assignmentId == assignmentId) = [] := by
    simpa [List.filter_eq_nil_iff] using fresh
  simp [others, List.filter_map, Function.comp_def]

namespace Exam

variable {context : Context} {author : Caller} {form : AssignmentForm}
  {test : GeneratedTest}

/-- The hash of an access code fits into its column. -/
theorem fitsId_codeHash (hash : String)
    (given : (codeOf form context).map AccessCode.hash = some hash) :
    FitsId hash := by
  obtain ⟨code, -, rfl⟩ := Option.map_eq_some_iff.mp given
  exact AccessCode.fitsId_hash code

theorem Passes.isKey (passes : Passes store author form test)
    (lawful : store.Lawful) : IsKey form.testId :=
  passes.asked ▸ lawful.tests.keys test passes.listed

/-- A trimmed id is stored whole or not at all. -/
theorem fitsId_of_mem_rosterIds {id stored : String} {studentIds : List String}
    (listed : id ∈ rosterIds studentIds) (kept : Column.id id = .ok stored)
    (plain : hasNul id = false) : FitsId id := by
  refine ⟨plain, ?_⟩
  obtain ⟨-, given, -, rfl⟩ := mem_rosterIds.mp listed
  obtain ⟨short, rfl | ⟨spaces, cut, nonempty, blank⟩⟩ := bounded_eq_ok kept
  · exact short
  · -- What would be cut off are blanks, and trimming has left none at the end.
    have trimmed := (Text.isTrimmed_trimChars given.toList).back
    rw [← Text.toList_trim, cut, List.getLast?_append_of_ne_nil _ nonempty]
      at trimmed
    obtain ⟨c, last⟩ :=
      Option.isSome_iff_exists.mp (List.getLast?_isSome.mpr nonempty)
    have space := trimmed c last
    rw [blank c (List.mem_of_getLast? last)] at space
    cases space

/-- The row of a form that keeps its bounds and can be stored fits its table. -/
theorem row_assignmentOf_fitsTable (bounds : form.KeepsBounds)
    (passes : Passes store author form test) (owner : FitsId author.id)
    (storable : form.IsStorable) (id : String) :
    ((assignmentOf author form context).row id).FitsTable := by
  have last : Column.time Calendar.stop = Calendar.stop ∧
    Calendar.stop < Column.limit := by decide
  have inside := passes.endsAt
  simp only [Calendar.holds, Bool.and_eq_true, decide_eq_true_eq] at inside
  exact
    { testId := storable.testId
      ownerId := owner
      title :=
        ⟨storable.title, (Text.length_trim_le form.title).trans bounds.title.2⟩
      accessCodeHash := fitsId_codeHash
      numbers := by
        have half : twoTo 31 = 2147483648 := rfl
        have small : ∀ number : Int, 0 ≤ number → number ≤ 1440 →
            int32 number = .ok number :=
          fun number low high => if_pos (by omega)
        have duration := bounds.duration
        have maxAttempts := bounds.maxAttempts
        have threshold := bounds.threshold
        simp only [List.forall_mem_cons]
        refine ⟨small _ ?_ ?_, small _ ?_ ?_, small _ ?_ ?_,
          List.forall_mem_nil _⟩ <;>
          simp only [NewAssignment.row, assignmentOf, newAssignment] <;> omega
      precision := by
        simp [NewAssignment.row]
      range := by
        refine ⟨storable.early, ?_⟩
        exact Int.lt_of_le_of_lt
          (last.1 ▸ Column.time_mono (Int.le_of_lt inside.2)) last.2
      positive := by
        have duration := bounds.duration
        have maxAttempts := bounds.maxAttempts
        have threshold := bounds.threshold
        simp only [NewAssignment.row, assignmentOf, newAssignment]
        omega
      window := storable.window }

/-- What it means that a form has been stored: its row fits the table and is a
new one, its roster consists of new entries, and nothing else of the tables has
changed. -/
structure StoresForm (context : Context) (store : Store) (author : Caller)
    (form : AssignmentForm) (row : Assignment) (after : Store) : Prop where
  fits : row.FitsTable
  made : row = (assignmentOf author form context).row row.id
  assigns :
    Assigns store row ((rosterIds form.studentIds).map fun id => ⟨row.id, id⟩)
  keys : (rosterIds form.studentIds).Nodup
  after : ∃ issued, after = { store with
    assignments := store.assignments ++ [row]
    roster := store.roster ++ (rosterIds form.studentIds).map fun id =>
      ⟨row.id, id⟩
    issued }

/-- A form that passes the checks and can be stored is stored. -/
theorem exists_stored (lawful : store.Lawful)
    (reach : store.CanReach [.assignments, .roster]) (bounds : form.KeepsBounds)
    (passes : Passes store author form test) (owner : FitsId author.id)
    (storable : form.IsStorable) :
    ∃ row after, StoresForm context store author form row after ∧
      assignTransaction (assignmentOf author form context)
        (rosterIds form.studentIds) store = .ok (row, after) := by
  have fits := @row_assignmentOf_fitsTable store context author form test bounds
    passes owner storable
  have known : form.testId ∈ store.tests.map (·.id) :=
    passes.asked ▸ List.mem_map_of_mem passes.listed
  obtain ⟨id, issued, fresh, key, created⟩ :=
    exists_createAssignment (reach.of_subset (by decide)) fits known
  have apart := (pairwise_rosterIds form.studentIds).imp fun early =>
    String.ne_of_lt early
  have added := @addStudents_of_fresh { store with
      assignments := store.assignments ++
      [(assignmentOf author form context).row id], issued } id
    (rosterIds form.studentIds) key.plain (reach.of_subset (by decide))
    storable.students apart (by simp [NewAssignment.row])
    (fun entry inside same =>
      fresh (same ▸ lawful.assignments.enrolled entry inside))
  refine ⟨(assignmentOf author form context).row id, _,
    ⟨fits id, rfl, ?_, apart, issued, rfl⟩, ?_⟩
  · exact
      { fresh, key
        test := known
        duration := (fits id).positive.1
        maxAttempts := (fits id).positive.2.1
        students := List.forall_mem_map.mpr storable.students
        enrolled := List.forall_mem_map.mpr fun _ _ => rfl }
  · simp only [assignTransaction, atStage, bind_eq_ok, Transaction.run_eq_ok,
      pure_eq_ok]
    exact ⟨_, _, created, (), _, added, rfl, rfl⟩

/-- Only a form that can be stored is stored. -/
theorem isStorable_of_stored {row : Assignment} (key : IsKey form.testId)
    (stored : assignTransaction (assignmentOf author form context)
      (rosterIds form.studentIds) before = .ok (row, after)) :
    form.IsStorable ∧ hasNul author.id = false := by
  simp only [assignTransaction, atStage, bind_eq_ok, Transaction.run_eq_ok,
    pure_eq_ok, createAssignment_eq_ok, addStudents_eq_ok] at stored
  obtain ⟨_, _, ⟨plain, -, made, sound, known, -⟩, _, _,
      ⟨plainIds, -, ids, kept, -⟩, -⟩ :=
    stored
  obtain ⟨testId, _, _, _, keptTest, -, -, starts, -, -, rfl⟩ :=
    assignmentRow_eq_ok.mp made
  simp only [isSoundAssignment, Bool.and_eq_true, decide_eq_true_eq] at sound
  have same : testId = form.testId := key.kept testId keptTest
  refine ⟨?_, plain _ (by simp [assignmentOf, newAssignment])⟩
  exact
    { testId := same ▸ fitsId_of_id_eq_ok keptTest key.plain
      title := plain _ (by simp [assignmentOf, newAssignment])
      early := (keeps_eq_true.mp starts).1
      students := by
        intro id listed
        obtain ⟨stored, -, fits⟩ :=
          exists_mem_right_of_forall₂ (mapM_ok_iff_forall₂.mp kept) listed
        exact fitsId_of_mem_rosterIds listed fits
          (plainIds id (List.mem_cons_of_mem _ listed))
      window := sound.2 }

end Exam

/-! ## What becomes of an assignment -/

/-- What has become of the row of an assignment: it is as it was, or it was open
and has been closed once. -/
def Assignment.Becomes (row current : Assignment) : Prop :=
  current = row ∨ row.status ≠ .closed ∧ ∃ now, current = Store.closed now row

/-- A store holds an assignment with its roster.  The assignment may have been
closed meanwhile. -/
structure Store.HoldsAssigned (store : Store) (row : Assignment)
    (studentIds : List String) : Prop where
  listed : ∃ current ∈ store.assignments, row.Becomes current
  roster : (store.roster.filter fun entry => entry.assignmentId == row.id).map
    (·.studentId) = studentIds

variable {row current : Assignment} {studentIds : List String}

theorem Assignment.Becomes.id_eq (becomes : row.Becomes current) :
    current.id = row.id := by
  rcases becomes with rfl | ⟨-, now, rfl⟩ <;> rfl

theorem Assignment.Becomes.ownerId_eq (becomes : row.Becomes current) :
    current.ownerId = row.ownerId := by
  rcases becomes with rfl | ⟨-, now, rfl⟩ <;> rfl

theorem Assignment.Becomes.accessCodeHash_eq (becomes : row.Becomes current) :
    current.accessCodeHash = row.accessCodeHash := by
  rcases becomes with rfl | ⟨-, now, rfl⟩ <;> rfl

/-- An assignment that is closed is not closed again. -/
theorem Assignment.Becomes.closed {id : String}
    (becomes : row.Becomes current) :
    row.Becomes
      (if isOpen id current then Store.closed now current else current) := by
  split
  · next opened =>
      simp only [isOpen, Bool.and_eq_true, decide_eq_true_eq] at opened
      rcases becomes with rfl | ⟨-, now, rfl⟩
      · exact .inr ⟨opened.2, _, rfl⟩
      · exact absurd rfl opened.2
  · exact becomes

/-- Whatever is changed, an assignment stays with its roster, and at most is
closed. -/
theorem Change.holdsAssigned (change : Change now before after)
    (holds : before.HoldsAssigned row studentIds) :
    after.HoldsAssigned row studentIds := by
  obtain ⟨⟨current, listed, becomes⟩, roster⟩ := holds
  cases change with
  | @assigned assignment entries issued assigns =>
      refine ⟨⟨current, List.mem_append_left _ listed, becomes⟩, ?_⟩
      have others :
          entries.filter (fun entry => entry.assignmentId == row.id) = [] := by
        simp only [List.filter_eq_nil_iff, beq_iff_eq]
        intro entry inside same
        apply assigns.fresh
        rw [← assigns.enrolled entry inside, same, ← becomes.id_eq]
        exact List.mem_map_of_mem listed
      rw [List.filter_append, others, List.append_nil]
      exact roster
  | @closed id =>
      exact ⟨⟨_, mem_updateWhere.mpr ⟨current, listed, rfl⟩, becomes.closed⟩,
        roster⟩
  | _ => exact ⟨⟨current, listed, becomes⟩, roster⟩

namespace Exam

/-- A form that has been stored is held. -/
theorem StoresForm.holdsAssigned {context : Context} {author : Caller}
    {form : AssignmentForm} (lawful : store.Lawful)
    (stores : StoresForm context store author form row after) :
    after.HoldsAssigned row (rosterIds form.studentIds) := by
  obtain ⟨issued, rfl⟩ := stores.after
  exact ⟨⟨row, List.mem_append_right _ (List.mem_singleton_self _), .inl rfl⟩,
    students_of_fresh fun entry inside same =>
      stores.assigns.fresh (same ▸ lawful.assignments.enrolled entry inside)⟩

/-- What has been stored of a form is its trimmed title, the hash of its access
code, and its whole roster. -/
theorem holdsAssigned_of_stored {context : Context} {author : Caller}
    {form : AssignmentForm} (lawful : store.Lawful)
    (bounds : form.KeepsBounds) (key : IsKey form.testId)
    (stored : assignTransaction (assignmentOf author form context)
      (rosterIds form.studentIds) store = .ok (row, after)) :
    row.title = Text.trim form.title ∧
    row.accessCodeHash = (codeOf form context).map AccessCode.hash ∧
    row.id ∉ store.assignments.map (·.id) ∧ row ∈ after.assignments ∧
    after.HoldsAssigned row (rosterIds form.studentIds) := by
  have students := (isStorable_of_stored key stored).1.students
  simp only [assignTransaction, atStage, bind_eq_ok, Transaction.run_eq_ok,
    pure_eq_ok] at stored
  obtain ⟨created, _, creating, _, _, adding, rfl, rfl⟩ := stored
  obtain ⟨-, -, made, -, -, rfl⟩ := createAssignment_eq_ok.mp creating
  obtain ⟨plainIds, reach, -⟩ := addStudents_eq_ok.mp adding
  obtain ⟨_, _, title, hash, -, -, keptTitle, -, -, keptHash, same⟩ :=
    assignmentRow_eq_ok.mp made
  have sameId : row.id = idOf "assignment" (nextAssignmentNumber store) := by
    rw [same]
  have fresh : row.id ∉ store.assignments.map (·.id) :=
    sameId ▸ idOf_freshNumber_not_mem _ _ _
  have apart := (pairwise_rosterIds form.studentIds).imp fun early =>
    String.ne_of_lt early
  have unlisted : ∀ entry ∈ store.roster, entry.assignmentId ≠ row.id :=
    fun entry inside same =>
      fresh (same ▸ lawful.assignments.enrolled entry inside)
  rw [addStudents_of_fresh (plainIds _ List.mem_cons_self) reach students apart
    (by simp) unlisted] at adding
  cases adding
  have listed : row ∈ store.assignments ++ [row] :=
    List.mem_append_right _ (List.mem_singleton_self _)
  refine ⟨?_, ?_, fresh, listed, ⟨row, listed, .inl rfl⟩,
    students_of_fresh unlisted⟩
  · have short : (Text.trim form.title).length ≤ titleWidth :=
      (Text.length_trim_le form.title).trans bounds.title.2
    rw [same]
    exact (Except.ok.inj ((if_pos short).symm.trans keptTitle)).symm
  · rw [same]
    exact (Except.ok.inj
        ((id?_of_fits fitsId_codeHash).symm.trans keptHash)).symm

/-- An assignment that is held is shown with its roster to whoever manages
it. -/
theorem showAssignment_of_holds {context : Context} {world : World}
    {caller : Caller} (lawful : world.store.Lawful)
    (reach : world.store.CanReach [.assignments, .roster])
    (holds : world.store.HoldsAssigned row studentIds)
    (manages : caller.mayManage row.ownerId = true) :
    ∃ current, row.Becomes current ∧ current ∈ world.store.assignments ∧
      showAssignment caller row.id context world =
        (.ok ⟨current, world.store.collation.sort studentIds, none⟩,
          world) := by
  obtain ⟨⟨current, listed, becomes⟩, roster⟩ := holds
  have plain := (lawful.assignments.keys current listed).plain
  have found : managedAssignment caller row.id world.store =
      .ok (current, world.store) :=
    becomes.id_eq ▸ (managedAssignment_of_listed lawful listed).mpr
      ⟨reach.of_subset (by decide), rfl, rfl, becomes.ownerId_eq ▸ manages⟩
  have managed : managed caller row.id context world =
      (.ok current, world) := by
    unfold Exam.managed Action.mapError
    rw [Action.commit_of_ok found]
  have shown : atStage .fetchRoster (students current.id) world.store =
      .ok (world.store.collation.sort studentIds, world.store) := by
    refine Transaction.run_eq_ok.mpr (students_eq_ok.mpr
      ⟨plain, reach.of_subset (by decide), rfl, ?_⟩)
    rw [becomes.id_eq, roster]
  refine ⟨current, becomes, listed, ?_⟩
  unfold showAssignment
  rw [Action.bind_apply_of_ok managed]
  exact Action.bind_apply_of_ok (Action.commit_of_ok shown)

end Exam

end ExamHall
