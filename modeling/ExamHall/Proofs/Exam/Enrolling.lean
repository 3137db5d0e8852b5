import ExamHall.Proofs.Calendar.Accepted
import ExamHall.Proofs.Exam.Authoring
import ExamHall.Proofs.Lists
import ExamHall.Proofs.Question.RoundTrip

/-!
# Requests to assign a test

What holds of a form for an assignment that has been read and keeps its bounds,
what its roster consists of, and how the request ends.
-/

namespace ExamHall

open Store Json

/-! ## Forms -/

/-- A form whose fields keep their bounds, as they are sent. -/
structure AssignmentForm.KeepsBounds (form : AssignmentForm) : Prop where
  testId : form.testId ≠ ""
  title : 1 ≤ form.title.length ∧ form.title.length ≤ 255
  students : 1 ≤ form.studentIds.length ∧ form.studentIds.length ≤ 1000
  duration : 1 ≤ form.durationMinutes ∧ form.durationMinutes ≤ 1440
  maxAttempts : 1 ≤ form.maxAttempts ∧ form.maxAttempts ≤ 50
  accessCode : ∀ code, form.accessCode = some code → 4 ≤ code.length ∧
    code.length ≤ 64
  threshold : 0 ≤ form.tabSwitchThreshold ∧ form.tabSwitchThreshold ≤ 100

theorem RangeFault.require_eq_nil {holds : Bool} {field rule : String} :
    RangeFault.require holds field rule = [] ↔ holds = true := by
  cases holds <;> simp [RangeFault.require]

theorem AssignmentForm.keepsBounds {form : AssignmentForm}
    (kept : form.faults = []) :
    form.KeepsBounds := by
  simp only [AssignmentForm.faults, List.append_eq_nil_iff,
    RangeFault.require_eq_nil, isWithin, isCountWithin, Bool.and_eq_true,
    decide_eq_true_eq, Option.all_eq_true, Bool.not_eq_true',
    String.isEmpty_eq_false_iff] at kept
  obtain ⟨⟨⟨⟨⟨⟨testId, title⟩, students⟩, duration⟩, maxAttempts⟩, accessCode⟩,
    threshold⟩ := kept
  exact ⟨testId, title, students, duration, maxAttempts, accessCode, threshold⟩

theorem timeOfJson_isRead {json : Json} {time : Calendar.OffsetTime}
    (read : timeOfJson json = .ok time) : time.IsRead := by
  simp only [timeOfJson, exceptBind_eq_ok] at read
  obtain ⟨text, -, read⟩ := read
  split at read
  · next accepted =>
      cases read
      exact Calendar.accepted?_isRead accepted
  · cases read

/-- The two times of a form are read in the accepted forms. -/
theorem AssignmentForm.times_isRead {json : Json} {form : AssignmentForm}
    (read : AssignmentForm.ofJson json = .ok form) :
    form.startsAt.IsRead ∧ form.endsAt.IsRead := by
  simp only [AssignmentForm.ofJson, exceptBind_eq_ok] at read
  obtain ⟨_, -, _, -, _, -, _, -, startsAt, starts, endsAt, ends, _, -, _, -, _,
    -, _, -, _, -, _, -, _, -, _, -, same⟩ := read
  cases same
  obtain ⟨_, -, starts⟩ := Fields.required_eq_ok.mp starts
  obtain ⟨_, -, ends⟩ := Fields.required_eq_ok.mp ends
  exact ⟨timeOfJson_isRead starts, timeOfJson_isRead ends⟩

namespace Exam

/-! ## Rosters -/

theorem mem_rosterIds {id : String} {studentIds : List String} :
    id ∈ rosterIds studentIds ↔ id ≠ "" ∧
    ∃ given ∈ studentIds, Text.trim given = id := by
  simp [rosterIds, List.mem_mergeSort, and_comm]

/-- A roster is in alphabetical order and has no id twice. -/
theorem pairwise_rosterIds (studentIds : List String) :
    (rosterIds studentIds).Pairwise (· < ·) := by
  have apart : (rosterIds studentIds).Nodup :=
    (List.mergeSort_perm _ _).nodup_iff.mpr (nodup_distinct _)
  have ordered : (rosterIds studentIds).Pairwise (· ≤ ·) :=
    pairwise_mergeSort_text id _
  refine (ordered.and apart).imp fun ⟨early, other⟩ => ?_
  by_contra late
  exact other (String.le_antisymm early (String.not_lt.mp late))

theorem length_rosterIds_le (studentIds : List String) :
    (rosterIds studentIds).length ≤ studentIds.length := by
  have inside : rosterIds studentIds ⊆ studentIds.map Text.trim := by
    intro id listed
    obtain ⟨-, given, inside, rfl⟩ := mem_rosterIds.mp listed
    exact List.mem_map_of_mem inside
  have few := ((pairwise_rosterIds studentIds).nodup.subperm inside).length_le
  rwa [List.length_map] at few

/-! ## How a request ends -/

/-- The access code of a form, which may be drawn. -/
def codeOf (form : AssignmentForm) (context : Context) : Option String :=
  newAccessCode form.accessCode form.generateAccessCode context.drawnCode

/-- What a form asks the store to keep. -/
def assignmentOf (author : Caller) (form : AssignmentForm) (context : Context) :
    NewAssignment :=
  newAssignment author form.testId form form.startsAt.utc form.endsAt.utc
    (codeOf form context) context.now

/-- What is shown of a form that has been stored. -/
def assignedOf (form : AssignmentForm) (context : Context)
    (created : Assignment) : Assigned :=
  ⟨created, rosterIds form.studentIds, codeOf form context⟩

/-- The checks that a form passes before it is stored: its window lies in the
calendar and is not empty, its test is there and may be assigned by the author,
and there is someone on its roster. -/
structure Passes (store : Store) (author : Caller) (form : AssignmentForm)
    (test : GeneratedTest) : Prop where
  startsAt : Calendar.holds form.startsAt.utc = true
  endsAt : Calendar.holds form.endsAt.utc = true
  window : form.startsAt.utc < form.endsAt.utc
  listed : test ∈ store.tests
  asked : test.id = form.testId
  manages : author.mayManage test.ownerId = true
  roster : rosterIds form.studentIds ≠ []

/-- How a request to assign a test ends, and what it leaves. -/
inductive AssignEnds (context : Context) (store : Store) (author : Caller)
    (form : AssignmentForm) :
    Except (Halt AssigningError) Assigned → Store → Prop where
  | beyond (late : Calendar.holds form.startsAt.utc = false ∨
        Calendar.holds form.endsAt.utc = false) :
      AssignEnds context store author form (.error .outOfRange) store
  | empty (startsAt : Calendar.holds form.startsAt.utc = true)
      (endsAt : Calendar.holds form.endsAt.utc = true)
      (order : form.endsAt.utc ≤ form.startsAt.utc) : AssignEnds context store
      author form (.error (.refused .endsBeforeStart)) store
  | refused {error : AssigningError}
      (startsAt : Calendar.holds form.startsAt.utc = true)
      (endsAt : Calendar.holds form.endsAt.utc = true)
      (order : form.startsAt.utc < form.endsAt.utc)
      (other : error ≠ .endsBeforeStart) :
      AssignEnds context store author form (.error (.refused error)) store
  | assigned {test : GeneratedTest} {created : Assignment} {after : Store}
      (passes : Passes store author form test)
      (stored : assignTransaction (assignmentOf author form context)
        (rosterIds form.studentIds) store = .ok (created, after)) : AssignEnds
      context store author form (.ok (assignedOf form context created)) after

variable {context : Context} {author : Caller} {form : AssignmentForm}
  {world : World}

theorem utc?_of_holds {time : Calendar.OffsetTime}
    (inside : Calendar.holds time.utc = true) : time.utc? = some time.utc :=
  if_pos inside

theorem utc?_of_not_holds {time : Calendar.OffsetTime}
    (outside : Calendar.holds time.utc = false) : time.utc? = none :=
  if_neg (Bool.eq_false_iff.mp outside)

/-- A statement at a stage fails as the stage does. -/
theorem atStage_error {α : Type} {stage : AssigningStage}
    {statement : Statement α} {store : Store} {halt : Halt AssigningError}
    (failed : atStage stage statement store = .error halt) :
    halt = .refused (.storage stage) := by
  unfold atStage Transaction.run at failed
  split at failed <;> cases failed
  rfl

theorem assignTransaction_error {assignment : NewAssignment}
    {studentIds : List String} {store : Store} {halt : Halt AssigningError}
    (failed : assignTransaction assignment studentIds store = .error halt) :
    ∃ stage, halt = .refused (.storage stage) := by
  unfold assignTransaction at failed
  cases created : atStage .create (createAssignment assignment) store with
  | error fault =>
      rw [bind_of_error created] at failed
      cases failed
      exact ⟨_, atStage_error created⟩
  | ok step =>
      rw [bind_of_ok created] at failed
      cases added :
          atStage .storeRoster (addStudents step.1.id studentIds) step.2 with
      | error fault =>
          rw [bind_of_error added] at failed
          cases failed
          exact ⟨_, atStage_error added⟩
      | ok rest =>
          rw [bind_of_ok added] at failed
          cases failed

/-- Stores a form, and shows what has been stored. -/
def storing (author : Caller) (form : AssignmentForm) :
    Action AssigningError Assigned := do
  let context ← read
  let created ← Action.commit (assignTransaction
      (assignmentOf author form context) (rosterIds form.studentIds))
  pure (assignedOf form context created)

theorem storing_of_ok {created : Assignment} {after : Store}
    (ended : assignTransaction (assignmentOf author form context)
      (rosterIds form.studentIds) world.store = .ok (created, after)) :
    storing author form context world =
      (.ok (assignedOf form context created), { world with store := after }) :=
  (Action.read_bind_apply _ world).trans
    (Action.bind_apply_of_ok (Action.commit_of_ok ended))

theorem storing_of_error {halt : Halt AssigningError}
    (failed : assignTransaction (assignmentOf author form context)
      (rosterIds form.studentIds) world.store = .error halt) :
    storing author form context world = (.error halt, world) :=
  (Action.read_bind_apply _ world).trans
    (Action.bind_apply_of_error (Action.commit_of_error failed))

/-- A form that passes the checks is stored. -/
theorem assign_of_passes {test : GeneratedTest}
    (lawful : LawfulTests world.store.tests world.store.variants)
    (reach : world.store.CanReach [.tests])
    (passes : Passes world.store author form test) :
    assign author form context world = storing author form context world := by
  have found : atStage .fetchTest (test? form.testId) world.store =
      .ok (some test, world.store) := by
    refine Transaction.run_eq_ok.mpr (test?_eq_ok.mpr ⟨?_, reach, rfl, ?_⟩)
    · exact passes.asked ▸ (lawful.keys test passes.listed).plain
    · exact ((find?_key_eq_some_iff lawful.ids).mpr
          ⟨passes.listed, passes.asked⟩).symm
  have roster : (!(rosterIds form.studentIds).isEmpty) = true := by
    simp [passes.roster]
  unfold assign
  rw [utc?_of_holds passes.startsAt, utc?_of_holds passes.endsAt,
    Action.inRange_bind_apply, Action.inRange_bind_apply,
    decide_eq_true passes.window, Action.require_bind_apply,
    Action.bind_apply_of_ok (Action.commit_of_ok found),
    Action.demand_bind_apply, passes.manages, Action.require_bind_apply,
    Action.read_bind_apply, roster, Action.require_bind_apply, passes.asked]
  rfl

/-- The checks are made one after another; only a form that passes all of them
is stored. -/
theorem assign_ends :
    AssignEnds context world.store author form
      (assign author form context world).1
      (assign author form context world).2.store := by
  unfold assign
  cases startsAt : Calendar.holds form.startsAt.utc with
  | false =>
      rw [utc?_of_not_holds startsAt]
      exact .beyond (.inl startsAt)
  | true =>
  rw [utc?_of_holds startsAt, Action.inRange_bind_apply]
  cases endsAt : Calendar.holds form.endsAt.utc with
  | false =>
      rw [utc?_of_not_holds endsAt]
      exact .beyond (.inr endsAt)
  | true =>
  rw [utc?_of_holds endsAt, Action.inRange_bind_apply]
  cases window : decide (form.startsAt.utc < form.endsAt.utc) with
  | false =>
      exact .empty startsAt endsAt (Int.not_lt.mp (of_decide_eq_false window))
  | true =>
  have order := of_decide_eq_true window
  rw [Action.require_bind_apply]
  cases looked : atStage .fetchTest (test? form.testId) world.store with
  | error halt =>
      rw [Action.bind_apply_of_error (Action.commit_of_error looked),
        atStage_error looked]
      exact .refused startsAt endsAt order nofun
  | ok step =>
  obtain ⟨found, left⟩ := step
  obtain ⟨-, -, rfl, same⟩ := test?_eq_ok.mp (Transaction.run_eq_ok.mp looked)
  rw [Action.bind_apply_of_ok (Action.commit_of_ok looked)]
  cases present : found with
  | none => exact .refused startsAt endsAt order nofun
  | some test =>
  obtain ⟨listed, asked⟩ := mem_and_key_of_find? (same.symm.trans present)
  rw [Action.demand_bind_apply]
  cases manages : author.mayManage test.ownerId with
  | false => exact .refused startsAt endsAt order nofun
  | true =>
  rw [Action.require_bind_apply, Action.read_bind_apply]
  cases roster : !(rosterIds form.studentIds).isEmpty with
  | false =>
      rw [Action.require_false_bind_apply]
      exact .refused startsAt endsAt order nofun
  | true =>
  rw [Action.require_bind_apply, asked]
  change AssignEnds context world.store author form (storing author form context
      world).1 (storing author form context world).2.store
  cases ended : assignTransaction (assignmentOf author form context)
      (rosterIds form.studentIds) world.store with
  | error halt =>
      obtain ⟨stage, rfl⟩ := assignTransaction_error ended
      rw [storing_of_error ended]
      exact .refused startsAt endsAt order nofun
  | ok step =>
      rw [storing_of_ok ended]
      exact .assigned ⟨startsAt, endsAt, order, listed, asked,
        manages, by simpa using roster⟩ ended

variable {store after : Store} {result : Except (Halt AssigningError) Assigned}

/-- A request breaks off exactly if its window does not lie in the calendar. -/
theorem AssignEnds.outOfRange_iff
    (ends : AssignEnds context store author form result after) :
    result = .error .outOfRange ↔ Calendar.holds form.startsAt.utc = false ∨
    Calendar.holds form.endsAt.utc = false := by
  cases ends with
  | beyond late => exact ⟨fun _ => late, fun _ => rfl⟩
  | empty startsAt endsAt _ => simp [startsAt, endsAt]
  | refused startsAt endsAt _ _ => simp [startsAt, endsAt]
  | assigned passes _ => simp [passes.startsAt, passes.endsAt]

/-- In the calendar, the window is compared as it is. -/
theorem AssignEnds.endsBeforeStart_iff
    (ends : AssignEnds context store author form result after)
    (startsAt : Calendar.holds form.startsAt.utc = true)
    (endsAt : Calendar.holds form.endsAt.utc = true) :
    result = .error (.refused .endsBeforeStart) ↔
      form.endsAt.utc ≤ form.startsAt.utc := by
  cases ends with
  | beyond late => simp [startsAt, endsAt] at late
  | empty _ _ order => exact ⟨fun _ => order, fun _ => rfl⟩
  | refused _ _ order other =>
      simp only [Except.error.injEq, Halt.refused.injEq, other, false_iff]
      exact Int.not_le.mpr order
  | assigned passes _ =>
      simp only [reduceCtorEq, false_iff]
      exact Int.not_le.mpr passes.window

end Exam

end ExamHall
