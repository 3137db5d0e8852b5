import ExamHall.Api.Handle
import ExamHall.Proofs.Exam.Generating
import ExamHall.Proofs.Exam.Reproducing
import ExamHall.Proofs.Exam.Reviewing
import ExamHall.Proofs.Exam.Working

/-!
# What a request leaves behind

A request leaves the tables alone, or it does to them what its endpoint is there
for.  Students change only attempts of their own, and authors only what they
manage.  Each such change says how the request ends: as it should, or, if
something stood in its way after the change, in a fault.
-/

namespace ExamHall

open Store ExamHall.Action

/-- The attempt on which an endpoint saves answers. -/
def Endpoint.savesOn? : Endpoint → Option String
  | .saveAnswers attemptId | .saveAnswer attemptId _ => some attemptId
  | _ => none

/-- The attempt on which an endpoint has a student work until the deadline. -/
def Endpoint.worksOn? : Endpoint → Option String
  | .saveAnswers attemptId | .saveAnswer attemptId _
    | .reportViolation attemptId => some attemptId
  | _ => none

/-- An attempt is worked on wherever answers of it are saved. -/
theorem Endpoint.worksOn?_of_savesOn? {endpoint : Endpoint} {attemptId : String}
    (saves : endpoint.savesOn? = some attemptId) :
    endpoint.worksOn? = some attemptId := by
  cases endpoint <;> first | exact saves | cases saves

/-- An end of a request that is no answer to what it asked: its calculation has
left the range, or the service has failed. -/
def Halt.IsFault : Halt Refusal → Prop
  | .refused refusal => refusal.reply.status = 500
  | .outOfRange => True

/-- A start completes the attempt that it has submitted, if there is one. -/
def Exam.CompletesPending (now : Instant) :
    Option Attempt → Store → Store → Prop
  | none, before, after => after = before
  | some submitted, before, after => Completes now submitted.id before after

/-- What a caller's request to an endpoint leaves, with the saves that it has
accepted and with why it has not ended well, if it has not. -/
inductive Effect (now : Instant) (store : Store) (caller : Caller) :
    Endpoint → List AcceptedSave → Option (Halt Refusal) → Store → Prop where
  | nothing {endpoint : Endpoint} {failed : Option (Halt Refusal)} :
      Effect now store caller endpoint [] failed store
  | generated {test : GeneratedTest}
      {variants : List (Variant (Stored (List VariantQuestion)))}
      {issued : Issued} (author : caller.role.canAuthor = true) :
      Effect now store caller .generateTest [] none { store with
        tests := store.tests ++ [test],
        variants := store.variants ++ variants, issued }
  | assigned {test : GeneratedTest} {assignment : Assignment}
      {entries : List RosterEntry} {issued : Issued}
      (author : caller.role.canAuthor = true) (listed : test ∈ store.tests)
      (manages : caller.mayManage test.ownerId = true)
      (same : assignment.testId = test.id) :
      Effect now store caller .assign [] none { store with
        assignments := store.assignments ++ [assignment],
        roster := store.roster ++ entries, issued }
  | closed {assignmentId : String} {failed : Option (Halt Refusal)}
      (author : caller.role.canAuthor = true)
      (manages : Manages store caller assignmentId)
      (ending : Ending store Halt.IsFault none failed) :
      Effect now store caller (.closeAssignment assignmentId) [] failed
        { store with
          assignments := updateWhere (isOpen assignmentId) (Store.closed now)
            store.assignments }
  | saved {endpoint : Endpoint} {attemptId : String} {attempt : Attempt}
      {questions : List VariantQuestion} {saves : List AcceptedSave}
      {after : Store} (on : endpoint.savesOn? = some attemptId)
      (own : IsOwn store caller.id attemptId attempt)
      (inTime : now < attempt.deadlineAt)
      (shown : HasVariant store attempt.variantId questions)
      (writes : WritesEach now attempt questions saves store after) :
      Effect now store caller endpoint saves none after
  | late {endpoint : Endpoint} {attemptId : String} {attempt : Attempt}
      {failed : Option (Halt Refusal)}
      {after : Store} (on : endpoint.worksOn? = some attemptId)
      (own : IsOwn store caller.id attemptId attempt)
      (passed : attempt.deadlineAt ≤ now)
      (finishes : Finishes now store attempt attempt.deadlineAt after)
      (ending : Ending store Halt.IsOutOfRange
        (some (.refused (Refusal.ofAttempt .timeExpired))) failed) :
      Effect now store caller endpoint [] failed after
  | violated
      {attemptId : String} {attempt : Attempt} {failed : Option (Halt Refusal)}
      {after : Store} (own : IsOwn store caller.id attemptId attempt)
      (inTime : now < attempt.deadlineAt)
      (touches : Touches attempt.id store after)
      (savesNothing : store.SavesNothing after)
      (ending : Ending store Halt.IsFault none failed) :
      Effect now store caller (.reportViolation attemptId) [] failed after
  | submitted {attemptId : String} {attempt : Attempt} {submittedAt : Instant}
      {failed : Option (Halt Refusal)}
      {after : Store} (own : IsOwn store caller.id attemptId attempt)
      (closes : Closes now store attempt submittedAt)
      (finishes : Finishes now store attempt submittedAt after)
      (ending : Ending store Halt.IsFault none failed) :
      Effect now store caller (.submitAttempt attemptId) [] failed after
  | exhausted {assignmentId : String} {attempt : Attempt}
      {failed : Option (Halt Refusal)}
      {after : Store} (listed : attempt ∈ store.attempts)
      (running : IsRunning assignmentId caller.id attempt)
      (passed : attempt.deadlineAt ≤ now)
      (finishes : Finishes now store attempt attempt.deadlineAt after)
      (ending : Ending store Halt.IsOutOfRange
        (some (.refused (Refusal.ofAttempt .noAttemptsLeft))) failed) :
      Effect now store caller (.startAttempt assignmentId) [] failed after
  | started {assignmentId : String} {pending : Option Attempt}
      {middle after : Store}
      {attempt : Attempt} {issued : Issued} {failed : Option (Halt Refusal)}
      (expires : Expires now store assignmentId caller.id pending middle)
      (student : attempt.studentId = caller.id)
      (completes : Exam.CompletesPending now pending
        { middle with attempts := middle.attempts ++ [attempt], issued } after)
      (ending : Ending store Halt.IsOutOfRange none failed) :
      Effect now store caller (.startAttempt assignmentId) [] failed after
  | graded {attempt graded : Attempt} {after : Store}
      (author : caller.role.canAuthor = true)
      (manages : Manages store caller attempt.assignmentId)
      (into : GradesInto now store attempt graded after) :
      Effect now store caller (.gradeAttempt attempt.id) [] none after
  | reviewed {row : SavedAnswer (Stored Answer)} {attempt : Attempt}
      {after : Store} (author : caller.role.canAuthor = true)
      (manages : Manages store caller attempt.assignmentId)
      (listed : row ∈ store.answers) (same : row.attemptId = attempt.id)
      (into : ReviewsInto now store attempt after) :
      Effect now store caller (.reviewAnswer row.id) [] none after

/-- The action, with its errors reported in a way, has the effect of a caller's
request to an endpoint. -/
abbrev Action.HasEffect {ε α : Type} (context : Context) (store : Store)
    (caller : Caller) (endpoint : Endpoint) (saves : List AcceptedSave)
    (report : ε → Refusal) (action : Action ε α) : Prop :=
  Ends context (fun world => world.store = store) action fun result world =>
    Effect context.now store caller endpoint saves
      ((failure result).map (Halt.map report)) world.store

namespace Action.HasEffect

variable {ε α β : Type} {context : Context} {store : Store} {caller : Caller}
  {endpoint : Endpoint} {saves : List AcceptedSave} {report : ε → Refusal}

theorem of_keeps {action : Action ε α}
    (keeps : Keeps context (fun world => world.store = store) action) :
    HasEffect context store caller endpoint [] report action :=
  Ends.weaken keeps (fun _ same => same) fun _ _ same => same ▸ .nothing

theorem refuse {error : ε} :
    HasEffect context store caller endpoint [] report
      (Action.refuse error : Action ε α) :=
  of_keeps (.refuse error)

theorem reading {next : Context → Action ε β}
    (continued :
      HasEffect context store caller endpoint saves report (next context)) :
    HasEffect context store caller endpoint saves report (read >>= next) :=
  continued

theorem bind_keeps {first : Action ε α} {next : α → Action ε β}
    (keeps : Keeps context (fun world => world.store = store) first)
    (continued : ∀ value,
      HasEffect context store caller endpoint [] report (next value)) :
    HasEffect context store caller endpoint [] report (first >>= next) :=
  Ends.bind _ keeps continued fun _ _ same => same ▸ .nothing

/-- An action that goes on from a value that was found without changing
anything. -/
theorem bind {good : α → World → Prop} {first : Action ε α}
    {next : α → Action ε β}
    (found : Gives context (fun world => world.store = store) good first)
    (continued : ∀ value, (∃ world, world.store = store ∧ good value world) →
      HasEffect context store caller endpoint [] report (next value)) :
    HasEffect context store caller endpoint [] report (first >>= next) := by
  refine Gives.bind found (fun value world reached => ?_) fun _ _ same =>
    same ▸ .nothing
  exact continued value ⟨world, reached⟩ world reached.1

theorem bind_query [ReportsFaults ε] {statement : Statement α}
    {next : α → Action ε β} (reads : IsRead statement)
    (continued : ∀ value, statement store = .ok (value, store) →
      HasEffect context store caller endpoint [] report (next value)) :
    HasEffect context store caller endpoint [] report
      (Action.query statement >>= next) := by
  refine bind (Gives.query reads) fun value found => ?_
  obtain ⟨_, rfl, ended⟩ := found
  exact continued value ended

theorem bind_commit {transaction : Transaction ε α} {next : α → Action ε β}
    (reads : IsRead transaction)
    (continued : ∀ value, transaction store = .ok (value, store) →
      HasEffect context store caller endpoint [] report (next value)) :
    HasEffect context store caller endpoint [] report
      (Action.commit transaction >>= next) := by
  refine bind (Gives.commit reads) fun value found => ?_
  obtain ⟨_, rfl, ended⟩ := found
  exact continued value ended

theorem bind_demand {found : Option α} {error : ε} {next : α → Action ε β}
    (continued : ∀ value, found = some value →
      HasEffect context store caller endpoint [] report (next value)) :
    HasEffect context store caller endpoint [] report
      (Action.demand found error >>= next) :=
  bind Gives.demand fun value ⟨_, _, present⟩ => continued value present

theorem bind_require {holds : Bool} {error : ε} {next : Unit → Action ε β}
    (continued : holds = true →
      HasEffect context store caller endpoint [] report (next ())) :
    HasEffect context store caller endpoint [] report
      (Action.require holds error >>= next) :=
  bind Gives.require fun _ ⟨_, _, passed⟩ => continued passed

/-- A transaction that makes the change as its last step. -/
theorem commit {transaction : Transaction ε α}
    (done : ∀ value after, transaction store = .ok (value, after) →
      Effect context.now store caller endpoint [] none after) :
    HasEffect context store caller endpoint [] report
      (Action.commit transaction) := by
  refine Ends.commit ?_ ?_
  · rintro world rfl value after ended
    exact done value after ended
  · rintro world rfl halt -
    exact .nothing

/-- A transaction that makes the change, and is followed by other steps. -/
theorem bind_change {transaction : Transaction ε α} {next : α → Action ε β}
    (done : ∀ value after, transaction store = .ok (value, after) →
      Ends context (fun world => world.store = after) (next value)
        fun result world => Effect context.now store caller endpoint []
        ((failure result).map (Halt.map report)) world.store) :
    HasEffect context store caller endpoint [] report
      (Action.commit transaction >>= next) := by
  cases ended : transaction store with
  | ok step => exact Ends.bind_commit ended (done step.1 step.2 ended)
  | error halt =>
      exact Ends.bind_commit_error ended fun world same => same ▸ .nothing

end Action.HasEffect

end ExamHall

/-!
## What authors' requests leave

An author generates and assigns tests, closes assignments, and grades and
reviews attempts.  Each of these operations has the effect of its endpoint, on
what the author manages.
-/

namespace ExamHall.Exam

open Store ExamHall.Action

variable {context : Context} {store : Store} {caller : Caller}

/-! ### Tests and assignments -/

theorem generate_hasEffect {request : GenerationRequest} (lawful : store.Lawful)
    (author : caller.role.canAuthor = true) :
    HasEffect context store caller .generateTest [] Refusal.ofGeneration
      (generate caller request) := by
  unfold generate
  refine .bind_require fun _ =>
    Ends.reading (Ends.bind _ (selectFor_ends lawful.bank.ids)
      (fun selected => ?_) fun _ _ failed => failed.1 ▸ .nothing)
  refine Ends.weaken (?_ : HasEffect context store caller .generateTest []
      Refusal.ofGeneration _) (fun _ reached => reached.1) fun _ _ ended =>
        ended
  change HasEffect context store caller .generateTest [] Refusal.ofGeneration
    (if _ then _ else _)
  split
  · exact .of_keeps (.pure _)
  · refine .commit fun sheet after ended => ?_
    obtain ⟨_, _, _, -, -, -, rfl⟩ :=
      storeTest_stored (Transaction.run_eq_ok.mp ended)
    exact .generated author

theorem assign_hasEffect {form : AssignmentForm} (lawful : store.Lawful)
    (author : caller.role.canAuthor = true) :
    HasEffect context store caller .assign [] Refusal.ofAssigning
      (assign caller form) := by
  unfold assign
  refine .bind_keeps (.inRange _) fun startsAt =>
    .bind_keeps (.inRange _) fun endsAt => .bind_require fun _ =>
    .bind_commit (isRead_atStage (isRead_test? _)) fun found looked =>
    .bind_demand fun test present => .bind_require fun manages =>
    HasEffect.reading
      (.bind_require fun _ => .bind_change fun created after ended => .pure ?_)
  obtain ⟨-, -, -, rfl⟩ := test?_eq_ok.mp (Transaction.run_eq_ok.mp looked)
  obtain ⟨listed, -⟩ := mem_and_key_of_find? present
  obtain ⟨entries, issued, -, kept, rfl⟩ := assignTransaction_assigns ended
  intro world same
  rw [same]
  exact .assigned author listed manages
    ((lawful.tests.keys test listed).kept _ kept)

theorem managed_gives {assignmentId : String} {kept : World → Prop} :
    Gives context kept (fun _ world => Manages world.store caller assignmentId)
      (managed caller assignmentId) := by
  refine .mapError
    (Ends.weaken (Gives.commit (isRead_managedAssignment caller assignmentId))
      (fun _ begun => begun) ?_)
  rintro ((error | _) | assignment) world ⟨begun, ended⟩
  · exact ⟨begun, trivial⟩
  · exact ⟨begun, trivial⟩
  · exact ⟨begun, managedAssignment_manages ended⟩

/-- The roster of an assignment that is there can be shown, unless the store
fails. -/
theorem withRoster_faults {assignment : Assignment}
    (plain : Column.hasNul assignment.id = false) :
    Ends context (fun world => world.store = store) (withRoster assignment)
      fun result world => world.store = store ∧ match result with
        | .ok _ => True
        | .error halt =>
            store.outages ≠ [] ∧ (halt.map Refusal.ofAssigning).IsFault := by
  unfold withRoster
  cases read : students assignment.id store with
  | ok step =>
      obtain ⟨ids, left⟩ := step
      obtain rfl := isRead_students _ _ _ _ read
      exact .bind_commit (Transaction.run_eq_ok.mpr read)
        (.pure fun _ same => ⟨same, trivial⟩)
  | error fault =>
      have failed : atStage .fetchRoster (students assignment.id) store =
          .error (.refused (.storage .fetchRoster)) := by
        unfold atStage Transaction.run
        rw [read]
      refine .bind_commit_error failed fun world same =>
        ⟨same, fun reach => ?_, rfl⟩
      cases read.symm.trans
        (students_eq_ok.mpr ⟨plain, canReach_of_noOutages reach _, rfl, rfl⟩)

theorem close_hasEffect {assignmentId : String} (lawful : store.Lawful)
    (author : caller.role.canAuthor = true) :
    HasEffect context store caller (.closeAssignment assignmentId) []
      Refusal.ofAssigning (close caller assignmentId) := by
  unfold close
  refine .bind managed_gives fun _ found =>
    HasEffect.reading (.bind_change fun closed after ended => ?_)
  obtain ⟨start, rfl, manages⟩ := found
  obtain ⟨-, -, rfl, same⟩ :=
    closeAssignment_eq_ok.mp (Transaction.run_eq_ok.mp ended)
  cases present : start.store.assignments.find? (isOpen assignmentId) with
  | none =>
      rw [present] at same
      obtain rfl : closed = none := same
      rw [updateWhere_of_forall_not fun assignment listed =>
        Bool.eq_false_iff.mpr (List.find?_eq_none.mp present assignment listed)]
      exact HasEffect.bind_demand fun _ missing => nomatch missing
  | some assignment =>
      rw [present] at same
      obtain rfl : closed = some (Store.closed context.now assignment) := same
      have plain := (lawful.assignments.keys assignment
          (List.mem_of_find?_eq_some present)).plain
      refine Ends.weaken (@withRoster_faults context _
          (Store.closed context.now assignment) plain)
        (fun _ reached => reached) ?_
      rintro (halt | assigned) reached ⟨same, faults⟩
      · rw [same]
        exact .closed author manages
          (.fault (fun reliable => faults.1 reliable.reach) faults.2)
      · rw [same]
        exact .closed author manages .intended

/-! ### Scores -/

theorem grade_hasEffect {attemptId : String} (lawful : store.Lawful)
    (author : caller.role.canAuthor = true) :
    HasEffect context store caller (.gradeAttempt attemptId) []
      Refusal.ofAttempt (grade caller attemptId) := by
  unfold grade
  refine .bind_query (isRead_attempt? _) fun found looked => .bind_demand ?_
  rintro attempt rfl
  refine .bind_commit (isRead_managedAssignment _ _) fun assignment managed =>
    ?_
  have manages := managedAssignment_manages managed
  obtain ⟨-, -, -, same⟩ := attempt?_eq_ok.mp looked
  obtain ⟨listed, rfl⟩ := mem_and_key_of_find? same.symm
  split
  · exact .refuse
  · refine Ends.bind (fun result world => match result with
      | .ok (some graded) =>
          GradesInto context.now store attempt graded world.store
      | .ok none => world.store = store
      | .error _ => world.store = store)
      (.mapError ((gradeSubmitted_ends lawful).weaken (fun _ same => same) ?_))
        (fun graded => ?_)
      fun _ _ same => same ▸ .nothing
    · rintro ((error | _) | (_ | graded)) world ⟨-, ended⟩
      · exact ended.1
      · exact ended.1
      · exact ended
      · obtain ⟨row, sameId, into⟩ := ended
        obtain rfl := eq_of_key lawful.sittings.ids into.mem listed sameId
        exact into
    · cases graded with
      | none =>
          exact HasEffect.bind_query (isRead_attempt? _) fun _ _ =>
          .of_keeps (.demand _ _)
      | some graded => exact .pure fun world into => .graded author manages into
  · exact .of_keeps (.pure _)

/-- A review is made on the attempt that the answer belongs to. -/
theorem review_hasEffect {answerId : String} {review : Review}
    (lawful : store.Lawful) (author : caller.role.canAuthor = true) :
    HasEffect context store caller (.reviewAnswer answerId) [] Refusal.ofAttempt
      (Exam.review caller answerId review) := by
  unfold Exam.review
  refine .bind_query (isRead_attemptOfAnswer? _) fun found looked =>
    .bind_demand ?_
  rintro attemptId rfl
  refine HasEffect.reading (.commit fun result after ended => ?_)
  obtain ⟨-, -, -, linked⟩ := attemptOfAnswer?_eq_ok.mp looked
  obtain ⟨attempt, into, manages, row, listed, rfl, same⟩ :=
    reviewTransaction_reviewsInto lawful linked.symm ended
  exact .reviewed author manages listed same into

end ExamHall.Exam
