import ExamHall.Proofs.Assignment.AccessCode
import ExamHall.Proofs.Exam.Completing
import ExamHall.Proofs.Exam.Keeping
import ExamHall.Proofs.Exam.Starting

/-!
# Who may start an assignment

A start is denied exactly to those whom no assignment with the id admits.  The
reason is found before anything has been changed.
-/

namespace ExamHall

open Store ExamHall.Action

/-- Whether an error denies a start from the outset. -/
def AttemptError.deniesStart : AttemptError → Bool
  | .unknownAssignment | .outsideWindow _ | .notOnRoster | .wrongAccessCode
    | .storage _ => true
  | _ => false

/-- A start that is denied.  Where the tables can be reached, no assignment with
the id admits it. -/
structure Denies (now : Instant) (store : Store)
    (studentId assignmentId : String) (accessCode : Option String)
    (halt : Halt AttemptError) : Prop where
  refused : ∃ error, halt = .refused error ∧ error.deniesStart = true
  justified : store.Lawful → store.outages = [] → ∀ assignment,
    assignment.id = assignmentId →
    ¬Admits now store studentId accessCode assignment

namespace Action

variable {ε α β : Type} {context : Context} {world : World}
  {bad : Halt ε → Prop}

/-- The action leaves the world alone, and gives a good value or halts for a
good reason. -/
abbrev Decides (context : Context) (world : World) (good : α → Prop)
    (bad : Halt ε → Prop) (action : Action ε α) : Prop :=
  Ends context (fun reached => reached = world) action fun result reached =>
    reached = world ∧ match result with
      | .ok value => good value
      | .error halt => bad halt

namespace Decides

theorem bind {found : α → Prop} {good : β → Prop} {first : Action ε α}
    {next : α → Action ε β} (started : Decides context world found bad first)
    (continued : ∀ value, found value →
      Decides context world good bad (next value)) :
    Decides context world good bad (first >>= next) := by
  refine Ends.bind _ started (fun value => ?_) fun _ _ reached => reached
  rintro _ ⟨rfl, holds⟩
  exact continued value holds _ rfl

/-- An action goes on from the store in which it has been decided. -/
theorem bind_ends {store : Store} {good : α → Prop} {first : Action ε α}
    {next : α → Action ε β} {after : Except (Halt ε) β → World → Prop}
    (decided : ∀ world, world.store = store →
      Decides context world good bad first)
    (continued : ∀ value, good value →
      Ends context (fun world => world.store = store) (next value) after)
    (halted : ∀ halt world, bad halt → world.store = store →
      after (.error halt) world) :
    Ends context (fun world => world.store = store) (first >>= next) after := by
  intro world same
  refine Ends.bind _ (decided world same) (fun value => ?_) ?_ world rfl
  · rintro _ ⟨rfl, holds⟩
    exact continued value holds _ same
  · rintro halt _ ⟨rfl, fails⟩
    exact halted halt _ fails same

theorem require {holds : Bool} {error : ε}
    (refused : holds = false → bad (.refused error)) :
    Decides context world (fun _ => holds = true) bad
      (Action.require holds error) :=
  Ends.require (fun passed _ begun => ⟨begun, passed⟩) fun failed _ begun =>
    ⟨begun, refused failed⟩

theorem demand {found : Option α} {error : ε}
    (refused : found = none → bad (.refused error)) :
    Decides context world (fun value => found = some value) bad
      (Action.demand found error) :=
  Ends.demand (fun _ present _ begun => ⟨begun, present⟩) fun missing _ begun =>
    ⟨begun, refused missing⟩

theorem query [ReportsFaults ε] {statement : Statement α}
    (reads : IsRead statement)
    (refused : ∀ fault, statement world.store = .error fault →
      bad (.refused (ReportsFaults.ofFault fault))) :
    Decides context world
      (fun value => statement world.store = .ok (value, world.store)) bad
      (Action.query statement) := by
  refine Ends.readQuery reads ?_ ?_
  · rintro _ rfl value ended
    exact ⟨rfl, ended⟩
  · rintro _ rfl fault failed
    exact ⟨rfl, refused fault failed⟩

end Decides

end Action

namespace Exam

variable {context : Context} {caller : Caller} {assignmentId : String}
  {accessCode : Option String}

/-- Who is admitted meets all conditions, and who is not fails one of them. -/
theorem admitted_decides (world : World) :
    Decides context world
      (fun assignment => assignment.id = assignmentId ∧
        Admits context.now world.store caller.id accessCode assignment)
      (Denies context.now world.store caller.id assignmentId accessCode)
      (admitted caller assignmentId accessCode) := by
  unfold admitted
  refine .bind (.query (isRead_assignment? assignmentId) fun fault failed => ?_)
    fun found ended => ?_
  · refine ⟨⟨_, rfl, rfl⟩, fun lawful reach assignment same admits => ?_⟩
    have plain := (lawful.assignments.keys assignment admits.listed).plain
    rw [assignment?_eq_ok.mpr ⟨same ▸ plain, canReach_of_noOutages reach _, rfl,
      rfl⟩] at failed
    cases failed
  obtain ⟨-, -, -, rfl⟩ := assignment?_eq_ok.mp ended
  refine .bind (.demand fun missing => ?_) fun assignment present => ?_
  · refine ⟨⟨_, rfl, rfl⟩, fun _ _ assignment same admits => ?_⟩
    exact List.find?_eq_none.mp missing assignment admits.listed
      (beq_iff_eq.mpr same)
  obtain ⟨listed, rfl⟩ := mem_and_key_of_find? present
  have only : world.store.Lawful → ∀ other ∈ world.store.assignments,
      other.id = assignment.id → other = assignment :=
    fun lawful other inside same =>
      eq_of_key lawful.assignments.ids inside listed same
  apply Ends.reading
  refine Decides.bind (.require fun closed => ?_) fun _ window => ?_
  · refine ⟨⟨_, rfl, rfl⟩, fun lawful _ other same admits => ?_⟩
    obtain rfl := only lawful other admits.listed same
    exact of_decide_eq_false closed admits.window
  refine Decides.bind (.query (isRead_isOnRoster _ _) fun fault failed => ?_)
    fun rostered ended => ?_
  · refine ⟨⟨_, rfl, rfl⟩, fun lawful reach other same admits => ?_⟩
    have plain := (lawful.assignments.keys assignment listed).plain
    have student := (lawful.assignments.students _ admits.enrolled).plain
    rw [isOnRoster_eq_ok.mpr ⟨⟨plain, student⟩, canReach_of_noOutages reach _,
      rfl, rfl⟩] at failed
    cases failed
  obtain ⟨-, -, -, rfl⟩ := isOnRoster_eq_ok.mp ended
  refine Decides.bind (.require fun unlisted => ?_) fun _ enrolled => ?_
  · refine ⟨⟨_, rfl, rfl⟩, fun lawful _ other same admits => ?_⟩
    obtain rfl := only lawful other admits.listed same
    exact Bool.eq_false_iff.mp unlisted
      (List.contains_iff_mem.mpr admits.enrolled)
  refine Decides.bind (.require fun wrong => ?_) fun _ allowed => ?_
  · refine ⟨⟨_, rfl, rfl⟩, fun lawful _ other same admits => ?_⟩
    obtain rfl := only lawful other admits.listed same
    exact Bool.eq_false_iff.mp wrong admits.accessCode
  obtain ⟨active, begun, unfinished⟩ :=
    window_eq_open_iff.mp (of_decide_eq_true window)
  exact .pure fun reached same => ⟨same, rfl, listed, active, begun, unfinished,
    List.contains_iff_mem.mp enrolled, allowed⟩

end Exam

end ExamHall

/-!
## Who is turned away for the access code

A start is refused for its access code at one place only: the check that comes
after those of the window and of the roster.  What a start does after its checks
may still be refused, but not for that.
-/

namespace ExamHall

open Store

/-! ### Errors that are not met -/

/-- A step that does not end in a halt. -/
def Spares {σ ε α : Type} (halt : ε) (step : StateT σ (Except ε) α) : Prop :=
  ∀ before, step before ≠ .error halt

namespace Spares

variable {σ ε α β : Type} {halt : ε} {error : ε}

theorem bind {first : StateT σ (Except ε) α} {next : α → StateT σ (Except ε) β}
    (firstSpares : Spares halt first)
    (nextSpares : ∀ value, Spares halt (next value)) :
    Spares halt (first >>= next) := by
  intro before failed
  rcases ended : first before with other | ⟨value, middle⟩
  · rw [bind_of_error ended] at failed
    exact firstSpares before (Except.error.inj failed ▸ ended)
  · rw [bind_of_ok ended] at failed
    exact nextSpares value middle failed

theorem pure (value : α) :
    Spares halt (Pure.pure value : StateT σ (Except ε) α) :=
  fun _ => nofun

variable {halt : Halt ε}

theorem require {holds : Bool} (other : .refused error ≠ halt) :
    Spares halt (Transaction.require holds error) := by
  intro before failed
  unfold Transaction.require at failed
  split at failed
  · cases failed
  · exact other (Except.error.inj failed)

theorem demand {found : Option α} (other : .refused error ≠ halt) :
    Spares halt (Transaction.demand found error) := by
  intro before failed
  cases found with
  | some value => cases failed
  | none => exact other (Except.error.inj failed)

theorem inRange {found : Option α} (other : .outOfRange ≠ halt) :
    Spares halt (Transaction.inRange found : Transaction ε α) := by
  intro before failed
  cases found with
  | some value => cases failed
  | none => exact other (Except.error.inj failed)

theorem run {report : StorageFault → ε} {statement : Statement α}
    (other : ∀ fault, .refused (report fault) ≠ halt) :
    Spares halt (Transaction.run report statement) := by
  intro before failed
  unfold Transaction.run at failed
  split at failed
  · cases failed
  · exact other _ (Except.error.inj failed)

end Spares

namespace Action

variable {ε α β : Type} {error : ε}

/-- An action that is not refused with an error. -/
def Spares (error : ε) (action : Action ε α) : Prop :=
  ∀ context world, (action context world).1 ≠ .error (.refused error)

namespace Spares

theorem bind {first : Action ε α} {next : α → Action ε β}
    (firstSpares : Spares error first)
    (nextSpares : ∀ value, Spares error (next value)) :
    Spares error (first >>= next) := by
  intro context world failed
  rcases ended : first context world with ⟨halt | value, middle⟩
  · rw [bind_apply_of_error ended] at failed
    exact firstSpares context world
      (Except.error.inj failed ▸ congrArg Prod.fst ended)
  · rw [bind_apply_of_ok ended] at failed
    exact nextSpares value context middle failed

theorem pure (value : α) : Spares error (Pure.pure value) :=
  fun _ _ => nofun

theorem reading {next : Context → Action ε α}
    (nextSpares : ∀ context, Spares error (next context)) :
    Spares error (read >>= next) :=
  fun context world => nextSpares context context world

theorem refuse {other : ε} (different : other ≠ error) :
    Spares error (Action.refuse other : Action ε α) := by
  rintro context world ⟨⟩
  exact different rfl

theorem commit {transaction : Transaction ε α}
    (spares : ExamHall.Spares (.refused error) transaction) :
    Spares error (Action.commit transaction) := by
  intro context world failed
  rcases ended : transaction world.store with halt | ⟨value, after⟩
  · rw [commit_of_error ended] at failed
    exact spares world.store (Except.error.inj failed ▸ ended)
  · rw [commit_of_ok ended] at failed
    cases failed

/-- What an action ends with is not refused any more. -/
theorem outcome (action : Action ε α) :
    Spares error (Action.outcome action) := by
  intro context world failed
  unfold Action.outcome at failed
  split at failed <;> cases failed

theorem publish (event : ProgressEvent) :
    Spares error (Action.publish event) := by
  intro context world failed
  unfold Action.publish at failed
  split at failed <;> cases failed

end Spares

end Action

/-! ### After the check -/

namespace Exam

open AttemptError (wrongAccessCode)

variable {assignment : Assignment}

theorem openNext_spares {studentId : String} {timedOut : Option Attempt}
    {now : Instant} :
    Spares (.refused wrongAccessCode)
      (openNext assignment studentId timedOut now) := by
  unfold openNext dealNext deal
  refine .bind (.run nofun) fun used => ?_
  split
  · exact .pure _
  · refine .bind ?_ fun dealt => .pure _
    refine .bind
      (.bind (.run nofun) fun count => .bind (.require nofun) fun _ =>
        .bind (.run nofun) fun found => .demand nofun) fun variant => ?_
    refine .bind (.inRange nofun) fun maxScore =>
      .bind (.inRange nofun) fun deadlineAt => ?_
    exact .bind (.run nofun) fun created =>
      .bind (.demand nofun) fun attempt => .pure _

theorem startTransaction_spares {studentId : String} {now : Instant} :
    Spares (.refused wrongAccessCode)
      (startTransaction assignment studentId now) := by
  refine .bind (.run nofun) fun _ => .bind (.run nofun) fun existing => ?_
  cases existing with
  | none => exact openNext_spares
  | some attempt =>
      dsimp only
      split
      · exact .bind (.run nofun) fun timedOut => openNext_spares
      · exact .pure _

theorem snapshotOf_spares (attempt : Attempt) :
    Action.Spares wrongAccessCode (snapshotOf attempt) :=
  .bind (.commit (.run nofun)) fun _ =>
    .bind (.commit (.run nofun)) fun _ => .pure _

theorem notify_spares (kind : ProgressKind) (attempt : Attempt)
    (variant : Variant (List VariantQuestion)) :
    Action.Spares wrongAccessCode (notify kind attempt variant) :=
  .bind (.outcome _) fun _ => .reading fun _ => .publish _

theorem complete_spares (submitted : Attempt) :
    Action.Spares wrongAccessCode (complete submitted) := by
  refine .bind (.bind (.outcome _) fun found => ?_) fun _ =>
    .bind (.outcome _) fun graded => ?_
  · cases found with
    | ok variant => exact notify_spares _ _ _
    | error error => exact .pure _
  · split
    · exact .pure _
    · exact .pure _

theorem completeTimedOut_spares (timedOut : Option Attempt) :
    Action.Spares wrongAccessCode (completeTimedOut timedOut) := by
  cases timedOut with
  | none => exact .pure _
  | some submitted => exact .bind (complete_spares submitted) fun _ => .pure _

variable {context : Context} {world : World} {caller : Caller}
  {accessCode : Option String}

/-- Up to the access code, an assignment that is open lets everybody in who is
on its roster. -/
theorem admitted_apply (lawful : world.store.Lawful)
    (reach : world.store.CanReach [.assignments, .roster])
    (listed : assignment ∈ world.store.assignments)
    (window : assignment.window context.now = .open)
    (enrolled : ⟨assignment.id, caller.id⟩ ∈ world.store.roster) :
    admitted caller assignment.id accessCode context world =
      if AccessCode.admits assignment.accessCodeHash accessCode
    then (.ok assignment, world)
      else (.error (.refused wrongAccessCode), world) := by
  have plain := (lawful.assignments.keys assignment listed).plain
  have student := (lawful.assignments.students _ enrolled).plain
  have found : assignment? assignment.id world.store =
      .ok (some assignment, world.store) :=
    assignment?_eq_ok.mpr ⟨plain, reach.of_subset (by decide), rfl,
      (find?_key_eq_some lawful.assignments.ids listed).symm⟩
  have rostered : isOnRoster assignment.id caller.id world.store =
      .ok (true, world.store) :=
    isOnRoster_eq_ok.mpr ⟨⟨plain, student⟩, reach.of_subset (by decide), rfl,
      (List.contains_iff_mem.mpr enrolled).symm⟩
  unfold admitted
  rw [Action.bind_apply_of_ok (Action.query_of_ok found),
    Action.demand_bind_apply,
    Action.read_bind_apply, decide_eq_true window, Action.require_bind_apply,
    Action.bind_apply_of_ok (Action.query_of_ok rostered),
    Action.require_bind_apply]
  cases AccessCode.admits assignment.accessCodeHash accessCode with
  | true => rfl
  | false => rfl

/-- Where nothing else stands in the way, a start is refused for its access code
exactly if that does not let the student in.  Nothing has been changed then. -/
theorem start_wrongAccessCode_iff (lawful : world.store.Lawful)
    (reach : world.store.CanReach [.assignments, .roster])
    (listed : assignment ∈ world.store.assignments)
    (window : assignment.window context.now = .open)
    (enrolled : ⟨assignment.id, caller.id⟩ ∈ world.store.roster) :
    ((start caller assignment.id accessCode context world).1 =
      .error (.refused .wrongAccessCode) ↔
      AccessCode.admits assignment.accessCodeHash accessCode = false) ∧
    (AccessCode.admits assignment.accessCodeHash accessCode = false →
      start caller assignment.id accessCode context world =
        (.error (.refused .wrongAccessCode), world)) := by
  have checked := @admitted_apply assignment context world caller accessCode
    lawful reach listed window enrolled
  unfold start
  cases admits : AccessCode.admits assignment.accessCodeHash accessCode with
  | true =>
      rw [admits, if_pos rfl] at checked
      rw [Action.bind_apply_of_ok checked]
      refine ⟨⟨fun failed => absurd failed ?_, nofun⟩, nofun⟩
      refine Action.Spares.reading (fun _ =>
          .bind (.commit startTransaction_spares) fun step => ?_) context world
      cases step with
      | resumed attempt =>
          exact .bind (snapshotOf_spares attempt) fun _ => .pure _
      | exhausted timedOut =>
          exact .bind (completeTimedOut_spares timedOut) fun _ => .refuse nofun
      | started timedOut attempt variant =>
          exact .bind (completeTimedOut_spares timedOut) fun _ =>
            .reading fun _ => .bind (.publish _) fun _ => .pure _
  | false =>
      rw [admits, if_neg Bool.false_ne_true] at checked
      rw [Action.bind_apply_of_error checked]
      exact ⟨⟨fun _ => rfl, fun _ => rfl⟩, fun _ => rfl⟩

end Exam

end ExamHall
