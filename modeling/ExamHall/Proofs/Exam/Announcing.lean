import ExamHall.Proofs.Exam.Deadline
import ExamHall.Proofs.Exam.Recounting

/-!
# What students' operations tell

Where nothing stands in the way, each operation of a student recounts what it
does.  An answer that has been saved is told once for a whole request, a
violation when it has been counted, and a start after whatever it had to close.
-/

namespace ExamHall

open Store ExamHall.Action

/-- Where nothing has been told before, an action recounts what it does. -/
def Action.IsRecounted {ε α : Type} (context : Context) (store : Store)
    (saved reported : List String) (action : Action ε α) : Prop :=
  Recounts context.now store saved reported (action context
      ⟨store, []⟩).2.published (action context ⟨store, []⟩).2.store

theorem Action.IsRecounted.of_eq {ε α : Type} {context : Context}
    {store after : Store} {saved reported : List String} {action : Action ε α}
    {events : List ProgressEvent}
    (left : (action context ⟨store, []⟩).2 = ⟨after, events⟩)
    (recounts : Recounts context.now store saved reported events after) :
    IsRecounted context store saved reported action := by
  unfold IsRecounted
  rw [left]
  exact recounts

theorem Action.IsRecounted.of_keeps {ε α : Type} {context : Context}
    {store : Store} {action : Action ε α}
    (keeps : Keeps context (· = ⟨store, []⟩) action) :
    IsRecounted context store [] [] action :=
  .of_eq (keeps ⟨store, []⟩ rfl) (.refl store)

/-- The attempt on which some saves have been accepted, if there are any. -/
def savedOn (saves : List AcceptedSave) : List String :=
  (saves.head?.map (·.attemptId)).toList

namespace Exam

variable {context : Context} {store after : Store} {caller : Caller}
  {attemptId : String} {attempt : Attempt}
  {variant : Variant (List VariantQuestion)}

/-! ## Work on an attempt -/

theorem IsWork.recounts_of_refused {α : Type}
    {operation : Action AttemptError α} {error : AttemptError}
    (isWork : IsWork caller attemptId operation)
    (ends : ∀ {α : Type} (work : Attempt → Transaction AttemptError α),
      whileOpen caller attemptId context.now work store =
        .error (.refused error)) :
    IsRecounted context store [] [] operation := by
  obtain ⟨β, work, next, same, -, -⟩ := isWork context
  refine .of_eq ?_ (.refl store)
  rw [same, bind_apply_of_error (commit_of_error (ends work))]

/-- Work that comes too late has the attempt closed, and tells that. -/
theorem IsWork.recounts_of_late {α : Type} {operation : Action AttemptError α}
    (isWork : IsWork caller attemptId operation)
    (tells : context.tells = true) (reliable : store.IsReliable)
    (own : IsOwn store caller.id attemptId attempt)
    (passed : attempt.deadlineAt ≤ context.now)
    (ends : ∀ {α : Type} (work : Attempt → Transaction AttemptError α),
      whileOpen caller attemptId context.now work store =
        .ok (.late (some (submitted attempt.deadlineAt context.now attempt)),
          store.submitting attempt.id attempt.deadlineAt context.now)) :
    IsRecounted context store [] [] operation := by
  obtain ⟨β, work, next, same, -, -⟩ := isWork context
  obtain ⟨given, after, events, completed, -, -, recounts⟩ :=
    complete_recounts tells reliable ⟨own.listed, own.running,
      .inl ⟨rfl, .inl passed⟩⟩ []
  have settled : settleEntry (.late
        (some (submitted attempt.deadlineAt context.now attempt)) : Entry β)
      context ⟨store.submitting attempt.id attempt.deadlineAt context.now, []⟩ =
      (.error (.refused .timeExpired), ⟨after, [] ++ events⟩) :=
    bind_apply_of_ok completed
  refine .of_eq ?_ recounts
  rw [same, bind_apply_of_ok (commit_of_ok (ends work)),
    bind_apply_of_error settled]
  rfl

/-! ## Saving answers -/

/-- What is told when answers of an attempt in progress have been saved. -/
theorem recounts_saving (reliable : store.IsReliable)
    (listed : attempt ∈ store.attempts) (running : attempt.status = .inProgress)
    {now : Instant} (saves : SavesInto now store after) :
    Recounts now store [attempt.id] []
      [eventOf .answerSaved attempt variant now after]
      after := by
  have isOf : (eventOf .answerSaved attempt variant now after).IsOf now after :=
    eventOf_isOf (saves.1.reliable reliable) (saves.attempts ▸ listed)
      (by rw [running]; rfl)
  have same : after.phase = store.phase := phase_congr saves.attempts
  have phase : store.phase attempt.id = .running := by
    rw [phase_of_mem reliable.lawful.sittings.ids listed, running]
    rfl
  exact
    { told := .single saves.1 isOf
      shows := List.forall_mem_singleton.mpr isOf.shows
      traces := same.symm ▸ .work phase (.inl rfl)
      saved := rfl
      reported := rfl }

/-- The saves that are accepted of a batch are all on its attempt. -/
theorem attemptId_of_acceptedEach {now : Instant} {inputs : List AnswerInput} :
    ∀ save ∈ acceptedEach attempt variant now inputs store,
      save.attemptId = attempt.id := by
  induction inputs generalizing store with
  | nil => exact List.forall_mem_nil _
  | cons input rest ih =>
      rw [acceptedEach]
      split
      · exact List.forall_mem_cons.mpr ⟨rfl, ih⟩
      · exact ih

variable (tells : context.tells = true) (reliable : store.IsReliable)

include reliable in
theorem isOpen_of_own (own : IsOwn store caller.id attemptId attempt)
    (inTime : context.now < attempt.deadlineAt) :
    ∃ variant,
      IsOpen context.now store caller.id attemptId attempt variant := by
  have sittings := reliable.lawful.sittings
  obtain ⟨variant, read⟩ :=
    reliable.exists_variant (sittings.variants attempt own.listed)
  exact ⟨variant, sittings.ids,
    own.id ▸ (sittings.keys attempt own.listed).plain,
    canReach_of_noOutages reliable.reach _, own, inTime, read⟩

include tells reliable

theorem save_isRecounted {input : AnswerInput} :
    IsRecounted context store
      (savedOn (acceptedSaves caller attemptId context.now [input] store)) []
      (save caller attemptId input) := by
  have found : Finds context.now store caller attemptId :=
    finds reliable.lawful caller attemptId
  rcases found with ends | @⟨attempt, own, passed, ends⟩
    | @⟨attempt, own, inTime, ends⟩
  · rw [acceptedSaves_of_refused ends]
    exact save_isWork.recounts_of_refused ends
  · rw [acceptedSaves_of_late ends]
    exact save_isWork.recounts_of_late tells reliable own passed ends
  · obtain ⟨variant, opened⟩ := isOpen_of_own reliable own inTime
    have ended := @save_of_open context ⟨store, []⟩ caller attemptId attempt
      variant input opened
    obtain ⟨-, -, -, row, listed, shown⟩ := variant_eq_ok.mp opened.read
    simp only [acceptedSaves_of_opened ends, opened.read, acceptedEach]
    cases saved : saveOne attempt variant context.now input store with
    | error halt =>
        rw [saved] at ended
        exact .of_eq (congrArg Prod.snd ended) (.refl store)
    | ok step =>
        obtain ⟨answer, after⟩ := step
        have writes := saveOne_savesInto reliable.lawful ⟨own.listed,
          own.running, inTime⟩ (hasVariant_of_find? listed shown) saved
        simp only [saved, World.telling, tells, if_true] at ended
        exact .of_eq (congrArg Prod.snd ended)
          (recounts_saving reliable own.listed own.running writes)

theorem saveBatch_isRecounted {inputs : List AnswerInput} :
    IsRecounted context store
      (savedOn (acceptedSaves caller attemptId context.now inputs store)) []
      (saveBatch caller attemptId inputs) := by
  have found : Finds context.now store caller attemptId :=
    finds reliable.lawful caller attemptId
  rcases found with ends | @⟨attempt, own, passed, ends⟩
    | @⟨attempt, own, inTime, ends⟩
  · rw [acceptedSaves_of_refused ends]
    exact saveBatch_isWork.recounts_of_refused ends
  · rw [acceptedSaves_of_late ends]
    exact saveBatch_isWork.recounts_of_late tells reliable own passed ends
  · obtain ⟨variant, opened⟩ := isOpen_of_own reliable own inTime
    obtain ⟨outcome, after, saved⟩ :=
      exists_saveEach attempt variant context.now inputs store
    have ended := @saveBatch_of_open context ⟨store, []⟩ after caller attemptId
      attempt variant inputs outcome opened saved
    obtain ⟨-, -, -, row, listed, shown⟩ := variant_eq_ok.mp opened.read
    obtain ⟨same, writes⟩ := saveEach_writes reliable.lawful
      ⟨own.listed, own.running, inTime⟩ (hasVariant_of_find? listed shown) saved
    have saves := savesInto_of_writesEach writes
    have on :=
      @attemptId_of_acceptedEach store attempt variant context.now inputs
    simp only [acceptedSaves_of_opened ends, opened.read]
    cases accepted : acceptedEach attempt variant context.now inputs store with
    | nil =>
        rw [accepted] at same
        rw [same, List.map_nil, List.isEmpty_nil, if_pos rfl] at ended
        exact .of_eq (congrArg Prod.snd ended)
          (.quiet saves.1 (phase_congr saves.attempts))
    | cons save rest =>
        rw [accepted] at same on
        rw [same, List.map_cons, List.isEmpty_cons, if_neg Bool.false_ne_true]
          at ended
        simp only [World.telling, tells, if_true] at ended
        rw [savedOn, List.head?_cons, Option.map_some, Option.toList_some,
          on save List.mem_cons_self]
        exact .of_eq (congrArg Prod.snd ended)
          (recounts_saving reliable own.listed own.running saves)

/-! ## Violations -/

omit tells reliable in
theorem touches_reporting (store : Store) (attemptId : String)
    (assignment : Assignment) (now : Instant) :
    Touches attemptId store (store.reporting attemptId assignment now) := by
  refine .updateAttempts fun other selected => ?_
  obtain ⟨same, running⟩ := hasStatus_eq_true.mp selected
  refine ⟨same, .reported assignment now other, fun scored => ?_⟩
  rw [running] at scored
  cases scored

omit tells reliable in
/-- A violation is told of the attempt as it has been reported on, whatever that
has led to. -/
theorem violation_told {assignment : Assignment} {now : Instant}
    (reliable : (store.reporting attempt.id assignment now).IsReliable)
    (ids : (store.attempts.map (·.id)).Nodup)
    (listed : attempt ∈ store.attempts)
    (running : attempt.status = .inProgress) :
    let event := eventOf .violation (attempt.reported assignment now) variant
      now (store.reporting attempt.id assignment now)
    event.IsOf now (store.reporting attempt.id assignment now) ∧
      Traces store.phase [event] store.phase ∧
      toldOf .answerSaved [event] = [] ∧
      toldOf .violation [event] = [attempt.id] := by
  intro event
  have sameId : event.attempt.id = attempt.id :=
    (Attempt.Kept.reported assignment now attempt).id
  have fits :
      ProgressKind.violation.fits (attempt.reported assignment now).status =
        true := by
    by_cases closing : attempt.nextEscalation assignment = .autoSubmit
    · rw [(Attempt.reported_of_autoSubmit closing).1]
      rfl
    · rw [Attempt.status_reported closing, running]
      rfl
  have phase : store.phase event.attempt.id = .running := by
    rw [sameId, phase_of_mem ids listed, running]
    rfl
  exact ⟨eventOf_isOf reliable (mem_reporting listed running) fits,
    .work phase (.inr rfl), rfl, congrArg (fun id => [id]) sameId⟩

/-- A violation that has been counted is told first.  If it closes the attempt,
that is told then. -/
theorem reportViolation_isRecounted_of_counted {violation : Violation}
    (counted : violationTransaction caller attemptId context.now store =
      .ok (.inTime violation, after)) :
    IsRecounted context store [] [attemptId]
      (reportViolation caller attemptId) := by
  have reached :=
    (violationTransaction_handsOver reliable.lawful counted).1.reached
  have reliable' := reached.reliable reliable
  have ended := @reportViolation_apply after context ⟨store, []⟩ caller
    attemptId violation counted
  have ids := reliable.lawful.sittings.ids
  obtain ⟨attempt, assignment, ⟨listed, rfl, student, running⟩, inTime, known,
      same, shows, rfl⟩ :=
    violationTransaction_inverts ids counted
  have here :=
    @mem_reporting context.now store attempt assignment listed running
  have id := (Attempt.Kept.reported assignment context.now attempt).id
  have touches := touches_reporting store attempt.id assignment context.now
  have before : store.phase attempt.id = .running := by
    rw [phase_of_mem ids listed, running]
    rfl
  obtain ⟨variant, read⟩ :=
    reliable'.exists_variant (reliable'.lawful.sittings.variants _ here)
  obtain ⟨isOf, traces, saves, reports⟩ :=
    @violation_told _ _ variant _ _ reliable' ids listed running
  simp only [shows.variantId, read, shows.row, World.telling, tells, if_true,
    List.nil_append] at ended
  by_cases closing : attempt.nextEscalation assignment = .autoSubmit
  · have waits := (@Attempt.reported_of_autoSubmit context.now _ _ closing).1
    obtain ⟨row, submitted⟩ :=
      Option.isSome_iff_exists.mp (shows.submitted.mpr closing)
    obtain rfl : row = attempt.reported assignment context.now := by
      have same := shows.row
      rwa [submitted] at same
    obtain ⟨graded, last, events, completed, closes⟩ :=
      complete_tells tells reliable' here waits [eventOf .violation
        (attempt.reported assignment context.now) variant context.now _]
    have closed := closes.recounts reached reliable here waits
      (id.symm ▸ touches) (id.symm ▸ before)
    simp only [submitted] at ended
    rw [map_apply_of_ok completed] at ended
    refine .of_eq (congrArg Prod.snd ended) ?_
    exact
      { told := .tell reached isOf (closes.told reliable' here waits)
        shows := List.forall_mem_append.mpr
          ⟨List.forall_mem_singleton.mpr (isOf.shows.of_gradesInto closes.into
            reliable'.lawful.sittings.ids rfl (.inl rfl)), closed.shows⟩
        traces := traces.append closed.traces
        saved := by rw [toldOf_append, saves, closed.saved]; rfl
        reported := by rw [toldOf_append, reports, closed.reported]; rfl }
  · have none : violation.submitted = none := by
      rw [Option.eq_none_iff_forall_ne_some]
      exact fun row submitted => closing (shows.submitted.mp (submitted ▸ rfl))
    simp only [none] at ended
    have phases : (store.reporting attempt.id assignment context.now).phase =
        store.phase := by
      rw [phase_of_touches (id.symm ▸ touches) ids here, id,
        Attempt.status_reported closing, running]
      exact Function.update_eq_self_iff.mpr before.symm
    refine .of_eq (congrArg Prod.snd ended) ?_
    exact
      { told := .single reached isOf
        shows := List.forall_mem_singleton.mpr isOf.shows
        traces := phases ▸ traces
        saved := saves
        reported := reports }

theorem reportViolation_isRecounted :
    IsRecounted context store []
      (match violationTransaction caller attemptId context.now store with
        | .ok (.inTime _, _) => [attemptId]
        | _ => [])
      (reportViolation caller attemptId) := by
  have found : Finds context.now store caller attemptId :=
    finds reliable.lawful caller attemptId
  rcases found with ends | @⟨attempt, own, passed, ends⟩
    | @⟨attempt, own, inTime, ends⟩
  · rw [show violationTransaction caller attemptId context.now store = _
      from ends _]
    exact reportViolation_isWork.recounts_of_refused ends
  · rw [show violationTransaction caller attemptId context.now store = _
      from ends _]
    exact reportViolation_isWork.recounts_of_late tells reliable own passed ends
  · cases worked : violationTransaction caller attemptId context.now store with
    | error halt =>
        have ended : reportViolation caller attemptId context ⟨store, []⟩ =
            (.error halt, ⟨store, []⟩) := by
          unfold reportViolation
          rw [read_bind_apply]
          exact bind_apply_of_error (commit_of_error worked)
        exact .of_eq (congrArg Prod.snd ended) (.refl store)
    | ok step =>
        obtain ⟨entry, after⟩ := step
        obtain ⟨violation, -, rfl⟩ := map_eq_ok.mp ((ends _).symm.trans worked)
        exact reportViolation_isRecounted_of_counted tells reliable worked

/-! ## Submitting -/

omit tells reliable in
/-- Who has no such attempt in progress cannot submit it. -/
theorem submit_of_not_own
    (missing : ∀ attempt, ¬IsOwn store caller.id attemptId attempt) :
    ∃ halt, submit caller attemptId context ⟨store, []⟩ =
        (.error halt, ⟨store, []⟩) := by
  cases looked : attempt? attemptId store with
  | error fault =>
      exact ⟨_, bind_apply_of_error
        (commit_of_error (by unfold Transaction.run; rw [looked]))⟩
  | ok step =>
      obtain ⟨found, left⟩ := step
      obtain ⟨-, -, rfl, same⟩ := attempt?_eq_ok.mp looked
      unfold submit
      rw [bind_apply_of_ok (query_of_ok looked)]
      cases found with
      | none => exact ⟨_, bind_apply_of_error rfl⟩
      | some attempt =>
          obtain ⟨listed, sameId⟩ := mem_and_key_of_find? same.symm
          rw [bind_apply_of_ok rfl]
          by_cases student : attempt.studentId = caller.id
          · rw [bind_apply_of_ok (if_pos (beq_iff_eq.mpr student))]
            have left : attempt.status ≠ .inProgress := fun running =>
              missing attempt ⟨listed, sameId, student, running⟩
            exact ⟨_, bind_apply_of_error (if_neg (by simpa using left))⟩
          · exact ⟨_, bind_apply_of_error (if_neg (by simpa using student))⟩

theorem submit_isRecounted :
    IsRecounted context store [] []
      (submit caller attemptId >>= snapshotOf) := by
  by_cases mine : ∃ attempt, IsOwn store caller.id attemptId attempt
  · obtain ⟨attempt, own⟩ := mine
    obtain ⟨given, after, events, ended, -, -, recounts⟩ :=
      finalize_recounts tells reliable
        (@closes_of_own store attemptId attempt caller.id context.now own) []
    refine .of_eq ?_ recounts
    rw [submit_of_found reliable own.listed own.id own.student,
      if_pos own.running, bind_apply_of_ok ended, bind_apply_of_ok rfl]
    have keeps : Keeps context (· = ⟨after, events⟩) (snapshotOf given) :=
      snapshotOf_keeps
    exact keeps _ rfl
  · obtain ⟨halt, refused⟩ :=
      @submit_of_not_own context store caller attemptId fun attempt own =>
        mine ⟨attempt, own⟩
    exact .of_eq (congrArg Prod.snd (bind_apply_of_error refused)) (.refl store)

/-! ## Starting -/

/-- What is told of an attempt that has been started. -/
def startOf (attempt : Attempt) (variant : Variant (List VariantQuestion))
    (now : Instant) : ProgressEvent where
  kind := .started
  attempt
  answeredCount := 0
  questionCount := variant.questions.length
  occurredAt := now

omit reliable in
/-- A start is told once the attempt before has been completed. -/
theorem concludeStart_of_started {pending : Option Attempt} {world left : World}
    (completed : completeTimedOut pending context world = (.ok (), left)) :
    (concludeStart (.started pending attempt variant) context world).2 =
      ⟨left.store,
        left.published ++ [startOf attempt variant context.now]⟩ := by
  have told : (Action.publish (startOf attempt variant context.now) :
        Action AttemptError Unit) context left = (.ok (), ⟨left.store,
          left.published ++ [startOf attempt variant context.now]⟩) := by
    unfold Action.publish
    exact if_pos tells
  have ended :
      concludeStart (.started pending attempt variant) context world = _ :=
    (bind_apply_of_ok completed).trans
      ((read_bind_apply _ _).trans (bind_apply_of_ok told))
  rw [ended]
  rfl

omit tells reliable in
/-- A new attempt is shown as one without answers. -/
theorem startOf_isOf {now : Instant} (listed : attempt ∈ store.attempts)
    (running : attempt.status = .inProgress)
    (unanswered : rowsOf attempt.id store.answers = []) :
    (startOf attempt variant now).IsOf now store where
  listed := listed
  fits := by
    rw [show (startOf attempt variant now).attempt.status = _ from running]; rfl
  answered := by
    refine (congrArg Nat.cast
        (List.countP_eq_zero.mpr fun answer inside => ?_)).symm
    intro counted
    rw [Bool.and_eq_true, beq_iff_eq] at counted
    exact List.not_mem_nil (unanswered ▸ mem_rowsOf.mpr ⟨inside, counted.1⟩)
  occurredAt := rfl

omit tells reliable in
theorem rowsOf_of_fresh (lawful : store.Lawful)
    (fresh : attemptId ∉ store.attempts.map (·.id)) :
    rowsOf attemptId store.answers = [] := by
  refine List.eq_nil_iff_forall_not_mem.mpr fun answer inside => ?_
  obtain ⟨listed, rfl⟩ := mem_rowsOf.mp inside
  exact fresh (lawful.sittings.answered answer listed)

omit tells reliable in
/-- A new attempt is told of first when it has been started. -/
theorem traces_startOf {phases : String → Attempt.Phase} {now : Instant}
    (absent : phases attempt.id = .absent) :
    Traces phases [startOf attempt variant now]
      (Function.update phases attempt.id .running) := by
  refine @Traces.single phases (startOf attempt variant now) .running ?_
  rw [show (startOf attempt variant now).attempt.id = attempt.id from rfl,
    absent]
  rfl

omit tells reliable in
theorem status_of_opens {assignment : Assignment}
    {row : Variant (Stored (List VariantQuestion))} {now : Instant}
    (opens : Opens now store assignment row attempt) :
    attempt.status = .inProgress := by
  obtain ⟨_, _, _, _, -, -, -, -, begun⟩ := opens.begun
  rw [begun]
  rfl

omit tells reliable in
theorem phase_of_opens {assignment : Assignment}
    {row : Variant (Stored (List VariantQuestion))} {now : Instant}
    {issued : Issued} (opens : Opens now store assignment row attempt)
    (lawful : store.Lawful) :
    Store.phase { store with attempts := store.attempts ++ [attempt], issued } =
      Function.update store.phase attempt.id .running := by
  have opened : Change now store
    { store with attempts := store.attempts ++ [attempt], issued } :=
    .opened opens
  have phases :=
    @phase_of_append store _ attempt (opened.lawful lawful).sittings.ids rfl
  rwa [status_of_opens opens] at phases

/-- Where the attempt in progress is past its deadline, a student who starts
again is told of as one who has submitted that one, got its scores and started
the next one. -/
theorem concludeStart_recounts_expired {assignment : Assignment}
    {row : Variant (Stored (List VariantQuestion))} {issued : Issued}
    {old : Attempt} (listed : old ∈ store.attempts)
    (own : old.status = .inProgress) (passed : old.deadlineAt ≤ context.now)
    (opens :
      Opens context.now (store.submitting old.id old.deadlineAt context.now)
        assignment row attempt) :
    let middle := store.submitting old.id old.deadlineAt context.now
    let opened : Store :=
      { middle with attempts := middle.attempts ++ [attempt], issued }
    let left :=
      (concludeStart (.started (some (submitted old.deadlineAt context.now old))
        attempt variant) context ⟨opened, []⟩).2
    Recounts context.now store [] [] left.published left.store := by
  intro middle opened left
  have ids := reliable.lawful.sittings.ids
  have touches : Touches old.id store middle :=
    .submitting store old.id old.deadlineAt context.now
  have submits : Reaches context.now store middle :=
    .single (.submitted ⟨listed, own, .inl ⟨rfl, .inl passed⟩⟩)
  have reached : Reaches context.now store opened :=
    submits.tail (.opened opens)
  have reliable' := reached.reliable reliable
  have other : attempt.id ≠ old.id := fun same =>
    opens.fresh (touches.ids ▸ same ▸ List.mem_map_of_mem listed)
  have waits : submitted old.deadlineAt context.now old ∈ middle.attempts :=
    mem_submitting listed own _ _
  have here : attempt ∈ opened.attempts :=
    List.mem_append_right _ (List.mem_singleton_self _)
  have unanswered : rowsOf attempt.id middle.answers = [] :=
    rowsOf_of_fresh (submits.lawful reliable.lawful) opens.fresh
  obtain ⟨graded, last, events, completed, closes⟩ :=
    complete_tells tells reliable' (List.mem_append_left _ waits) rfl []
  obtain ⟨present, id, -, scored⟩ := closes.into.listed
  have before : store.phase old.id = .running := by
    rw [phase_of_mem ids listed, own]
    rfl
  have absent : Function.update store.phase old.id .scored attempt.id =
      .absent := by
    rw [Function.update_of_ne other,
      phase_of_not_mem fun inside => opens.fresh (touches.ids ▸ inside)]
  have closed : middle.phase = Function.update store.phase old.id .submitted :=
    @phase_of_touches store _ (submitted old.deadlineAt context.now old) touches
      ids waits
  have settled : last.phase =
      Function.update (Function.update store.phase old.id .scored) attempt.id
        .running := by
    rw [phase_of_touches (id.symm ▸ closes.into.touches)
      reliable'.lawful.sittings.ids present, id,
      Attempt.Phase.ofStatus_of_isScored scored,
      phase_of_opens opens (submits.lawful reliable.lawful), closed,
      show (submitted old.deadlineAt context.now old).id = old.id from rfl,
        Function.update_comm other,
      Function.update_idem]
  have ended : completeTimedOut
    (some (submitted old.deadlineAt context.now old)) context ⟨opened, []⟩ =
    (.ok (), ⟨last, [] ++ events⟩) := bind_apply_of_ok completed
  have starts : (startOf attempt variant context.now).IsOf context.now last :=
    startOf_isOf (closes.into.touches.mem_of_ne here other)
      (status_of_opens opens)
      ((closes.into.touches.rowsOf_eq other).trans unanswered)
  rw [show left = _ from concludeStart_of_started tells ended]
  exact
    { told := ((closes.told reliable' (List.mem_append_left _ waits) rfl).since
        reached).append (.single .refl starts)
      shows := List.forall_mem_append.mpr
        ⟨closes.shows reliable' (List.mem_append_left _ waits) rfl,
          List.forall_mem_singleton.mpr starts.shows⟩
      traces := settled ▸ (closes.traces before).append (traces_startOf absent)
      saved := by
        rw [toldOf_append, List.nil_append, closes.toldOf_work (.inl rfl)]
        rfl
      reported := by
        rw [toldOf_append, List.nil_append, closes.toldOf_work (.inr rfl)]
        rfl }

theorem concludeStart_isRecounted {assignment : Assignment} {studentId : String}
    {step : StartStep}
    (startsAs : StartsAs context.now store assignment studentId step after) :
    Recounts context.now store [] []
      (concludeStart step context ⟨after, []⟩).2.published
      (concludeStart step context ⟨after, []⟩).2.store := by
  cases startsAs with
  | resumed =>
      exact IsRecounted.of_keeps
        (Keeps.bind snapshotOf_keeps fun _ => Keeps.pure _)
  | exhausted expires =>
      cases expires with
      | vacant =>
          exact IsRecounted.of_keeps
            (Keeps.bind (Keeps.pure _) fun _ => Keeps.refuse _)
      | @expired old listed running passed =>
          obtain ⟨graded, last, events, completed, -, -, recounts⟩ :=
            complete_recounts tells reliable ⟨listed, running.2,
              .inl ⟨rfl, .inl passed⟩⟩ []
          have ended : concludeStart
              (.exhausted (some (submitted old.deadlineAt context.now old)))
              context ⟨store.submitting old.id old.deadlineAt context.now, []⟩ =
              (.error (.refused .noAttemptsLeft), ⟨last, events⟩) :=
            bind_apply_of_ok (bind_apply_of_ok completed)
          unfold Store.submitting at ended
          rw [ended]
          exact recounts
  | @started pending middle attempt issued row variant expires opens read
      student =>
      cases expires with
      | expired listed own passed =>
          exact concludeStart_recounts_expired tells reliable listed own.2
            passed opens
      | vacant =>
          have opened : Change context.now store { store with
            attempts := store.attempts ++ [attempt], issued } := .opened opens
          have unanswered := rowsOf_of_fresh reliable.lawful opens.fresh
          have starts := @startOf_isOf { store with
            attempts := store.attempts ++ [attempt],
            issued } attempt variant context.now
            (List.mem_append_right _ (List.mem_singleton_self _))
              (status_of_opens opens)
            unanswered
          rw [concludeStart_of_started tells rfl]
          exact
            { told := .single (.single opened) starts
              shows := List.forall_mem_singleton.mpr starts.shows
              traces := phase_of_opens opens reliable.lawful ▸
                traces_startOf (phase_of_not_mem opens.fresh)
              saved := rfl
              reported := rfl }

theorem start_isRecounted {assignmentId : String} {accessCode : Option String} :
    IsRecounted context store [] [] (start caller assignmentId accessCode) := by
  rcases @start_cases context ⟨store, []⟩ caller assignmentId accessCode
      reliable.lawful with
    ⟨halt, refused⟩ | ⟨assignment, step, after, -, admits, startsAs, concludes⟩
  · exact .of_eq (congrArg Prod.snd refused) (.refl store)
  · unfold IsRecounted
    rw [concludes]
    exact concludeStart_isRecounted tells reliable startsAs

end Exam

end ExamHall
