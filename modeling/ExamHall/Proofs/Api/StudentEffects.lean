import ExamHall.Proofs.Api.Effect
import ExamHall.Proofs.Exam.StartOutcome

/-!
# What students' requests leave

A student saves answers, reports violations, submits and starts.  Each of these
operations has the effect of its endpoint: it works on the student's own attempt
in time, or has it submitted as of its deadline.
-/

namespace ExamHall.Exam

open Store ExamHall.Action

variable {context : Context} {store : Store} {caller : Caller}
  {attemptId : String} {endpoint : Endpoint}

/-! ## Working in time or too late -/

/-- Work on an attempt that comes too late leaves the attempt submitted; work in
time leaves what it does.  What it gives back may tell which saves it has
accepted, as long as it accepts none where it fails. -/
theorem whileOpen_ends {α β : Type}
    {work : Attempt → Transaction AttemptError α}
    {next : α → Action AttemptError β} {inputs : List AnswerInput}
    (gives : List AcceptedSave → Except (Halt AttemptError) β → Prop)
    (lawful : store.Lawful) (on : endpoint.worksOn? = some attemptId)
    (failing : ∀ halt, gives [] (.error halt))
    (opened : ∀ attempt, IsOwn store caller.id attemptId attempt →
      context.now < attempt.deadlineAt →
      let saves := acceptedSaves caller attemptId context.now inputs store
      (saves = match variant attempt.variantId store with
        | .ok (variant, _) =>
            acceptedEach attempt variant context.now inputs store
        | .error _ => []) →
      match work attempt store with
      | .ok (value, after) =>
          Ends context (fun world =>
            world.store = after) (next value) fun result world =>
            Effect context.now store caller endpoint saves
              ((failure result).map (Halt.map Refusal.ofAttempt)) world.store ∧
            gives saves result
      | .error _ => saves = []) :
    Ends context (fun world => world.store = store)
      (Action.commit (whileOpen caller attemptId context.now work) >>=
        fun entry =>
        settleEntry entry >>= next)
      fun result world =>
        Effect context.now store caller endpoint
          (acceptedSaves caller attemptId context.now inputs store)
          ((failure result).map (Halt.map Refusal.ofAttempt)) world.store ∧
          gives (acceptedSaves caller attemptId context.now inputs store)
            result := by
  have found : Finds context.now store caller attemptId :=
    finds lawful caller attemptId
  rcases found with
    ends | @⟨attempt, own, passed, ends⟩ | @⟨attempt, own, inTime, ends⟩
  · rw [acceptedSaves_of_refused ends]
    exact .bind_commit_error (ends work) fun world same =>
      ⟨same ▸ .nothing, failing _⟩
  · rw [acceptedSaves_of_late ends]
    refine Ends.bind_commit (ends work)
      ((lateEntry_ends lawful own passed).weaken (fun _ same => same) ?_)
    rintro result world ⟨finishes, ending⟩
    refine ⟨.late on own passed finishes
      (ending.map Refusal.ofAttempt fun _ is => is.map _), ?_⟩
    cases result with
    | ok value => cases ending
    | error halt => exact failing halt
  · have reached := opened attempt own inTime (acceptedSaves_of_opened ends)
    cases worked : work attempt store with
    | error halt =>
        rw [worked] at reached
        rw [reached]
        exact .bind_commit_error ((ends work).trans (map_of_error worked))
          fun world same => ⟨same ▸ .nothing, failing halt⟩
    | ok step =>
        obtain ⟨value, after⟩ := step
        rw [worked] at reached
        exact Ends.bind_commit
          ((ends work).trans (map_eq_ok.mpr ⟨value, worked, rfl⟩)) reached

theorem whileOpen_hasEffect {α β : Type}
    {work : Attempt → Transaction AttemptError α}
    {next : α → Action AttemptError β} {inputs : List AnswerInput}
    (lawful : store.Lawful) (on : endpoint.worksOn? = some attemptId)
    (opened : ∀ attempt, IsOwn store caller.id attemptId attempt →
      context.now < attempt.deadlineAt →
      let saves := acceptedSaves caller attemptId context.now inputs store
      match work attempt store with
      | .ok (value, after) =>
          Ends context (fun world => world.store = after) (next value)
            fun result world =>
              Effect context.now store caller endpoint saves
                ((failure result).map (Halt.map Refusal.ofAttempt)) world.store
      | .error _ => saves = []) :
    HasEffect context store caller endpoint
    (acceptedSaves caller attemptId context.now inputs store) Refusal.ofAttempt
    (Action.commit (whileOpen caller attemptId context.now work) >>=
      fun entry =>
        settleEntry entry >>= next) := by
  refine (whileOpen_ends (fun _ _ => True) lawful on (fun _ => trivial)
      ?_).weaken (fun _ same => same) fun _ _ ended => ended.1
  intro attempt own inTime saves _
  have reached := opened attempt own inTime
  split
  · next value after worked =>
      rw [worked] at reached
      exact reached.weaken (fun _ same => same) fun _ _ effect =>
        ⟨effect, trivial⟩
  · next halt worked =>
      rw [worked] at reached
      exact reached

/-! ## Saving -/

/-- A save that ends well has been accepted, and gives back its answer; one that
fails has not. -/
theorem save_ends {input : AnswerInput} (lawful : store.Lawful)
    (on : endpoint.savesOn? = some attemptId) :
    Ends context (fun world => world.store = store)
      (save caller attemptId input) fun result world =>
      let saves := acceptedSaves caller attemptId context.now [input] store
      Effect context.now store caller endpoint saves
          ((failure result).map (Halt.map Refusal.ofAttempt)) world.store ∧
        saves = match result with
          | .ok answer => [⟨attemptId, input, answer⟩]
          | .error _ => [] := by
  refine Ends.reading
      (whileOpen_ends (fun saves result => saves = match result with
    | .ok answer => [⟨attemptId, input, answer⟩]
    | .error _ => []) lawful (endpoint.worksOn?_of_savesOn? on)
      (fun _ => rfl) ?_)
  intro attempt own inTime saves listed
  cases read : variant attempt.variantId store with
  | error fault =>
      rw [read] at listed
      rw [bind_of_error (Transaction.lift_of_error read)]
      exact listed
  | ok step =>
      obtain ⟨variant, left⟩ := step
      obtain rfl := isRead_variant _ _ _ _ read
      obtain ⟨-, -, -, row, found, shown⟩ := variant_eq_ok.mp read
      rw [read] at listed
      dsimp only at listed
      rw [bind_of_ok (Transaction.lift_eq_ok.mpr read)]
      cases saved : saveOne attempt variant context.now input left with
      | error halt =>
          rw [bind_of_error saved]
          rw [acceptedEach, saved] at listed
          exact listed
      | ok step =>
          obtain ⟨answer, after⟩ := step
          rw [bind_of_ok saved]
          rw [acceptedEach, saved] at listed
          have dealt := hasVariant_of_find? found shown
          have writes :=
            saveOne_writes lawful ⟨own.listed, own.running, inTime⟩ dealt saved
          refine bind_notify_ends (fun _ _ same => same) (.pure ?_)
          rintro world rfl
          rw [listed, ← own.id]
          exact ⟨.saved on own inTime dealt (.cons writes .nil), rfl⟩

/-- A batch that ends well gives back the answers of the saves that have been
accepted, and one that fails has accepted none. -/
theorem saveBatch_ends {inputs : List AnswerInput} (lawful : store.Lawful)
    (on : endpoint.savesOn? = some attemptId) :
    Ends context (fun world => world.store = store)
      (saveBatch caller attemptId inputs) fun result world =>
        let saves := acceptedSaves caller attemptId context.now inputs store
        Effect context.now store caller endpoint saves
            ((failure result).map (Halt.map Refusal.ofAttempt)) world.store ∧
          saves.map (·.answer) = match result with
            | .ok outcome => outcome.saved
            | .error _ => [] := by
  refine Ends.reading (whileOpen_ends
        (fun saves result => saves.map (·.answer) = match result with
    | .ok (outcome : BatchOutcome) => outcome.saved
    | .error _ => []) lawful (endpoint.worksOn?_of_savesOn? on)
      (fun _ => rfl) ?_)
  intro attempt own inTime saves listed
  cases read : variant attempt.variantId store with
  | error fault =>
      rw [read] at listed
      rw [bind_of_error (Transaction.lift_of_error read)]
      exact listed
  | ok step =>
      obtain ⟨variant, left⟩ := step
      obtain rfl := isRead_variant _ _ _ _ read
      obtain ⟨-, -, -, row, found, shown⟩ := variant_eq_ok.mp read
      rw [read] at listed
      obtain ⟨outcome, after, saved⟩ :=
        exists_saveEach attempt variant context.now inputs left
      have dealt := hasVariant_of_find? found shown
      obtain ⟨same, writes⟩ :=
        saveEach_writes lawful ⟨own.listed, own.running, inTime⟩ dealt saved
      rw [bind_of_ok (Transaction.lift_eq_ok.mpr read), bind_of_ok saved]
      have ends : ∀ world : World, world.store = after →
          Effect context.now left caller endpoint saves none world.store ∧
            saves.map (·.answer) = outcome.saved := by
        rintro world rfl
        rw [listed]
        exact ⟨.saved on own inTime dealt writes, same.symm⟩
      change Ends context _ (if _ then _ else _) _
      split
      · exact .pure ends
      · exact bind_notify_ends (fun _ _ same => same) (.pure ends)

theorem save_hasEffect {input : AnswerInput} (lawful : store.Lawful)
    (on : endpoint.savesOn? = some attemptId) :
    HasEffect context store caller endpoint
      (acceptedSaves caller attemptId context.now [input] store)
      Refusal.ofAttempt (save caller attemptId input) :=
  (save_ends lawful on).weaken (fun _ same => same) fun _ _ ended => ended.1

theorem saveBatch_hasEffect {inputs : List AnswerInput} (lawful : store.Lawful)
    (on : endpoint.savesOn? = some attemptId) :
    HasEffect context store caller endpoint
      (acceptedSaves caller attemptId context.now inputs store)
      Refusal.ofAttempt (saveBatch caller attemptId inputs) :=
  (saveBatch_ends lawful on).weaken (fun _ same => same) fun _ _ ended =>
    ended.1

/-! ## Violations -/

theorem reportViolation_hasEffect (lawful : store.Lawful) :
    HasEffect context store caller (.reportViolation attemptId) []
      Refusal.ofAttempt (reportViolation caller attemptId) := by
  have none : acceptedSaves caller attemptId context.now [] store = [] :=
    acceptedSaves_nil lawful caller attemptId
  rw [← none]
  refine Ends.reading (whileOpen_hasEffect lawful rfl ?_)
  intro attempt own inTime saves
  have empty : saves = [] := none
  have worked : IsWorkedOn context.now store attempt :=
    ⟨own.listed, own.running, inTime⟩
  split
  · next violation after ended =>
      obtain ⟨handed, shown⟩ := violation_handsOver lawful worked ended
      obtain ⟨touches, answers, same⟩ := violation_touches lawful worked ended
      have lawful' := handed.reached.lawful lawful
      have savesNothing := touches.savesNothing answers
      rw [empty]
      refine .bind (fun result world => world.store = after ∧ match result with
        | .ok _ => True
        | .error halt =>
            ¬store.IsReliable ∧ (halt.map Refusal.ofAttempt).IsFault)
        (.readQuery (isRead_variant _) ?_ ?_) (fun variant => ?_) ?_
      · exact fun world same _ _ => ⟨same, trivial⟩
      · rintro world rfl fault failed
        refine ⟨rfl, fun reliable => ?_, rfl⟩
        obtain ⟨variant, read⟩ :=
          (handed.reached.reliable reliable).exists_variant shown
        cases failed.symm.trans read
      · obtain ⟨given, escalation, submitted⟩ := violation
        cases submitted with
        | none =>
            refine bind_notify_ends (fun _ _ reached => reached) (.pure ?_)
            rintro world ⟨rfl, -⟩
            exact .violated own inTime touches savesNothing .intended
        | some submitted =>
            obtain sameId : submitted.id = attempt.id := same submitted rfl
            refine bind_notify_ends (fun _ _ reached => reached) ?_
            refine .bind _
              ((complete_ends lawful').weaken (fun _ reached => reached.1)
                fun _ _ ended => ended) (fun completed => .pure ?_) ?_
            · rintro world ⟨completes, -⟩
              rw [sameId] at completes
              exact .violated own inTime (touches.trans completes.touches)
                (savesNothing.trans completes.savesNothing) .intended
            · rintro halt world ⟨completes, ends, rfl⟩
              rw [sameId] at completes ends
              refine .violated own inTime (touches.trans completes.touches)
                (savesNothing.trans completes.savesNothing)
                (.fault (fun reliable => ?_) trivial)
              obtain ⟨_, failed⟩ := ends (handed.reached.reliable reliable)
                (lawful.sittings.keys attempt own.listed).plain
              cases failed
      · rintro halt world ⟨rfl, unreliable, fault⟩
        exact .violated own inTime touches savesNothing
          (.fault unreliable fault)
  · exact empty

/-! ## Submitting -/

/-- Reading an attempt fails only where the store does. -/
theorem snapshotOf_faults {attempt : Attempt} {kept : World → Prop} :
    Ends context kept (snapshotOf attempt) fun result world => kept world ∧
    ∀ halt ∈ failure result, (halt.map Refusal.ofAttempt).IsFault := by
  have reads : ∀ {α : Type} {statement : Statement α}, IsRead statement →
      Ends context kept (Action.query statement)
        fun (result : Except (Halt AttemptError) α) world => kept world ∧
      ∀ halt ∈ failure result, (halt.map Refusal.ofAttempt).IsFault :=
    fun reads => .readQuery reads
      (fun _ begun _ _ => ⟨begun, fun _ failed => nomatch failed⟩)
      fun _ begun _ _ => ⟨begun, fun _ failed => Option.some.inj failed ▸ rfl⟩
  refine .bind _ (reads (isRead_variant _))
    (fun variant => ?_) fun _ _ failed => failed
  refine .bind _ ((reads (isRead_answersOf _)).weaken (fun _ reached =>
      reached.1) fun _ _ ended => ended) (fun answers => .pure fun _ reached =>
      ⟨reached.1, fun _ failed => nomatch failed⟩) fun _ _ failed => failed

/-- An attempt that has been submitted is read to be shown. -/
theorem snapshotOf_hasEffect {attempt given : Attempt} {submittedAt : Instant}
    {after : Store} (own : IsOwn store caller.id attemptId attempt)
    (closes : Closes context.now store attempt submittedAt)
    (finishes : Finishes context.now store attempt submittedAt after)
    (kept : Attempt.Kept attempt given) :
    Ends context (fun world => world.store = after) (snapshotOf given)
      fun result world =>
        Effect context.now store caller (.submitAttempt attemptId) []
          ((failure result).map (Halt.map Refusal.ofAttempt)) world.store := by
  intro world reached
  have reads : Ends context
    (fun world => world.store = after) (snapshotOf given) _ := snapshotOf_faults
  obtain ⟨same, faults⟩ := reads world reached
  rw [same]
  refine .submitted own closes finishes ?_
  cases ended : (snapshotOf given context world).1 with
  | ok snapshot => exact .intended
  | error halt =>
      refine .fault (fun reliable => ?_) (faults halt (congrArg failure ended))
      obtain ⟨row, listed, later⟩ :=
        finishes.touches.attempts.exists_later closes.listed
      have still : Attempt.Kept attempt row := by
        rcases later with rfl | ⟨-, advances⟩
        · exact .refl row
        · exact advances.kept
      have shows : Ends context
          (fun world => world.store = after) (snapshotOf given) _ :=
        snapshotOf_ends ((finishes.reaches closes).reliable reliable) listed
          (kept.id.trans still.id.symm)
          (kept.variantId.trans still.variantId.symm)
      obtain ⟨-, snapshot, shown, -⟩ := shows world reached
      cases ended.symm.trans shown

/-- An attempt is submitted in time or as of its deadline. -/
theorem submit_hasEffect (lawful : store.Lawful) :
    HasEffect context store caller (.submitAttempt attemptId) []
      Refusal.ofAttempt (submit caller attemptId >>= snapshotOf) := by
  simp only [submit, bind_assoc]
  refine .bind_query (isRead_attempt? _) fun found looked => .bind_demand ?_
  rintro attempt rfl
  refine .bind_require fun student => .bind_require fun running =>
    Ends.reading ?_
  obtain ⟨-, -, -, same⟩ := attempt?_eq_ok.mp looked
  obtain ⟨listed, rfl⟩ := mem_and_key_of_find? same.symm
  have ids := lawful.sittings.ids
  have own : IsOwn store caller.id attempt.id attempt :=
    ⟨listed, rfl, beq_iff_eq.mp student, of_decide_eq_true running⟩
  refine .bind _ (finalize_ends lawful fun other inside selected => ?_)
    (fun found => ?_) ?_
  · obtain rfl := eq_of_key ids inside listed (hasStatus_eq_true.mp selected).1
    refine ⟨inside, own.running, ?_⟩
    split
    · next passed => exact .inl ⟨rfl, .inl (isExpired_eq_true.mp passed)⟩
    · next left => exact .inr ⟨rfl, lt_of_not_isExpired left⟩
  · intro world finalizes
    generalize ended : Except.ok found = result at finalizes
    cases finalizes with
    | nothing ungiven =>
        cases found with
        | none => exact .nothing
        | some given => exact (ungiven given ended.symm).elim
    | completed same closes finishes kept =>
        cases ended
        obtain rfl := eq_of_key ids closes.listed listed same
        exact snapshotOf_hasEffect own closes finishes kept world rfl
    | broken => cases ended
  · rintro halt world finalizes
    generalize failed : Except.error halt = result at finalizes
    cases finalizes with
    | nothing => exact .nothing
    | completed => cases failed
    | broken same closes finishes unreliable =>
        cases failed
        obtain rfl := eq_of_key ids closes.listed listed same
        exact .submitted own closes finishes (.fault unreliable trivial)

/-! ## Starting -/

/-- An attempt whose time was up is completed, if there is one. -/
theorem completeTimedOut_completes {pending : Option Attempt}
    (lawful : store.Lawful)
    (plain : ∀ submitted, pending = some submitted →
      Column.hasNul submitted.id = false) :
    Ends context (fun world => world.store = store) (completeTimedOut pending)
      fun result world =>
        CompletesPending context.now pending store world.store ∧
        match result with
        | .ok _ => True
        | .error halt => ¬store.IsReliable ∧ halt = .outOfRange := by
  cases pending with
  | none => exact .pure fun _ same => ⟨same, trivial⟩
  | some submitted =>
      refine .bind _ (complete_ends lawful)
        (fun _ => .pure fun world reached => ⟨reached.1, trivial⟩) ?_
      rintro halt world ⟨completes, ends, ended⟩
      refine ⟨completes, fun reliable => ?_, ended⟩
      obtain ⟨_, failed⟩ := ends reliable (plain submitted rfl)
      cases failed

theorem start_hasEffect {assignmentId : String} {accessCode : Option String}
    (lawful : store.Lawful) :
    HasEffect context store caller (.startAttempt assignmentId) []
      Refusal.ofAttempt (start caller assignmentId accessCode) := by
  unfold start
  refine Decides.bind_ends (fun world same => same ▸ admitted_decides world) ?_
    fun halt world _ same => same ▸ .nothing
  rintro assignment ⟨rfl, admits⟩
  refine Ends.reading (HasEffect.bind_change fun step after ended => ?_)
  have plain : ∀ {pending middle},
      Expires context.now store assignment.id caller.id pending middle →
      ∀ submitted, pending = some submitted →
        Column.hasNul submitted.id = false := by
    rintro _ _ expires submitted rfl
    exact ((expires.reached.lawful lawful).sittings.keys _ expires.mem).plain
  cases startTransaction_startsAs lawful admits.listed admits.window
      admits.enrolled ended with
  | resumed =>
      exact HasEffect.of_keeps
        (Keeps.bind snapshotOf_keeps fun _ => Keeps.pure _)
  | exhausted expires spent =>
      have lawful' := expires.reached.lawful lawful
      have completed : Ends context _ (completeTimedOut _) _ :=
        completeTimedOut_completes lawful' (plain expires)
      cases expires with
      | vacant =>
          exact HasEffect.of_keeps
            (Keeps.bind (Keeps.pure _) fun _ => Keeps.refuse _)
      | @expired attempt listed running passed =>
          refine .bind _ completed (fun _ => .refuse ?_) ?_
          · rintro world ⟨finishes, -⟩
            exact .exhausted listed running passed finishes .intended
          · rintro halt world ⟨finishes, unreliable, rfl⟩
            refine .exhausted listed running passed finishes
              (.fault (fun reliable => ?_) rfl)
            exact unreliable (Reaches.reliable (.single (.submitted
              ⟨listed, running.2, .inl ⟨rfl, .inl passed⟩⟩)) reliable)
  | @started pending middle attempt issued row variant expires opens read
      student =>
      have opened : Change context.now middle { middle with
          attempts := middle.attempts ++ [attempt], issued } := .opened opens
      have lawful' := opened.lawful (expires.reached.lawful lawful)
      refine .bind _ (completeTimedOut_completes lawful' (plain expires))
        (fun _ => ?_) ?_
      · refine Ends.reading
          (.bind_publish (fun _ _ reached => reached) (.pure ?_))
        rintro world ⟨completes, -⟩
        exact .started expires student completes .intended
      · rintro halt world ⟨completes, unreliable, rfl⟩
        refine .started expires student completes
          (.fault (fun reliable => ?_) rfl)
        exact unreliable (opened.reliable (expires.reached.reliable reliable))

end ExamHall.Exam
