import ExamHall.Proofs.Attempt.Policy
import ExamHall.Proofs.Session.Batching

/-!
# Reports of violations

A service counts the violations that are reported in time on an attempt in
progress, and does with the attempt what its assignment says.  Nothing else that
it does leaves marks on an attempt.
-/

namespace ExamHall

open Store ExamHall.Action

/-- A request whose endpoint has no business with marks leaves none. -/
theorem Effect.keepsMarks {now : Instant} {store after : Store}
    {caller : Caller} {endpoint : Endpoint} {saves : List AcceptedSave}
    {failed : Option (Halt Refusal)}
    (effect : Effect now store caller endpoint saves failed after)
    (reports : ∀ attemptId, endpoint ≠ .reportViolation attemptId)
    (starts : ∀ assignmentId, endpoint ≠ .startAttempt assignmentId) :
    store.KeepsMarks after := by
  cases effect with
  | nothing => exact .refl _
  | generated | assigned | closed => exact .of_eq rfl
  | saved on own inTime shown writes =>
      exact .of_eq (Exam.savesInto_of_writesEach writes).attempts
  | late on own passed finishes => exact finishes.keepsMarks
  | violated => exact (reports _ rfl).elim
  | submitted own closes finishes => exact finishes.keepsMarks
  | exhausted => exact (starts _ rfl).elim
  | started => exact (starts _ rfl).elim
  | graded author manages into => exact into.keepsMarks
  | reviewed author manages listed same into => exact into.keepsMarks

/-- A halt that explains itself, if it says anything. -/
def Halt.IsExplained (halt : Halt Refusal) : Prop :=
  ∀ refusal, halt = .refused refusal → ∃ error, refusal = .explained error

/-- Who is not known is told why. -/
theorem Handle.caller_of_unknown {context : Context} {request : HttpRequest}
    (world : World)
    (unknown : ∀ caller,
      Access.caller? context.settings context.now request ≠ some (.ok caller)) :
    ∃ halt, Handle.caller request context world = (.error halt, world) ∧
      halt.IsExplained := by
  change ∃ halt,
    (inRange (Access.caller? context.settings context.now request) >>= _)
      context world = _ ∧ _
  rcases found : Access.caller? context.settings context.now request
    with _ | error | caller
  · exact ⟨.outOfRange, rfl, fun _ same => nomatch same⟩
  · refine ⟨.refused (.explained error), rfl, ?_⟩
    rintro _ ⟨rfl⟩
    exact ⟨error, rfl⟩
  · exact (unknown caller found).elim

namespace Session

variable {failing : Bool} {session : Session} {request : HttpRequest}
  {credential : Credential} {caller : Caller} {attemptId : String}

/-- The attempt on which a step gets a violation counted, if it does. -/
def counted (session : Session) : Step → List String
  | .call request credential =>
    let sent := session.signed request credential
    match Server.called? session.settings sent with
    | some (.reportViolation attemptId) =>
      match Access.caller? session.settings session.now sent with
      | some (.ok caller) =>
        match Exam.violationTransaction caller attemptId session.now
            session.store with
        | .ok (.inTime _, _) => [attemptId]
        | _ => []
      | _ => []
    | _ => []
  | _ => []

/-- A student whom the service knows reports a violation. -/
structure ReportsOn (session : Session) (caller : Caller) (attemptId : String)
    (request : HttpRequest) (credential : Credential) : Prop where
  called : Server.called? session.settings (session.signed request credential) =
    some (.reportViolation attemptId)
  known : Access.caller? session.settings session.now
    (session.signed request credential) = some (.ok caller)

/-- Nothing is counted, or a violation that a known student reports. -/
theorem counted_cases (session : Session) (step : Step) :
    session.counted step = [] ∨
    ∃ request credential caller attemptId violation after,
      step = .call request credential ∧
      session.ReportsOn caller attemptId request credential ∧
      session.counted step = [attemptId] ∧
      Exam.violationTransaction caller attemptId session.now session.store =
        .ok (.inTime violation, after) := by
  cases step with
  | call request credential =>
      unfold counted
      dsimp only
      split
      · next attemptId called =>
          split
          · next caller known =>
              split
              · next violation after counted =>
                  exact .inr ⟨request, credential, caller, attemptId, violation,
                    after, rfl, ⟨called, known⟩, rfl, counted⟩
              · exact .inl rfl
          · exact .inl rfl
      · exact .inl rfl
  | _ => exact .inl rfl

theorem ReportsOn.counted
    (reports : session.ReportsOn caller attemptId request credential) :
    session.counted (.call request credential) =
      match Exam.violationTransaction caller attemptId session.now session.store
    with
      | .ok (.inTime _, _) => [attemptId]
      | _ => [] := by
  unfold Session.counted
  dsimp only
  rw [reports.called]
  dsimp only
  rw [reports.known]

/-- A report is answered as the operation ends. -/
theorem ReportsOn.run
    (reports : session.ReportsOn caller attemptId request credential) :
    let ended :=
      Exam.reportViolation caller attemptId session.context ⟨session.store, []⟩
    (session.run (.call request credential)).1.result = resultOf (Server.told
        (Server.sent session.settings (session.signed request credential))
        ((ended.1.map fun outcome => outcome.view session.now).mapError
          (Halt.map Refusal.ofAttempt))) ∧
      (session.run (.call request credential)).2.store = ended.2.store := by
  apply run_of_shown reports.called
  exact Action.bind_apply_of_ok (Handle.caller_eq_ok reports.known)

/-- A report that is counted does with the attempt what its assignment says. -/
theorem ReportsOn.reportsInto {violation : Exam.Violation} {after : Store}
    (reports : session.ReportsOn caller attemptId request credential)
    (lawful : session.store.Lawful)
    (counted : Exam.violationTransaction caller attemptId session.now
      session.store = .ok (.inTime violation, after)) :
    ∃ attempt assignment, IsOwn session.store caller.id attemptId attempt ∧
      session.now < attempt.deadlineAt ∧
      assignment ∈ session.store.assignments ∧
      assignment.id = attempt.assignmentId ∧
      Reaches session.now session.store
        (session.store.reporting attempt.id assignment session.now) ∧
      Exam.ReportsInto session.now session.store attempt assignment
        (Exam.reportViolation caller attemptId session.context
          ⟨session.store, []⟩).1
        (session.run (.call request credential)).2.store := by
  have reached := (Exam.violationTransaction_handsOver lawful counted).1.reached
  obtain ⟨attempt, assignment, own, inTime, known, same, shows, rfl⟩ :=
    Exam.violationTransaction_inverts lawful.sittings.ids counted
  have ends := @Exam.reportViolation_ends session.store attempt assignment
    session.context caller attemptId violation lawful own.listed own.running
    counted shows ⟨session.store, []⟩ rfl
  rw [reports.run.2]
  exact ⟨attempt, assignment, own, inTime, known, same, reached, ends⟩

/-- A report that is not counted leaves no marks. -/
theorem ReportsOn.keepsMarks
    (reports : session.ReportsOn caller attemptId request credential)
    (lawful : session.store.Lawful)
    (none : session.counted (.call request credential) = []) :
    (∃ halt, (Exam.reportViolation caller attemptId session.context
      ⟨session.store, []⟩).1 = .error halt) ∧
    session.store.KeepsMarks
      (session.run (.call request credential)).2.store := by
  have uncounted : ∀ violation after,
      Exam.violationTransaction caller attemptId session.now session.store ≠
        .ok (.inTime violation, after) := by
    intro violation after counted
    rw [reports.counted, counted] at none
    cases none
  have ends := @Exam.reportViolation_of_uncounted session.store session.context
    caller attemptId lawful uncounted ⟨session.store, []⟩ rfl
  rw [reports.run.2]
  exact ends

/-- A call that gets nothing counted leaves no marks. -/
theorem call_keepsMarks (lawful : session.store.Lawful)
    (none : session.counted (.call request credential) = []) :
    session.store.KeepsMarks
      (session.run (.call request credential)).2.store := by
  rcases run_call lawful request credential with
    ⟨same, -⟩ | ⟨endpoint, caller, failed, ended, called, known, -, -, effect⟩
  · rw [same]
    exact .refl _
  by_cases reports : ∃ attemptId, endpoint = .reportViolation attemptId
  · obtain ⟨attemptId, rfl⟩ := reports
    exact (ReportsOn.keepsMarks ⟨called, known⟩ lawful none).2
  by_cases starts : ∃ assignmentId, endpoint = .startAttempt assignmentId
  · obtain ⟨assignmentId, rfl⟩ := starts
    have performs :=
      @Handle.startAttempt_performs (session.signed request credential) caller
        assignmentId session.context known
    rw [(run_of_called called).2, (performs.ends ⟨session.store, []⟩).1]
    exact (@Exam.start_keepsMarks session.context session.store caller
        assignmentId _ ⟨session.store, []⟩ ⟨lawful, .refl _⟩).kept
  · exact effect.keepsMarks (fun attemptId same => reports ⟨attemptId, same⟩)
      fun assignmentId same => starts ⟨assignmentId, same⟩

/-- A step gets at most one violation counted, on an attempt in progress, and
does with that what its assignment says. Any other step leaves no marks. -/
theorem run_marks {step : Step} (sound : session.IsSound)
    (service : step.IsService failing session.now) :
    session.counted step = [] ∧
    session.store.KeepsMarks (session.run step).2.store ∨
    ∃ attempt assignment result, session.counted step = [attempt.id] ∧
      attempt ∈ session.store.attempts ∧ attempt.status = .inProgress ∧
      assignment ∈ session.store.assignments ∧
      assignment.id = attempt.assignmentId ∧
      Exam.ReportsInto session.now session.store attempt assignment result
        (session.run step).2.store := by
  have lawful := sound.lawful
  have begun : World.KeepsMarks session.store ⟨session.store, []⟩ :=
    ⟨lawful, .refl _⟩
  cases step with
  | sweep =>
      exact .inl ⟨rfl, (@Exam.sweep_keepsMarks session.context _ _ begun).kept⟩
  | recover => exact .inl ⟨rfl,
    (@Exam.recoverStalled_keepsMarks session.context _ _ begun).kept⟩
  | setClock now => exact .inl ⟨rfl, .refl _⟩
  | connectBroker connected => exact .inl ⟨rfl, .refl _⟩
  | loseTables tables => exact .inl ⟨rfl, .of_eq rfl⟩
  | look table => exact .inl ⟨rfl, .refl _⟩
  | insert table row => exact service.elim
  | change table id row => exact service.elim
  | remove table id => exact service.elim
  | call request credential =>
      rcases session.counted_cases (.call request credential) with
        none | ⟨_, _, caller, attemptId, violation, after, same, reports,
          one, counted⟩
      · exact .inl ⟨none, call_keepsMarks lawful none⟩
      · cases same
        obtain ⟨attempt, assignment, own, -, known, sameId, -, into⟩ :=
          reports.reportsInto lawful counted
        obtain rfl := own.id
        exact .inr ⟨attempt, assignment, _, one, own.listed, own.running, known,
          sameId, into⟩

/-! ## What a report comes to -/

/-- What a counted report makes of an attempt.  The report that reaches the
threshold submits the attempt as of now, as the column tells the time, and has
it graded, if that is what the assignment says.  Without a threshold, or with a
mere warning, the violation is counted and nothing else. -/
structure Escalates (session : Session) (assignment : Assignment)
    (attempt later : Attempt) (next : Session) : Prop where
  listed : later ∈ next.store.attempts
  id : later.id = attempt.id
  closes : later.status ≠ .inProgress ↔ 0 < assignment.tabSwitchThreshold ∧
    assignment.tabSwitchAction = .autoSubmit ∧
    attempt.violationCount + 1 = assignment.tabSwitchThreshold
  submittedAt : later.status ≠ .inProgress →
    later.submittedAt = some (Column.time session.now)
  graded : later.status ≠ .inProgress → session.store.outages = [] →
    later.status.isScored = true
  spared : assignment.tabSwitchThreshold ≤ 0 ∨
      assignment.tabSwitchAction = .warn →
    next.store = { session.store with
      attempts := updateWhere (hasStatus attempt.id .inProgress)
        (violated session.now) session.store.attempts }
  others : ∀ other ∈ session.store.attempts, other.id ≠ attempt.id →
    other ∈ next.store.attempts

theorem escalates_of_reportsInto {attempt : Attempt} {assignment : Assignment}
    {violations : Nat} {next : Session}
    {result : Except (Halt AttemptError) ViolationOutcome}
    (into : Exam.ReportsInto session.now session.store attempt assignment result
      next.store) (listed : attempt ∈ session.store.attempts)
    (running : attempt.status = .inProgress)
    (follows : attempt.FollowsPolicy assignment violations)
    (lawful : next.store.Lawful)
    (reliable : session.store.outages = [] →
      (session.store.reporting attempt.id assignment session.now).IsReliable) :
    ∃ later, session.Escalates assignment attempt later next := by
  have here :=
    @mem_reporting session.now session.store attempt assignment listed running
  obtain ⟨later, present, kept⟩ := into.keepsMarks.exists_later here
  have id : later.id = attempt.id :=
    kept.kept.id.trans (Attempt.Kept.reported _ _ _).id
  have reaches : attempt.nextEscalation assignment = .autoSubmit ↔
      0 < assignment.tabSwitchThreshold ∧
      assignment.tabSwitchAction = .autoSubmit ∧
      attempt.violationCount + 1 = assignment.tabSwitchThreshold := by
    rw [Attempt.nextEscalation_eq_autoSubmit]
    refine and_congr_right fun positive => and_congr_right fun action => ?_
    obtain ⟨most, left⟩ := follows.within positive action
    have missing : (violations : Int) ≠ assignment.tabSwitchThreshold :=
      fun same => left same running
    rw [follows.violationCount]
    omega
  have left : later.status ≠ .inProgress ↔
      attempt.nextEscalation assignment = .autoSubmit := by
    by_cases closing : attempt.nextEscalation assignment = .autoSubmit
    · refine iff_of_true (kept.left ?_) closing
      rw [(Attempt.reported_of_autoSubmit closing).1]
      nofun
    · rw [into.goesOn closing] at present lawful
      obtain rfl := eq_of_key lawful.sittings.ids present here kept.kept.id
      exact iff_of_false
        (not_not.mpr ((Attempt.status_reported closing).trans running)) closing
  refine ⟨later, present, id, left.trans reaches, fun closed => ?_,
    fun closed reach => ?_, fun spared => ?_,
    fun other inside different => into.mem_of_ne inside different⟩
  · obtain ⟨submitted, time⟩ := @Attempt.reported_of_autoSubmit session.now
      attempt assignment (left.mp closed)
    exact (kept.submittedAt (by rw [submitted]; nofun)).trans time
  · obtain ⟨graded, there, same, scored⟩ :=
      into.exists_scored listed running (left.mp closed) (reliable reach)
    obtain rfl :=
      eq_of_key lawful.sittings.ids there present (same.trans id.symm)
    exact scored
  · have goesOn : attempt.nextEscalation assignment ≠ .autoSubmit := by
      rw [Ne, Attempt.nextEscalation_eq_autoSubmit]
      rintro ⟨positive, action, -⟩
      rcases spared with without | warn
      · exact Int.not_le.mpr positive without
      · cases action.symm.trans warn
    rw [into.goesOn goesOn, Store.reporting, Attempt.reported_of_spared spared]

/-- A report of a violation is counted or not.  One that is not counted is not
answered with success, and leaves no marks.  One that is counted makes of the
attempt what the assignment says, and if it is answered with success, which only
tables out of reach can prevent, then it says whether it has closed the
attempt. -/
inductive IsReported (session : Session) (attemptId : String)
    (request : HttpRequest) (credential : Credential) : Prop where
  | uncounted (none : session.counted (.call request credential) = [])
      (unsuccessful :
        ¬(session.run (.call request credential)).1.result.IsSuccess)
      (keeps : session.store.KeepsMarks
        (session.run (.call request credential)).2.store)
  | counted {assignment : Assignment} {attempt later : Attempt}
      (one : session.counted (.call request credential) = [attemptId])
      (listed : attempt ∈ session.store.attempts) (id : attempt.id = attemptId)
      (running : attempt.status = .inProgress)
      (inTime : session.now < attempt.deadlineAt)
      (given : assignment ∈ session.store.assignments)
      (same : assignment.id = attempt.assignmentId)
      (escalates : session.Escalates assignment attempt later
        (session.run (.call request credential)).2)
      (succeeds : session.store.outages = [] →
        (session.run (.call request credential)).1.result.IsSuccess)
      (answered : (session.run (.call request credential)).1.result.IsSuccess →
        ∃ members, (session.run (.call request credential)).1.result =
            Server.shows session.settings (session.signed request credential)
              (.record members) ∧
          Json.firstMember? members "auto_submitted" =
            some (.bool (decide (later.status ≠ .inProgress)))) :
      IsReported session attemptId request credential

/-- An endpoint that halts is not answered with success. -/
theorem not_isSuccess_of_halt (settings : Settings) (request : HttpRequest)
    {halt : Halt Refusal} (explained : halt.IsExplained) :
    ¬(resultOf (Server.told (Server.sent settings request)
      (.error halt))).IsSuccess := by
  cases halt with
  | refused refusal =>
      obtain ⟨error, rfl⟩ := explained refusal rfl
      exact not_isSuccess_explained settings request error
  | outOfRange =>
      rintro ⟨_, same, -⟩
      cases same

theorem isExplained_ofAttempt (halt : Halt AttemptError) :
    (halt.map Refusal.ofAttempt).IsExplained := by
  rintro refusal same
  cases halt with
  | refused error =>
      cases same
      exact ⟨_, rfl⟩
  | outOfRange => cases same

/-- A report that is not counted is not answered with success. -/
theorem not_isSuccess_of_uncounted (lawful : session.store.Lawful)
    (called : Server.called? session.settings
      (session.signed request credential) = some (.reportViolation attemptId))
    (none : session.counted (.call request credential) = []) :
    ¬(session.run (.call request credential)).1.result.IsSuccess := by
  by_cases known : ∃ caller, Access.caller? session.settings session.now
      (session.signed request credential) = some (.ok caller)
  · obtain ⟨caller, known⟩ := known
    have reports : session.ReportsOn caller attemptId request credential :=
      ⟨called, known⟩
    obtain ⟨halt, failed⟩ := (reports.keepsMarks lawful none).1
    have result := reports.run.1
    rw [failed] at result
    rw [result]
    exact not_isSuccess_of_halt _ _ (isExplained_ofAttempt halt)
  · obtain ⟨halt, failed, explained⟩ := @Handle.caller_of_unknown
      session.context (session.signed request credential)
      ⟨session.store, []⟩ fun caller same => known ⟨caller, same⟩
    have ended : Handle.endpoint (session.signed request credential)
        (.reportViolation attemptId) session.context ⟨session.store, []⟩ =
        (.error halt, ⟨session.store, []⟩) :=
      Action.bind_apply_of_error failed
    have result := (run_of_called called).1
    rw [ended] at result
    rw [result]
    exact not_isSuccess_of_halt _ _ explained

end Session

end ExamHall
