import ExamHall.Proofs.Exam.Announcing
import ExamHall.Proofs.Session.Batching
import ExamHall.Proofs.Session.Violations

/-!
# What a service tells

Where nothing stands in the way, the events that a service publishes recount
what becomes of each attempt.  A request that has nothing to do with its
progress tells nothing.
-/

namespace ExamHall

open Store ExamHall.Action

/-! ## Endpoints that tell nothing -/

/-- Whether what is done at an endpoint may be told. -/
def Endpoint.isTold : Endpoint → Bool
  | .startAttempt _ | .saveAnswers _ | .saveAnswer _ _ | .reportViolation _
    | .submitAttempt _ => true
  | _ => false

theorem Endpoint.isTold_of_worksOn? {endpoint : Endpoint} {attemptId : String}
    (works : endpoint.worksOn? = some attemptId) : endpoint.isTold = true := by
  cases endpoint <;> first | rfl | cases works

/-- A transaction tells nothing. -/
theorem Action.Keeps.commit_quietly {ε α : Type} {context : Context}
    {told : List ProgressEvent} {transaction : Transaction ε α} :
    Keeps context
      (fun world => world.published = told) (Action.commit transaction) :=
  Ends.commit (fun _ same _ _ _ => same) fun _ same _ _ => same

namespace Exam

variable {context : Context} {told : List ProgressEvent} {author : Caller}

theorem selectFromScope_quietly {subjectId topicId : Option String}
    {count : Nat} {percentages : PerDifficulty Nat}
    {generator : Random.Generator} :
    Keeps context (fun world => world.published = told) (selectFromScope author
      subjectId topicId count percentages generator) := by
  unfold selectFromScope
  refine .reading (.bind (.require _ _) fun _ => ?_)
  split
  · exact Keeps.refuse _
  · refine .bind (.inRange _) fun counts =>
      .bind .commit_quietly fun found => ?_
    split
    · exact Keeps.pure _
    · exact Keeps.refuse _

theorem selectListed_quietly {given : List String} :
    Keeps context (fun world => world.published = told)
      (selectListed author given) := by
  unfold selectListed
  refine .reading (.bind (.require _ _) fun _ => .bind (.require _ _) fun _ =>
      .bind .commit_quietly fun found => ?_)
  split
  · exact Keeps.refuse _
  · exact .bind (.inRange _) fun _ => .pure _

theorem generate_quietly {wanted : GenerationRequest} :
    Keeps context (fun world => world.published = told)
      (generate author wanted) := by
  have selects : ∀ generator, Keeps context (fun world =>
        world.published = told) (selectFor author wanted.source generator) := by
    intro generator
    unfold selectFor
    split
    · exact selectFromScope_quietly
    · exact .bind selectListed_quietly fun _ => .pure _
  unfold generate
  refine .bind (.require _ _) fun _ =>
    .reading (.bind (selects _) fun selected => ?_)
  dsimp only
  split
  · exact Keeps.pure _
  · exact Keeps.commit_quietly

theorem assign_quietly {form : AssignmentForm} :
    Keeps context (fun world => world.published = told)
      (assign author form) := by
  unfold assign
  exact .bind (.inRange _) fun _ => .bind (.inRange _) fun _ =>
    .bind (.require _ _) fun _ => .bind .commit_quietly fun _ =>
    .bind (.demand _ _) fun _ => .bind (.require _ _) fun _ => .reading
      (.bind (.require _ _) fun _ => .bind .commit_quietly fun _ => .pure _)

theorem close_quietly {assignmentId : String} :
    Keeps context (fun world => world.published = told)
      (close author assignmentId) := by
  unfold close
  exact .bind managed_keeps fun _ => .reading (.bind .commit_quietly fun _ =>
    .bind (.demand _ _) fun _ => withRoster_keeps)

theorem review_quietly {answerId : String} {score : Review} :
    Keeps context (fun world => world.published = told)
      (review author answerId score) := by
  unfold review
  exact .bind .commit_quietly fun _ => .bind (.demand _ _) fun _ =>
    .reading .commit_quietly

end Exam

namespace Handle

variable {context : Context} {store after : Store} {request : HttpRequest}
  {endpoint : Endpoint} {caller : Caller}

/-- At other endpoints nothing is told where no attempt waits for its scores. -/
theorem endpoint_quietly (lawful : store.Lawful)
    (settled : store.AwaitsOnly none) (quiet : endpoint.isTold = false) :
    (Handle.endpoint request endpoint context ⟨store, []⟩).2.published =
      [] := by
  have keeps :
      KeepsOperation context (fun world => world.published = []) endpoint →
      (Handle.endpoint request endpoint context ⟨store, []⟩).2.published = [] :=
    fun keeps => endpoint_keeps keeps ⟨store, []⟩ rfl
  cases endpoint with
  | generateTest => exact keeps fun _ _ => Exam.generate_quietly
  | assign => exact keeps fun _ _ => Exam.assign_quietly
  | closeAssignment => exact keeps fun _ => Exam.close_quietly
  | reviewAnswer => exact keeps fun _ _ => Exam.review_quietly
  | gradeAttempt attemptId =>
      have grades :
          KeepsOperation context (· = ⟨store, []⟩) (.gradeAttempt attemptId) :=
        fun _ => Exam.grade_keeps lawful settled
      exact congrArg World.published (endpoint_keeps grades ⟨store, []⟩ rfl)
  | startAttempt | saveAnswers | saveAnswer | reportViolation | submitAttempt =>
      cases quiet
  | _ => exact keeps trivial

/-- Where a student's endpoint does not learn who calls, it does nothing. -/
theorem endpoint_of_unknown (world : World) (told : endpoint.isTold = true)
    (unknown : ∀ caller,
      Access.caller? context.settings context.now request ≠ some (.ok caller)) :
    (Handle.endpoint request endpoint context world).2 = world := by
  obtain ⟨halt, failed, -⟩ := caller_of_unknown world unknown
  cases endpoint with
  | startAttempt | saveAnswers | saveAnswer | reportViolation | submitAttempt =>
      exact congrArg Prod.snd (bind_apply_of_error failed)
  | _ => cases told

/-- What cannot be taken is refused before anything is done. -/
theorem bounded_of_untaken {α : Type} {form : Json.Form α}
    {faults : α → List RangeFault}
    (untaken : taken? request form faults = none) (world : World) :
    ∃ halt,
      bounded request form faults context world = (.error halt, world) := by
  have bounds : Ends context (· = world) (bounded request form faults) _ :=
    bounded_ends
  obtain ⟨same, found⟩ := bounds world rfl
  generalize bounded request form faults context world = ended at same found
  rcases ended with ⟨halt | value, left⟩
  · exact ⟨halt, congrArg _ same⟩
  · cases untaken.symm.trans found

end Handle

/-- What is done at other endpoints leaves each attempt as far as it was, where
none waits for its scores. -/
theorem Effect.phase {now : Instant} {store after : Store} {caller : Caller}
    {endpoint : Endpoint} {saves : List AcceptedSave}
    {failed : Option (Halt Refusal)} (lawful : store.Lawful)
    (settled : store.AwaitsOnly none) (quiet : endpoint.isTold = false)
    (effect : Effect now store caller endpoint saves failed after) :
    after.phase = store.phase ∧ saves = [] := by
  cases effect with
  | nothing => exact ⟨rfl, rfl⟩
  | generated | assigned | closed => exact ⟨phase_congr rfl, rfl⟩
  | saved on =>
      cases quiet.symm.trans
        (Endpoint.isTold_of_worksOn? (Endpoint.worksOn?_of_savesOn? on))
  | late on => cases quiet.symm.trans (Endpoint.isTold_of_worksOn? on)
  | violated | submitted | exhausted | started => cases quiet
  | graded author manages into =>
      obtain ⟨_, _, _, _, _, _, _, grades, -⟩ := into
      obtain ⟨_, none, -⟩ := settled _ grades.listed grades.submitted
      cases none
  | @reviewed row attempt after author manages listed same into =>
      have ids := lawful.sittings.ids
      have touches := (into.touches lawful).1
      obtain ⟨_, _, _, _, _, _, _, _, reviews, -⟩ := into
      obtain ⟨later, present, id, scored⟩ :=
        touches.scored ⟨_, reviews.listed, rfl, reviews.scored⟩
      have before := phase_of_mem ids reviews.listed
      refine ⟨?_, rfl⟩
      rw [phase_of_touches (id.symm ▸ touches) ids present, id,
        Attempt.Phase.ofStatus_of_isScored scored]
      rw [Attempt.Phase.ofStatus_of_isScored reviews.scored] at before
      exact Function.update_eq_self_iff.mpr before.symm

/-! ## Requests that are recounted -/

theorem Action.IsRecounted.congr {ε δ α β : Type} {context : Context}
    {store : Store} {saved reported : List String} {action : Action ε α}
    {other : Action δ β}
    (same : (action context ⟨store, []⟩).2 = (other context ⟨store, []⟩).2)
    (recounted : other.IsRecounted context store saved reported) :
    action.IsRecounted context store saved reported :=
  .of_eq same recounted

/-- A request that calls no endpoint does nothing. -/
theorem Server.respond_of_uncalled {context : Context} {request : HttpRequest}
    (uncalled : called? context.settings request = none) (world : World) :
    (respond request context world).2 = world := by
  unfold called? routedTo? at uncalled
  rw [respond, read_bind_apply]
  split
  · rfl
  · next unmetered =>
      rw [if_neg unmetered] at uncalled
      split
      · rfl
      · next asked =>
          rw [if_neg asked] at uncalled
          have routed : (routed request context world).2 = world := by
            rw [Server.routed, read_bind_apply]
            cases found :
                Endpoint.route? context.settings.apiPath request.path with
            | none => rfl
            | some route =>
                rw [found] at uncalled
                dsimp only at uncalled ⊢
                split
                · next allowed =>
                    rw [if_pos allowed] at uncalled
                    rw [uncalled]
                    rfl
                · rfl
          rw [bind_apply]
          rcases ended : Server.routed request context world
            with ⟨_ | _, left⟩ <;> rw [ended] at routed <;>
            exact routed

/-- A request to save answers is recounted. -/
theorem Handle.saving_isRecounted {context : Context} {store : Store}
    {request : HttpRequest} {endpoint : Endpoint}
    {caller : Caller} {attemptId : String}
    (tells : context.tells = true) (reliable : store.IsReliable)
    (known : Access.caller? context.settings context.now request =
      some (.ok caller)) (saves : endpoint.savesOn? = some attemptId) :
    IsRecounted context store
      (savedOn (acceptedSaves context store request endpoint)) []
      (Handle.endpoint request endpoint) := by
  rw [acceptedSaves_of_known known]
  cases endpoint with
  | saveAnswer id questionId =>
      dsimp only [entries?]
      cases taken :
          taken? request (AnswerInput.form questionId) AnswerInput.faults with
      | none =>
          obtain ⟨halt, failed⟩ :=
            @bounded_of_untaken context request _ _ _ taken ⟨store, []⟩
          have refused : (Handle.endpoint request (.saveAnswer id questionId)
                context ⟨store, []⟩) = _ :=
            (bind_apply_of_ok (caller_eq_ok known)).trans
              (bind_apply_of_error failed)
          exact .of_eq (congrArg Prod.snd refused) (.refl store)
      | some input =>
          exact .congr ((saveAnswer_performs context known taken).ends _).1
            (Exam.save_isRecounted tells reliable)
  | saveAnswers id =>
      dsimp only [entries?]
      cases taken :
          taken? request AnswerInput.batchForm AnswerInput.batchFaults with
      | none =>
          obtain ⟨halt, failed⟩ :=
            @bounded_of_untaken context request _ _ _ taken ⟨store, []⟩
          have refused :
              (Handle.endpoint request (.saveAnswers id) context ⟨store, []⟩) =
                _ :=
            (bind_apply_of_ok (caller_eq_ok known)).trans
              (bind_apply_of_error failed)
          exact .of_eq (congrArg Prod.snd refused) (.refl store)
      | some inputs =>
          exact .congr ((saveAnswers_performs context known taken).ends _).1
            (Exam.saveBatch_isRecounted tells reliable)
  | _ => cases saves

namespace Session

variable {session : Session} {request : HttpRequest} {credential : Credential}
  {endpoint : Endpoint} {caller : Caller} {attemptId : String}

/-- The events that a step publishes. -/
def events (session : Session) (step : Step) : List ProgressEvent :=
  (session.run step).1.events

/-- The attempts on which a step gets answers saved: one for each request that
has a save accepted. -/
def saving (session : Session) (step : Step) : List String :=
  savedOn (session.accepted step)

/-- A step is recounted by its events. -/
def Recounted (session : Session) (step : Step) : Prop :=
  Recounts session.now session.store (session.saving step)
    (session.counted step) (session.events step) (session.run step).2.store

/-- A call is recounted if what it leaves is. -/
theorem recounted_of_left {left : World} {saved reported : List String}
    (responds : (Server.respond (session.signed request credential)
      session.context ⟨session.store, []⟩).2 = left)
    (saves : session.saving (.call request credential) = saved)
    (counts : session.counted (.call request credential) = reported)
    (recounts : Recounts session.now session.store saved reported left.published
      left.store) : session.Recounted (.call request credential) := by
  subst responds saves counts
  exact recounts

theorem recounted_of_called {saved reported : List String}
    (called : Server.called? session.settings
      (session.signed request credential) = some endpoint)
    (saves : session.saving (.call request credential) = saved)
    (counts : session.counted (.call request credential) = reported)
    (recounted :
      (Handle.endpoint (session.signed request credential) endpoint).IsRecounted
        session.context session.store saved reported) :
    session.Recounted (.call request credential) := by
  have responds := @Server.respond_of_called session.context _ endpoint called
    ⟨session.store, []⟩
  exact recounted_of_left (congrArg Prod.snd responds) saves counts recounted

theorem recounted_of_uncalled
    (uncalled : Server.called? session.settings
      (session.signed request credential) = none) :
    session.Recounted (.call request credential) := by
  have none : session.saving (.call request credential) = [] ∧
      session.counted (.call request credential) = [] := by
    unfold saving accepted counted
    dsimp only
    rw [uncalled]
    exact ⟨rfl, rfl⟩
  have responds :=
    @Server.respond_of_uncalled session.context _ uncalled ⟨session.store, []⟩
  exact recounted_of_left responds none.1 none.2 (.refl session.store)

theorem saving_of_called
    (called : Server.called? session.settings
      (session.signed request credential) = some endpoint) :
    session.saving (.call request credential) =
      savedOn (Handle.acceptedSaves session.context session.store
        (session.signed request credential) endpoint) := by
  unfold saving accepted
  dsimp only
  rw [called]

theorem counted_of_called
    (called : Server.called? session.settings
      (session.signed request credential) = some endpoint)
    (other : ∀ attemptId, endpoint ≠ .reportViolation attemptId) :
    session.counted (.call request credential) = [] := by
  unfold counted
  dsimp only
  rw [called]
  cases endpoint with
  | reportViolation attemptId => exact (other attemptId rfl).elim
  | _ => rfl

/-- A call of an endpoint at which nothing is told leaves each attempt as far as
it was. -/
theorem recounted_of_quiet
    (called : Server.called? session.settings
      (session.signed request credential) = some endpoint)
    (lawful : session.store.Lawful) (settled : session.store.AwaitsOnly none)
    (quiet : endpoint.isTold = false) :
    session.Recounted (.call request credential) := by
  have effect := @Handle.endpoint_ends session.context session.store
    (session.signed request credential) lawful endpoint ⟨session.store, []⟩ rfl
  have reached := @Handle.endpoint_settles session.context session.store
    (session.signed request credential)
    endpoint lawful ⟨session.store, []⟩ ⟨.refl, fun _ none => none⟩
  have silent := @Handle.endpoint_quietly session.context session.store
    (session.signed request credential) endpoint lawful settled quiet
  have saves := saving_of_called called
  generalize Handle.acceptedSaves session.context session.store
    (session.signed request credential) endpoint = accepted at effect saves
  have stays : (Handle.endpoint (session.signed request credential) endpoint
        session.context ⟨session.store, []⟩).2.store.phase =
      session.store.phase ∧ accepted = [] := by
    generalize (Handle.endpoint (session.signed request credential) endpoint
        session.context ⟨session.store, []⟩).2.store = after at effect
    cases effect with
    | nothing => exact ⟨rfl, rfl⟩
    | made known effect => exact effect.phase lawful settled quiet
  obtain ⟨same, rfl⟩ := stays
  refine recounted_of_called called saves (counted_of_called called ?_) ?_
  · rintro attemptId rfl
    cases quiet
  · unfold IsRecounted
    rw [silent]
    exact .quiet reached.reached same

theorem recounted_of_performs {α : Type} {operation : Action AttemptError α}
    {saved reported : List String}
    (called : Server.called? session.settings
      (session.signed request credential) = some endpoint)
    (performs : Handle.Performs session.context
      (session.signed request credential) endpoint operation)
    (saves : session.saving (.call request credential) = saved)
    (counts : session.counted (.call request credential) = reported)
    (recounted : operation.IsRecounted session.context session.store saved
      reported) : session.Recounted (.call request credential) :=
  recounted_of_called called saves counts (.congr (performs.ends _).1 recounted)

/-- Who is not known gets nothing done, and nothing is told. -/
theorem recounted_of_unknown (told : endpoint.isTold = true)
    (called : Server.called? session.settings
      (session.signed request credential) = some endpoint)
    (unknown : ∀ caller, Access.caller? session.settings session.now
      (session.signed request credential) ≠ some (.ok caller)) :
    session.Recounted (.call request credential) := by
  have saves := saving_of_called called
  have none : Handle.acceptedSaves session.context session.store
      (session.signed request credential) endpoint = [] := by
    unfold Handle.acceptedSaves
    split
    · next caller _ _ found _ => exact (unknown caller found).elim
    · rfl
  rw [none] at saves
  have counts : session.counted (.call request credential) = [] := by
    rcases session.counted_cases (.call request credential) with
      none | ⟨_, _, caller, _, _, _, same, reports, -⟩
    · exact none
    · cases same
      exact (unknown caller reports.known).elim
  exact recounted_of_called called saves counts
    (.of_eq (Handle.endpoint_of_unknown _ told unknown) (.refl _))

/-- Where nothing stands in the way, what a known student gets done is
recounted. -/
theorem recounted_of_known (tells : session.context.tells = true)
    (reliable : session.store.IsReliable) (told : endpoint.isTold = true)
    (called : Server.called? session.settings
      (session.signed request credential) = some endpoint)
    (known : Access.caller? session.settings session.now
      (session.signed request credential) = some (.ok caller)) :
    session.Recounted (.call request credential) := by
  have saves := saving_of_called called
  have counts := counted_of_called called
  cases endpoint with
  | startAttempt =>
      rw [Handle.acceptedSaves_of_none rfl] at saves
      exact recounted_of_performs called (Handle.startAttempt_performs _ known)
        saves (counts nofun) (Exam.start_isRecounted tells reliable)
  | submitAttempt =>
      rw [Handle.acceptedSaves_of_none rfl] at saves
      exact recounted_of_performs called (Handle.submitAttempt_performs _ known)
        saves (counts nofun) (Exam.submit_isRecounted tells reliable)
  | reportViolation attemptId =>
      rw [Handle.acceptedSaves_of_none rfl] at saves
      have reports : session.ReportsOn caller attemptId request credential :=
        ⟨called, known⟩
      exact recounted_of_performs called
        (Handle.reportViolation_performs _ known) saves reports.counted
        (Exam.reportViolation_isRecounted tells reliable)
  | saveAnswer | saveAnswers =>
      exact recounted_of_called called saves (counts nofun)
        (Handle.saving_isRecounted tells reliable known rfl)
  | _ => cases told

theorem recounted_call (tells : session.context.tells = true)
    (current : session.IsCurrent) (request : HttpRequest)
    (credential : Credential) :
    session.Recounted (.call request credential) := by
  cases called :
      Server.called? session.settings (session.signed request credential) with
  | none => exact recounted_of_uncalled called
  | some endpoint =>
      cases told : endpoint.isTold with
      | false =>
          exact recounted_of_quiet called current.reliable.lawful
            current.none told
      | true =>
          by_cases known : ∃ caller, Access.caller? session.settings session.now
            (session.signed request credential) = some (.ok caller)
          · obtain ⟨caller, known⟩ := known
            exact recounted_of_known tells current.reliable told called known
          · exact recounted_of_unknown told called (not_exists.mp known)

/-- Where nothing stands in the way, each step of a service is recounted. -/
theorem recounted_of_service {step : Step}
    (tells : session.context.tells = true) (current : session.IsCurrent)
    (service : step.IsService false session.now) : session.Recounted step := by
  cases step with
  | call request credential =>
      exact recounted_call tells current request credential
  | sweep => exact Exam.sweep_recounts tells current.reliable
  | recover =>
      have kept : (Exam.recoverStalled session.context ⟨session.store, []⟩).2 =
          ⟨session.store, []⟩ :=
        Exam.recoverStalled_keeps current.reliable.lawful current.none _ rfl
      have recounted :
          Exam.recoverStalled.IsRecounted session.context session.store [] [] :=
        .of_eq kept (.refl _)
      exact recounted
  | setClock | connectBroker | look => exact .refl session.store
  | loseTables => cases service
  | insert | change | remove => exact service.elim

/-! ## Whole runs -/

/-- The log of the steps that a service takes, each with what it is taken in. -/
def moments (session : Session) (step : Step) : List (Session × Step) :=
  [(session, step)]

variable {failing : Bool} {opening : Session} {taken : List (Session × Step)}

/-- Any log can be kept afterwards. -/
theorem Logs.of_moments {α : Type}
    (logs : Logs moments failing opening taken session)
    (log : Session → Step → List α) :
    Logs log failing opening (taken.flatMap fun moment => log moment.1 moment.2)
      session := by
  induction logs with
  | refl => exact .refl
  | tail _ service ih =>
      rw [List.flatMap_append, moments, List.flatMap_singleton]
      exact .tail ih service

/-- A service keeps its settings. -/
theorem run_settings {step : Step}
    (service : step.IsService failing session.now) :
    (session.run step).2.settings = session.settings := by
  cases step with
  | insert | change | remove => exact service.elim
  | _ => rfl

theorem Logs.settings (logs : Logs moments failing opening taken session) :
    session.settings = opening.settings := by
  induction logs with
  | refl => rfl
  | tail _ service ih => exact (run_settings service).trans ih

/-- What is told of an attempt by some events: first that it has been started,
then what has been saved and which violations have been reported, and that it
has been submitted and graded, in this order, once it has been closed. -/
def IsToldOf (events : List ProgressEvent) (attempt : Attempt)
    (saves reports : Nat) : Prop :=
  ∃ work : List ProgressKind, (∀ kind ∈ work, kind.IsWork) ∧
    kindsOf attempt.id events =
      .started :: work ++
      (if attempt.status = .inProgress then [] else [.submitted, .graded]) ∧
    work.count .answerSaved = saves ∧ work.count .violation = reports

section

variable (lawful : opening.store.Lawful) (unused : opening.store.attempts = [])
  (reach : opening.store.outages = [])
  (papers : ∀ variant ∈ opening.store.variants, ∃ questions,
    variant.questions.value? = some questions ∧ IsPaper questions)

include lawful unused reach papers

theorem Logs.isCurrent (logs : Logs moments false opening taken session) :
    session.IsCurrent :=
  Serves.current logs.serves (isSound_of_no_attempts lawful unused)
    (isCurrent_of_no_attempts lawful unused reach papers)

variable (enabled : opening.settings.notificationsEnabled = true)
  (connected : ∀ moment ∈ taken, moment.1.brokerConnected = true)

include enabled connected

/-- Each step of a whole run is recounted, and all its events together tell how
far the attempts have come. -/
theorem Logs.recounted (logs : Logs moments false opening taken session) :
    (∀ moment ∈ taken, moment.1.Recounted moment.2 ∧
      moment.1.answered moment.2 = moment.1.counted moment.2) ∧
    Traces opening.store.phase
      (taken.flatMap fun moment => moment.1.events moment.2)
      session.store.phase := by
  induction logs with
  | refl => exact ⟨List.forall_mem_nil _, .refl _⟩
  | @tail taken session step early service ih =>
      have current := early.isCurrent lawful unused reach papers
      obtain ⟨before, last⟩ := List.forall_mem_append.mp connected
      obtain ⟨each, traces⟩ := ih before
      have tells : session.context.tells = true := by
        have enabled' : session.settings.notificationsEnabled = true :=
          early.settings ▸ enabled
        change (session.settings.notificationsEnabled &&
            session.brokerConnected) = true
        rw [enabled', last (session, step) (List.mem_singleton_self _)]
        rfl
      have recounted := recounted_of_service tells current service
      have answers := (early.of_moments counted).answered_eq_counted lawful
        unused papers current.reliable.reach step
      refine ⟨List.forall_mem_append.mpr ⟨each,
        List.forall_mem_singleton.mpr ⟨recounted, answers⟩⟩, ?_⟩
      rw [List.flatMap_append, moments, List.flatMap_singleton]
      exact traces.append recounted.traces

/-- In every state that a service has reached, whatever it has been asked to do,
its events tell of each attempt that it has been started, what work has been
done on it, and how it has been closed, and of nothing else.  Each event shows
its attempt as it was when the event was told, and so what the step that tells
it has left of it. -/
theorem events_tell_attempts (logs : Logs moments false opening taken session) :
    let events := taken.flatMap fun moment => moment.1.events moment.2
    (∀ attemptId, attemptId ∉ session.store.attempts.map (·.id) →
      kindsOf attemptId events = []) ∧
    (∀ attempt ∈ session.store.attempts,
      IsToldOf events attempt
        ((taken.flatMap fun moment => moment.1.saving moment.2).count
          attempt.id)
        ((taken.flatMap fun moment => moment.1.answered moment.2).count
          attempt.id)) ∧
    ∀ moment ∈ taken,
      let after := (moment.1.run moment.2).2.store
      Told moment.1.now moment.1.store (moment.1.events moment.2) after ∧
        ∀ event ∈ moment.1.events moment.2, event.Shows after := by
  intro events
  have current := logs.isCurrent lawful unused reach papers
  have ids := current.reliable.lawful.sittings.ids
  obtain ⟨each, traces⟩ :=
    logs.recounted lawful unused reach papers enabled connected
  have begins : ∀ attemptId, opening.store.phase attemptId = .absent :=
    fun attemptId => phase_of_not_mem (by rw [unused]; exact List.not_mem_nil)
  have reads := fun attemptId =>
    Attempt.Phase.cases_of_after?_absent (begins attemptId ▸ traces attemptId)
  refine ⟨fun attemptId missing => ?_, fun attempt listed => ?_,
    fun moment inside =>
      ⟨(each moment inside).1.told, (each moment inside).1.shows⟩⟩
  · rcases reads attemptId with ⟨-, none⟩ | ⟨present, -⟩
    · exact none
    · exact (present (phase_of_not_mem missing)).elim
  · have phase := phase_of_mem ids listed
    rcases reads attempt.id with ⟨absent, -⟩ | ⟨-, work, isWork, same⟩
    · rw [phase] at absent
      cases status : attempt.status <;> rw [status] at absent <;> cases absent
    · have closing : (session.store.phase attempt.id).closing =
          if attempt.status = .inProgress then []
          else [.submitted, .graded] := by
        rw [phase]
        cases status : attempt.status with
        | submitted =>
            obtain ⟨_, none, -⟩ := current.none attempt listed status
            cases none
        | _ => rfl
      have counts : ∀ {kind : ProgressKind}
          {log : Session → Step → List String}, kind.IsWork → (∀ moment ∈ taken,
            toldOf kind (moment.1.events moment.2) = log moment.1 moment.2) →
          work.count kind = (taken.flatMap fun moment =>
            log moment.1 moment.2).count attempt.id := by
        intro kind log isWork tells
        have told : toldOf kind events = taken.flatMap fun moment =>
          log moment.1 moment.2 :=
          (toldOf_flatMap _ _ _).trans (List.flatMap_congr tells)
        rw [← told, ← count_kindsOf, same, Attempt.Phase.count_of_isWork isWork]
      refine ⟨work, isWork, closing ▸ same,
        counts (.inl rfl) fun moment inside => (each moment inside).1.saved,
        counts (.inr rfl) fun moment inside => ?_⟩
      obtain ⟨recounted, answers⟩ := each moment inside
      exact recounted.reported.trans answers.symm

end

/-! ## A service that is listened to -/

/-- The small service with a question that has another id, and with somebody who
wants to know what happens. -/
def withListener (questionId : String) (connected : Bool) : Session :=
  { withOneStudent justStarted with
    settings := { (withOneStudent justStarted).settings with
        notificationsEnabled := true }
    brokerConnected := connected
    store := { (withOneStudent justStarted).store with
      variants := [⟨"v", "t", "A", 0, .written [⟨questionId, 1, "P", .easy,
        .one, .essay none, none, ""⟩], justStarted⟩] } }

variable (questionId : String) (connected : Bool)

theorem withListener_lawful :
    (withListener questionId connected).store.Lawful := by
  obtain ⟨bank, tests, assignments, -⟩ := withOneStudent_lawful justStarted
  have key := tests.variantKeys _ (List.mem_singleton_self _)
  refine ⟨bank, ?_, assignments, lawfulSittings_nil _ _⟩
  exact
    { ids := tests.ids
      keys := tests.keys
      variantIds := List.nodup_singleton _
      variantKeys := List.forall_mem_singleton.mpr key
      variantTests := List.forall_mem_singleton.mpr List.mem_cons_self
      places := List.pairwise_singleton _ _ }

theorem withListener_papers :
    ∀ variant ∈ (withListener "q" connected).store.variants, ∃ questions,
        variant.questions.value? = some questions ∧ IsPaper questions := by
  obtain ⟨questions, read, paper⟩ :=
    withOneStudent_papers justStarted _ (List.mem_singleton_self _)
  exact List.forall_mem_singleton.mpr ⟨questions, read, paper⟩

/-- Who brings a token that has just been issued is known. -/
theorem withListener_knows {subject : String} {role : Role}
    (request : HttpRequest) (read : Token.bodyOf? (Text.utf8 (Token.claimsJson
      ((withOneStudent justStarted).claimsOf subject role 60)).render) =
      some ((withOneStudent justStarted).claimsOf subject role 60,
        ⟨true, true, false⟩)) :
    Access.caller? (withListener questionId connected).settings justStarted
      ((withListener questionId connected).signed request
        (.token subject role 60)) = some (.ok ⟨subject, role⟩) := by
  have running : Token.earliestExpiry? justStarted = some 946684740 := by
    decide +kernel
  have current : ((946684740 : Nat) : Int) ≤ justStarted.epochSeconds + 60 := by
    decide +kernel
  exact @caller?_token (withListener questionId connected) request subject role
    60 ⟨true, true, false⟩ 946684740 rfl read rfl running current

theorem withListener_known (request : HttpRequest) :
    Access.caller? (withListener questionId connected).settings justStarted
      ((withListener questionId connected).signed request student) =
      some (.ok ⟨"s", .student⟩) :=
  withListener_knows questionId connected request (by decide +kernel)

theorem withListener_owner (request : HttpRequest) :
    Access.caller? (withListener questionId connected).settings justStarted
      ((withListener questionId connected).signed request owner) =
      some (.ok ⟨"o", .teacher⟩) :=
  withListener_knows questionId connected request (by decide +kernel)

/-- What a call publishes and leaves is what its operation does. -/
theorem run_of_performs {α : Type} {operation : Action AttemptError α}
    (called : Server.called? session.settings
      (session.signed request credential) = some endpoint)
    (performs : Handle.Performs session.context
      (session.signed request credential) endpoint operation) :
    let left := (operation session.context ⟨session.store, []⟩).2
    session.events (.call request credential) = left.published ∧
      (session.run (.call request credential)).2 =
        { session with store := left.store } := by
  have responds := congrArg Prod.snd (@Server.respond_of_called session.context
      _ endpoint called ⟨session.store, []⟩)
  have ends := responds.trans (performs.ends ⟨session.store, []⟩).1
  refine ⟨congrArg World.published ends, ?_⟩
  rw [run_call_session]
  exact congrArg (fun world : World => { session with store := world.store })
    ends

/-- What the student of the service does. -/
inductive Deed where
  | starts
  | saves
  | savesAll
  | reports
  | submits

/-- The request that asks for it. -/
def Deed.sent : Deed → HttpRequest
  | .starts => startingRequest
  | .saves =>
      documentRequest .put "/attempts/attempt-1/answers/q"
        "\x7b\"value\":\"E\"\x7d"
  | .savesAll => entriesRequest
  | .reports => reportingRequest
  | .submits => submitRequest

/-- What its operation publishes and leaves. -/
def Deed.left (deed : Deed) (session : Session) : World :=
  let caller : Caller := ⟨"s", .student⟩
  let world : World := ⟨session.store, []⟩
  match deed with
  | .starts => (Exam.start caller "a" none session.context world).2
  | .saves =>
      (Exam.save caller "attempt-1" (PlainEntry.mk "q" (some "E") none).decoded
        session.context world).2
  | .savesAll =>
      (Exam.saveBatch caller "attempt-1" (plainEntries.map (·.decoded))
        session.context world).2
  | .reports =>
      (Exam.reportViolation caller "attempt-1" session.context world).2
  | .submits =>
      ((Exam.submit caller "attempt-1" >>= Exam.snapshotOf) session.context
        world).2

/-- The session with other rows in its tables. -/
def listened (store : Store) : Session :=
  { withListener questionId connected with store }

theorem listened_takes {α : Type} {form : Json.Form α}
    {faults : α → List RangeFault} {value : α}
    (store : Store) {request : HttpRequest}
    (headers : request.headers = [("content-type", "application/json")])
    (read : form.readLeading (Text.utf8 request.body) = .ok value)
    (kept : faults value = []) :
    Handle.taken? ((listened questionId connected store).signed request student)
      form faults = some value := by
  rw [Handle.taken?, read_of_readLeading _ student headers read]
  exact if_pos kept

/-- A request of the student has its operation done, and no more. -/
theorem listened_does (deed : Deed) (store : Store) :
    let session := listened questionId connected store
    session.events (.call deed.sent student) = (deed.left session).published ∧
      (session.run (.call deed.sent student)).2 =
        listened questionId connected (deed.left session).store := by
  intro session
  have known : Access.caller? session.settings session.now
      (session.signed deed.sent student) = some (.ok ⟨"s", .student⟩) :=
    withListener_known questionId connected deed.sent
  have calls : ∀ {endpoint : Endpoint},
      Server.called? (withOneStudent justStarted).settings deed.sent =
        some endpoint →
      Server.called? session.settings (session.signed deed.sent student) =
        some endpoint :=
    fun called => (called?_signed session deed.sent student).trans called
  obtain ⟨⟨calledAll, readAll⟩, each⟩ := plainEntries_sent
  cases deed with
  | starts =>
      have noCode : Handle.accessCode
          ((withOneStudent justStarted).signed startingRequest student) =
          none := by
        decide +kernel
      have performs :=
        @Handle.startAttempt_performs _ _ "a" session.context known
      rw [show Handle.accessCode (session.signed Deed.starts.sent student) =
        none from noCode] at performs
      have called : Server.called? (withOneStudent justStarted).settings
          startingRequest = some (.startAttempt "a") := by
        decide +kernel
      exact run_of_performs (calls called) performs
  | saves =>
      obtain ⟨called, headers, readOne⟩ := (List.forall₂_cons.mp each).1
      obtain ⟨input, read, same⟩ := exists_ok_of_any readOne
      obtain rfl := PlainEntry.decoded_of_ofInput? (beq_iff_eq.mp same)
      exact run_of_performs (calls called)
        (Handle.saveAnswer_performs session.context known
          (listened_takes questionId connected store headers read rfl))
  | savesAll =>
      obtain ⟨inputs, read, same⟩ := exists_ok_of_any readAll
      obtain rfl := decoded_of_map (beq_iff_eq.mp same)
      exact run_of_performs (calls calledAll)
        (Handle.saveAnswers_performs session.context known
          (listened_takes questionId connected store rfl read rfl))
  | reports =>
      have called : Server.called? (withOneStudent justStarted).settings
          reportingRequest = some (.reportViolation "attempt-1") := by
        decide +kernel
      exact run_of_performs (calls called)
        (Handle.reportViolation_performs session.context known)
  | submits =>
      have called : Server.called? (withOneStudent justStarted).settings
          submitRequest = some (.submitAttempt "attempt-1") := by
        decide +kernel
      exact run_of_performs (calls called)
        (Handle.submitAttempt_performs session.context known)

/-- What the student does one after another, each with what it is done in. -/
def sitting : List Deed → Store → List (Session × Step)
  | [], _ => []
  | deed :: rest, store =>
      let session := listened questionId connected store
      (session, .call deed.sent student) ::
        sitting rest (deed.left session).store

/-- What the tables hold then. -/
def leftBy : List Deed → Store → Store
  | [], store => store
  | deed :: rest, store =>
      leftBy rest (deed.left (listened questionId connected store)).store

/-- What is published meanwhile. -/
def publishedBy : List Deed → Store → List ProgressEvent
  | [], _ => []
  | deed :: rest, store =>
      let left := deed.left (listened questionId connected store)
      left.published ++ publishedBy rest left.store

/-- The service takes one step for each of the things that its student does. -/
theorem sitting_logs {opening : Session} {taken : List (Session × Step)}
    (deeds : List Deed) (store : Store)
    (logs :
      Logs moments false opening taken (listened questionId connected store)) :
    Logs moments false opening
      (taken ++ sitting questionId connected deeds store) (listened questionId
        connected (leftBy questionId connected deeds store)) := by
  induction deeds generalizing store taken with
  | nil => rwa [sitting, List.append_nil]
  | cons deed rest ih =>
      have next := @Logs.tail _ _ _ _ _ _ (.call deed.sent student) logs trivial
      rw [(listened_does questionId connected deed store).2] at next
      rw [sitting, List.append_cons]
      exact ih _ next

theorem sitting_events (deeds : List Deed) (store : Store) :
    (sitting questionId connected deeds store).flatMap
        (fun moment => moment.1.events moment.2) =
      publishedBy questionId connected deeds store := by
  induction deeds generalizing store with
  | nil => rfl
  | cons deed rest ih =>
      rw [sitting, List.flatMap_cons, ih, publishedBy,
        (listened_does questionId connected deed store).1]

theorem sitting_connected (deeds : List Deed) (store : Store) :
    ∀ moment ∈ sitting questionId true deeds store,
      moment.1.brokerConnected = true := by
  induction deeds generalizing store with
  | nil => exact List.forall_mem_nil _
  | cons deed rest ih => exact List.forall_mem_cons.mpr ⟨rfl, ih _⟩

/-- What the start of the test publishes and leaves. -/
def begun : World :=
  Deed.starts.left (withListener questionId connected)

/-- The session once the student has started the test. -/
def listening : Session :=
  listened questionId connected (begun questionId connected).store

/-- What it publishes and leaves when the student submits the test then. -/
def handedIn : World :=
  Deed.submits.left (listening questionId connected)

theorem withListener_starts :
    (withListener questionId connected).events startsTest =
        (begun questionId connected).published ∧
      ((withListener questionId connected).run startsTest).2 =
        listening questionId connected :=
  listened_does questionId connected .starts
    (withListener questionId connected).store

theorem listening_submits :
    (listening questionId connected).events (.call submitRequest student) =
        (handedIn questionId connected).published ∧
      ((listening questionId connected).run (.call submitRequest student)).2 =
        { listening questionId connected with
          store := (handedIn questionId connected).store } :=
  listened_does questionId connected .submits (begun questionId connected).store

/-- The steps that the service takes for what its student does from the
start. -/
def stepsFor (deeds : List Deed) : List (Session × Step) :=
  sitting questionId connected deeds (withListener questionId connected).store

theorem stepsFor_logs (deeds : List Deed) :
    Logs moments false (withListener questionId connected)
      (stepsFor questionId connected deeds)
      (listened questionId connected (leftBy questionId connected deeds
        (withListener questionId connected).store)) :=
  @sitting_logs _ _ (withListener questionId connected) [] deeds
    (withListener questionId connected).store .refl

/-- An id that is too long for the answers to a question. -/
def tooLongId : String :=
  String.ofList (List.replicate 65 'q')

theorem handedIn_kinds :
    kindsOf "attempt-1" (publishedBy tooLongId true [.starts, .submits]
      (withListener tooLongId true).store) = [.started, .submitted] ∧
    publishedBy "q" false [.starts, .submits] (withListener "q" false).store =
      [] ∧
    (leftBy tooLongId true [.starts, .submits]
      (withListener tooLongId true).store).attempts.map (·.id) = ["attempt-1"] ∧
    (leftBy "q" false [.starts, .submits]
      (withListener "q" false).store).attempts.map (·.id) = ["attempt-1"] := by
  decide +kernel

/-- A test that cannot be graded has been submitted, and that it has been graded
is not told.  While there is no broker nothing is told at all. -/
theorem closing_may_go_untold :
    (¬∀ (opening session : Session) (taken : List (Session × Step))
      (attempt : Attempt),
      opening.store.Lawful → opening.store.attempts = [] →
      opening.store.outages = [] →
      opening.settings.notificationsEnabled = true →
      (∀ moment ∈ taken, moment.1.brokerConnected = true) →
      Logs moments false opening taken session →
      attempt ∈ session.store.attempts →
      ∃ work closing, (∀ kind ∈ work, kind.IsWork) ∧
        (closing = [] ∨ closing = [.submitted, .graded]) ∧
        kindsOf attempt.id
          (taken.flatMap fun moment => moment.1.events moment.2) =
            .started :: work ++ closing) ∧
    ¬∀ (opening session : Session) (taken : List (Session × Step))
      (attempt : Attempt),
      opening.store.Lawful → opening.store.attempts = [] →
      opening.store.outages = [] →
      (∀ variant ∈ opening.store.variants, ∃ questions,
        variant.questions.value? = some questions ∧ IsPaper questions) →
      opening.settings.notificationsEnabled = true →
      Logs moments false opening taken session →
      attempt ∈ session.store.attempts →
      ∃ work closing, (∀ kind ∈ work, kind.IsWork) ∧
        (closing = [] ∨ closing = [.submitted, .graded]) ∧
        kindsOf attempt.id
          (taken.flatMap fun moment => moment.1.events moment.2) =
            .started :: work ++ closing := by
  obtain ⟨ungraded, untold, submitted, submitted'⟩ := handedIn_kinds
  refine ⟨fun claimed => ?_, fun claimed => ?_⟩
  · obtain ⟨attempt, one, id⟩ := List.map_eq_singleton_iff.mp submitted
    obtain ⟨work, closing, isWork, closes, same⟩ := claimed _ _
      (stepsFor tooLongId true [.starts, .submits]) attempt
      (withListener_lawful tooLongId true) rfl rfl rfl (sitting_connected _ _ _)
      (stepsFor_logs tooLongId true [.starts, .submits])
      (by rw [listened, one]; exact List.mem_singleton_self _)
    rw [stepsFor, sitting_events, id, ungraded] at same
    rcases closes with rfl | rfl
    · obtain rfl : work = [.submitted] := by
        rw [List.append_nil] at same
        exact (List.cons.inj same).2.symm
      rcases isWork _ (List.mem_singleton_self _) with other | other <;>
        cases other
    · have length := congrArg List.length same
      simp at length
  · obtain ⟨attempt, one, id⟩ := List.map_eq_singleton_iff.mp submitted'
    obtain ⟨work, closing, -, -, same⟩ :=
      claimed _ _ (stepsFor "q" false [.starts, .submits]) attempt
        (withListener_lawful "q" false) rfl rfl (withListener_papers false)
        rfl (stepsFor_logs "q" false [.starts, .submits])
        (by rw [listened, one]; exact List.mem_singleton_self _)
    rw [stepsFor, sitting_events, untold] at same
    cases same

/-- The student starts the test, saves some answers at once and one of them
again, leaves the page, and hands the test in. -/
def wholeSitting : List Deed :=
  [.starts, .savesAll, .saves, .reports, .submits]

/-- What is told of that, with the numbers of answers and violations that are
shown. -/
theorem wholeSitting_told :
    let opening := withListener "q" true
    let events := publishedBy "q" true wholeSitting opening.store
    kindsOf "attempt-1" events =
      [.started, .answerSaved, .answerSaved, .violation, .submitted, .graded] ∧
      events.map
        (fun event => (event.answeredCount, event.attempt.violationCount)) =
        [(0, 0), (0, 0), (1, 0), (1, 1), (1, 1), (1, 1)] ∧
      (leftBy "q" true wholeSitting opening.store).attempts.map
        (fun attempt => (attempt.id, attempt.status.isScored)) =
        [("attempt-1", true)] := by
  decide +kernel

/-- The service that is listened to tells how its student sits the test. -/
theorem withListener_tells_attempts :
    let opening := withListener "q" true
    let taken := stepsFor "q" true wholeSitting
    let session :=
      listened "q" true (leftBy "q" true wholeSitting opening.store)
    let events := taken.flatMap fun moment => moment.1.events moment.2
    opening.store.Lawful ∧ opening.store.attempts = [] ∧
      opening.store.outages = [] ∧
      (∀ variant ∈ opening.store.variants, ∃ questions,
        variant.questions.value? = some questions ∧ IsPaper questions) ∧
      opening.settings.notificationsEnabled = true ∧
      (∀ moment ∈ taken, moment.1.brokerConnected = true) ∧
      Logs moments false opening taken session ∧
      kindsOf "attempt-1" events = [.started, .answerSaved, .answerSaved,
        .violation, .submitted, .graded] ∧
      events.map
        (fun event => (event.answeredCount, event.attempt.violationCount)) =
        [(0, 0), (0, 0), (1, 0), (1, 1), (1, 1), (1, 1)] ∧
      (∀ moment ∈ taken, ∀ event ∈ moment.1.events moment.2,
        event.Shows (moment.1.run moment.2).2.store) ∧
      ∃ attempt ∈ session.store.attempts, attempt.id = "attempt-1" ∧
        attempt.status ≠ .inProgress ∧ IsToldOf events attempt 2 1 := by
  intro opening taken session events
  obtain ⟨kinds, counts, closed⟩ := wholeSitting_told
  have told : events = publishedBy "q" true wholeSitting opening.store :=
    sitting_events "q" true wholeSitting opening.store
  rw [← told] at kinds counts
  have connected : ∀ moment ∈ taken, moment.1.brokerConnected = true :=
    sitting_connected "q" wholeSitting opening.store
  have logs : Logs moments false opening taken session :=
    stepsFor_logs "q" true wholeSitting
  obtain ⟨-, tells, each⟩ := events_tell_attempts (withListener_lawful "q" true)
    rfl rfl (withListener_papers true) rfl connected logs
  obtain ⟨attempt, one, facts⟩ := List.map_eq_singleton_iff.mp closed
  obtain ⟨id, scored⟩ := Prod.mk.inj facts
  have listed : attempt ∈ session.store.attempts :=
    one ▸ List.mem_singleton_self _
  have left : attempt.status ≠ .inProgress := by
    intro running
    rw [running] at scored
    cases scored
  obtain ⟨work, isWork, same, -, -⟩ := tells attempt listed
  rw [if_neg left, id, kinds] at same
  obtain rfl : work = [.answerSaved, .answerSaved, .violation] :=
    List.append_cancel_right (List.cons.inj same).2.symm
  refine ⟨withListener_lawful "q" true, rfl, rfl, withListener_papers true, rfl,
    connected, logs, kinds, counts, fun moment inside => (each moment inside).2,
    attempt, listed, id, left, _, isWork, ?_, rfl, rfl⟩
  rw [if_neg left, id, kinds]
  rfl

end Session

end ExamHall
