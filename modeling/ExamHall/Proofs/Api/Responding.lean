import ExamHall.Api.Server
import ExamHall.Proofs.Api.Effect
import ExamHall.Proofs.Api.Handling
import ExamHall.Proofs.Api.StudentEffects

/-!
# What an answered request leaves

A request that calls no endpoint, that names no caller, or that brings nothing
that can be taken, leaves the tables alone.  Any other has an effect of its
endpoint for its caller, and the status of its reply tells how that has ended.
-/

namespace ExamHall

open Store ExamHall.Action

/-! ## What a request brings -/

namespace Handle

/-- What a request brings in its body, if it can be read and keeps its
bounds. -/
def taken? {α : Type} (request : HttpRequest) (form : Json.Form α)
    (faults : α → List RangeFault) : Option α :=
  match HttpBody.read request form with
  | .ok value => if faults value = [] then some value else none
  | .error _ => none

/-- The answers that a request wants to have saved, and the attempt that they
are for. -/
def entries? (request : HttpRequest) :
    Endpoint → Option (String × List AnswerInput)
  | .saveAnswer attemptId questionId =>
    (taken? request (AnswerInput.form questionId) AnswerInput.faults).map
      fun input => (attemptId, [input])
  | .saveAnswers attemptId =>
    (taken? request AnswerInput.batchForm AnswerInput.batchFaults).map
      fun inputs => (attemptId, inputs)
  | _ => none

/-- The saves that a request to an endpoint gets accepted. -/
def acceptedSaves (context : Context) (store : Store) (request : HttpRequest)
    (endpoint : Endpoint) : List AcceptedSave :=
  match Access.caller? context.settings context.now request,
      entries? request endpoint with
  | some (.ok caller), some (attemptId, inputs) =>
    Exam.acceptedSaves caller attemptId context.now inputs store
  | _, _ => []

end Handle

/-- What a request to an endpoint leaves, with the saves that it has accepted
and with why it has not ended well, if it has not: nothing, or what its caller
may do there. -/
inductive RequestEffect (context : Context) (store : Store)
    (request : HttpRequest) (endpoint : Endpoint) :
    List AcceptedSave → Option (Halt Refusal) → Store → Prop where
  | nothing {failed : Option (Halt Refusal)} :
      RequestEffect context store request endpoint [] failed store
  | made {caller : Caller} {saves : List AcceptedSave}
      {failed : Option (Halt Refusal)} {after : Store} (known :
        Access.caller? context.settings context.now request = some (.ok caller))
      (effect : Effect context.now store caller endpoint saves failed after) :
      RequestEffect context store request endpoint saves failed after

namespace Handle

variable {context : Context} {store : Store} {request : HttpRequest}
  {endpoint : Endpoint} {caller : Caller} {kept : World → Prop}

theorem acceptedSaves_of_known
    (known : Access.caller? context.settings context.now request =
      some (.ok caller)) :
    acceptedSaves context store request endpoint =
      match entries? request endpoint with
      | some (attemptId, inputs) =>
          Exam.acceptedSaves caller attemptId context.now inputs store
      | none => [] := by
  unfold acceptedSaves
  rw [known]
  cases entries? request endpoint <;> rfl

theorem acceptedSaves_of_none (none : entries? request endpoint = none) :
    acceptedSaves context store request endpoint = [] := by
  unfold acceptedSaves
  rw [none]
  rcases Access.caller? context.settings context.now request
    with _ | _ | _ <;> rfl

/-! ## Learning who calls -/

theorem caller_ends :
    Ends context kept (Handle.caller request) fun result world =>
      kept world ∧ match result with
    | .ok caller =>
        Access.caller? context.settings context.now request = some (.ok caller)
    | .error _ =>
        ∀ caller, Access.caller? context.settings context.now request ≠
            some (.ok caller) := by
  unfold Handle.caller
  refine Ends.reading (.bind (fun result world => kept world ∧ match result with
    | .ok found =>
        Access.caller? context.settings context.now request = some found
    | .error _ => Access.caller? context.settings context.now request = none)
      (.inRange ?_ ?_)
    (fun found => ?_) ?_)
  · exact fun found present world begun => ⟨begun, present⟩
  · exact fun missing world begun => ⟨begun, missing⟩
  · cases found with
    | ok caller => exact .pure fun world reached => reached
    | error error =>
        refine .refuse fun world reached => ⟨reached.1, fun caller known => ?_⟩
        rw [reached.2] at known
        cases known
  · rintro halt world ⟨begun, missing⟩
    refine ⟨begun, fun caller known => ?_⟩
    rw [missing] at known
    cases known

/-- Whatever an endpoint does for a known caller, it does nothing for others. -/
theorem caller_bind {next : Caller → Action Refusal Json}
    (continued : ∀ caller,
      Access.caller? context.settings context.now request = some (.ok caller) →
      Ends context (fun world => world.store = store) (next caller)
        fun result world => Effect context.now store caller endpoint
        (acceptedSaves context store request endpoint)
        (failure result) world.store) :
    Ends context (fun world => world.store = store)
      (Handle.caller request >>= next) fun result world => RequestEffect context
      store request endpoint (acceptedSaves context store request endpoint)
      (failure result) world.store := by
  refine .bind _ caller_ends (fun caller => ?_) ?_
  · rintro world ⟨same, known⟩
    exact .made known (continued caller known world same)
  · rintro halt world ⟨same, unknown⟩
    have none : acceptedSaves context store request endpoint = [] := by
      unfold acceptedSaves
      split
      · next caller _ _ known _ => exact (unknown caller known).elim
      · rfl
    rw [same, none]
    exact .nothing

/-- An author is a known caller who may be one. -/
theorem author_bind {next : Caller → Action Refusal Json}
    (none : entries? request endpoint = none)
    (continued : ∀ author, author.role.canAuthor = true →
      Ends context (fun world => world.store = store) (next author)
        fun result world => Effect context.now store author endpoint []
        (failure result) world.store) :
    Ends context (fun world => world.store = store)
      (Handle.author request >>= next) fun result world => RequestEffect context
      store request endpoint (acceptedSaves context store request endpoint)
      (failure result) world.store := by
  rw [acceptedSaves_of_none none]
  have same :
    (Handle.author request >>= next) = Handle.caller request >>= fun caller =>
      orRefuse Refusal.explained (Access.author caller) >>= next :=
    bind_assoc _ _ _
  have saves := @acceptedSaves_of_none context store _ _ none
  rw [same, ← saves]
  refine caller_bind fun caller _ => ?_
  rw [saves]
  unfold Access.author
  split
  · next author => exact continued caller author
  · exact .refuse fun world same => same ▸ .nothing

/-! ## Showing results -/

/-- What shows a result leaves the store alone, and never fails. -/
def Shows {α : Type} (context : Context)
    (shown : α → Action Refusal Json) : Prop :=
  ∀ value world, ∃ json, shown value context world = (.ok json, world)

/-- An operation has the same effect when its result is shown. -/
theorem shown_ends {ε α : Type} {operation : Action ε α} {report : ε → Refusal}
    {shown : α → Action Refusal Json} {saves : List AcceptedSave}
    (effect : HasEffect context store caller endpoint saves report operation)
    (shows : Shows context shown) :
    Ends context (fun world => world.store = store)
      (operation.mapError report >>= shown) fun result world => Effect
      context.now store caller endpoint saves (failure result) world.store := by
  refine .bind (fun result world => Effect context.now store caller endpoint
      saves (failure result) world.store)
    (.mapError (effect.weaken (fun _ same => same) ?_))
    (fun value world reached => ?_) fun _ _ failed => failed
  · rintro ((error | _) | value) world reached <;> exact reached
  · obtain ⟨json, ended⟩ := shows value world
    rw [ended]
    exact reached

/-- What is read first changes nothing if it cannot be taken. -/
theorem reading_ends {α : Type} {first : Action Refusal α}
    {next : α → Action Refusal Json}
    (keeps : Keeps context (fun world => world.store = store) first)
    (continued : ∀ value, Ends context (fun world => world.store = store)
      (next value) fun result world => Effect context.now store caller
      endpoint [] (failure result) world.store) :
    Ends context (fun world => world.store = store) (first >>= next)
      fun result world => Effect context.now store caller endpoint []
      (failure result) world.store :=
  Ends.bind _ keeps continued fun _ _ same => same ▸ .nothing

theorem mapError_bind {ε δ α β : Type} {report : ε → δ} {first : Action ε α}
    {next : α → Action ε β} :
    (first >>= next).mapError report = first.mapError report >>= fun value =>
      (next value).mapError report := by
  funext context world
  rw [bind_apply]
  unfold mapError
  rw [bind_apply]
  rcases first context world with ⟨(error | _) | value, world⟩ <;> rfl

theorem bounded_ends {α : Type} {form : Json.Form α}
    {faults : α → List RangeFault} :
    Ends context kept (bounded request form faults) fun result world =>
      kept world ∧ match result with
      | .ok value => taken? request form faults = some value
      | .error _ => taken? request form faults = none := by
  unfold bounded body taken?
  cases read : HttpBody.read request form with
  | error fault => exact fun world begun => ⟨begun, rfl⟩
  | ok value =>
      refine .bind (fun result world => kept world ∧ result = .ok value)
        (.pure ?_) (fun found => ?_) ?_
      · exact fun world begun => ⟨begun, rfl⟩
      · split
        · next whole =>
            refine .pure ?_
            rintro world ⟨begun, same⟩
            cases same
            exact ⟨begun, if_pos whole⟩
        · next broken =>
            refine .refuse ?_
            rintro world ⟨begun, same⟩
            cases same
            exact ⟨begun, if_neg broken⟩
      · rintro halt world ⟨-, failed⟩
        cases failed

theorem bounded_of_taken {α : Type} {form : Json.Form α}
    {faults : α → List RangeFault} {value : α}
    (taken : taken? request form faults = some value) (world : World) :
    bounded request form faults context world = (.ok value, world) := by
  have bounds : Ends context (· = world) (bounded request form faults) _ :=
    bounded_ends
  obtain ⟨same, found⟩ := bounds world rfl
  generalize bounded request form faults context world = ended at same found
  rcases ended with ⟨halt | value', after⟩
  · cases taken.symm.trans found
  · cases taken.symm.trans found
    exact congrArg _ same

/-- The saves of a request are made for a known caller with what the request
brings. -/
theorem saving_ends {α : Type} {form : Json.Form α}
    {faults : α → List RangeFault} {inputs : α → List AnswerInput}
    {attemptId : String} {next : α → Action Refusal Json}
    (entries : entries? request endpoint =
      (taken? request form faults).map fun value => (attemptId, inputs value))
    (known : Access.caller? context.settings context.now request =
      some (.ok caller))
    (continued : ∀ value, Ends context (fun world => world.store = store)
      (next value) fun result world => Effect context.now store caller endpoint
      (Exam.acceptedSaves caller attemptId context.now (inputs value) store)
      (failure result) world.store) :
    Ends context (fun world => world.store = store)
      (bounded request form faults >>= next) fun result world =>
        Effect context.now store caller endpoint
          (acceptedSaves context store request endpoint) (failure result)
          world.store := by
  rw [acceptedSaves_of_known known, entries]
  refine .bind _ bounded_ends (fun value => ?_) ?_
  · rintro world ⟨same, taken⟩
    rw [taken]
    exact continued value world same
  · rintro halt world ⟨same, untaken⟩
    rw [untaken, same]
    exact .nothing

/-! ## Endpoints -/

/-- Each endpoint does nothing, or what its caller may do there. -/
theorem endpoint_ends (lawful : store.Lawful) (endpoint : Endpoint) :
    Ends context (fun world => world.store = store)
      (Handle.endpoint request endpoint) fun result world =>
        RequestEffect context store request endpoint
          (acceptedSaves context store request endpoint) (failure result)
          world.store := by
  have quiet : ∀ {action : Action Refusal Json},
      entries? request endpoint = none →
      Keeps context (fun world => world.store = store) action →
      Ends context (fun world => world.store = store) action fun result world =>
        RequestEffect context store request endpoint
          (acceptedSaves context store request endpoint) (failure result)
          world.store := by
    intro action none keeps
    rw [acceptedSaves_of_none none]
    exact keeps.weaken (fun _ same => same) fun _ _ same => same ▸ .nothing
  have plain : ∀ {α : Type} {view : α → Json}, Shows context fun value =>
    pure (view value) :=
    fun _ _ => ⟨_, rfl⟩
  have timed : ∀ {α : Type} {view : α → Instant → Json},
    Shows context fun value => (do pure (view value (← read).now)) :=
    fun _ _ => ⟨_, rfl⟩
  cases endpoint with
  | welcome => exact quiet rfl (Keeps.reading (Keeps.pure _))
  | health => exact quiet rfl (Keeps.reading (Keeps.pure _))
  | generateTest =>
      exact author_bind rfl fun author can =>
        reading_ends bounded_keeps fun form =>
        reading_ends (orRefuse_keeps _) fun wanted =>
        shown_ends (Exam.generate_hasEffect lawful can) plain
  | showTest testId =>
      exact quiet rfl (shown_keeps author_keeps
          (fun _ => Exam.showTest_keeps) fun _ => Keeps.pure _)
  | assign =>
      exact author_bind rfl fun author can =>
        reading_ends bounded_keeps fun form =>
        shown_ends (Exam.assign_hasEffect lawful can) plain
  | showAssignment assignmentId =>
      exact quiet rfl (shown_keeps author_keeps
          (fun _ => Exam.showAssignment_keeps) fun _ => Keeps.pure _)
  | closeAssignment assignmentId =>
      exact author_bind rfl fun author can =>
        shown_ends (Exam.close_hasEffect lawful can) plain
  | listAttempts assignmentId =>
      exact quiet rfl (Keeps.bind (orRefuse_keeps _) fun query =>
          shown_keeps author_keeps (fun _ => Exam.attemptPage_keeps) fun _ =>
          Keeps.reading (Keeps.pure _))
  | studentStatus assignmentId =>
      exact quiet rfl (shown_keeps caller_keeps
          (fun _ => Exam.status_keeps) fun _ => Keeps.reading (Keeps.pure _))
  | startAttempt assignmentId =>
      refine caller_bind fun caller known => ?_
      rw [acceptedSaves_of_none rfl]
      exact shown_ends (Exam.start_hasEffect lawful) fun ⟨_, _⟩ _ => ⟨_, rfl⟩
  | showAttempt attemptId =>
      exact quiet rfl (shown_keeps caller_keeps
          (fun _ => Exam.view_keeps) fun _ => Keeps.reading (Keeps.pure _))
  | saveAnswers attemptId =>
      have entries : entries? request (.saveAnswers attemptId) =
        (taken? request AnswerInput.batchForm AnswerInput.batchFaults).map
          fun inputs => (attemptId, inputs) := rfl
      exact caller_bind fun caller known =>
        saving_ends entries known fun inputs =>
        shown_ends (Exam.saveBatch_hasEffect lawful rfl) plain
  | saveAnswer attemptId questionId =>
      have entries : entries? request (.saveAnswer attemptId questionId) =
        (taken? request (AnswerInput.form questionId) AnswerInput.faults).map
          fun input => (attemptId, [input]) := rfl
      exact caller_bind fun caller known =>
        saving_ends entries known fun input =>
        shown_ends (Exam.save_hasEffect lawful rfl) plain
  | reportViolation attemptId =>
      refine caller_bind fun caller known => ?_
      rw [acceptedSaves_of_none rfl]
      exact shown_ends (Exam.reportViolation_hasEffect lawful) timed
  | submitAttempt attemptId =>
      have split : Handle.submitAttempt request attemptId =
          Handle.caller request >>= fun caller =>
            (Exam.submit caller attemptId >>= Exam.snapshotOf).mapError
              Refusal.ofAttempt >>= fun snapshot =>
                (do pure (snapshot.view (← read).now none)) := by
        simp only [mapError_bind, bind_assoc]
        rfl
      change Ends context _ (Handle.submitAttempt request attemptId) _
      rw [split]
      refine caller_bind fun caller known => ?_
      rw [acceptedSaves_of_none rfl]
      exact shown_ends (Exam.submit_hasEffect lawful) fun _ _ => ⟨_, rfl⟩
  | gradeAttempt attemptId =>
      exact author_bind rfl fun author can =>
        shown_ends (Exam.grade_hasEffect lawful can) timed
  | reviewAnswer answerId =>
      exact author_bind rfl fun author can =>
        reading_ends bounded_keeps fun review =>
        shown_ends (Exam.review_hasEffect lawful can) fun ⟨_, _⟩ _ => ⟨_, rfl⟩

end Handle

namespace Server

variable {context : Context} {store : Store} {request : HttpRequest}

/-- The endpoint that a request is routed to, if its address and its method are
those of one. -/
def routedTo? (settings : Settings) (request : HttpRequest) : Option Endpoint :=
  match Endpoint.route? settings.apiPath request.path with
  | some route => if route.allows request.method then route.endpoint else none
  | none => none

/-- The endpoint that a request calls, if it calls one. -/
def called? (settings : Settings) (request : HttpRequest) : Option Endpoint :=
  if settings.metricsEnabled && request.path == metricsPath then none
  else if request.method = .options then none
  else routedTo? settings request

/-- The reply to a request as it is sent. -/
def sent (settings : Settings) (request : HttpRequest) (reply : HttpReply) :
    HttpReply :=
  withoutBodyFor request.method ((OriginPolicy.ofSettings settings).disclose
      request (identified request reply))

theorem status_sent (settings : Settings) (request : HttpRequest)
    (reply : HttpReply) :
    (sent settings request reply).status = reply.status := by
  have same : (identified request reply).status = reply.status := by
    unfold identified
    split <;> rfl
  unfold sent withoutBodyFor
  split <;> exact same

/-- What an answered request ends with, as its endpoint has ended.  Nothing is
sent if a calculation has left its range. -/
inductive Tells (send : HttpReply → HttpReply) :
    Option (Halt Refusal) → Except (Halt Refusal) HttpReply → Prop where
  | done {json : Json} : Tells send none (.ok (send (replyOf (.ok json))))
  | refused {refusal : Refusal} :
      Tells send (some (.refused refusal)) (.ok (send refusal.reply))
  | broken : Tells send (some .outOfRange) (.error .outOfRange)

/-- The end of a request that may have called an endpoint, and what the request
leaves. -/
def Replies (context : Context) (store : Store) (request : HttpRequest)
    (send : HttpReply → HttpReply) (endpoint? : Option Endpoint)
    (result : Except (Halt Refusal) HttpReply) (after : Store) : Prop :=
  match endpoint? with
  | none => after = store ∧ ∃ reply, result = .ok reply
  | some endpoint => ∃ failed, Tells send failed result ∧
    RequestEffect context store request endpoint
      (Handle.acceptedSaves context store request endpoint) failed after

/-- What is said is the same as it is sent. -/
theorem Replies.send {endpoint? : Option Endpoint}
    {result : Except (Halt Refusal) HttpReply} {after : Store}
    (replies : Replies context store request id endpoint? result after)
    (send : HttpReply → HttpReply) :
    Replies context store request send endpoint? (send <$> result) after := by
  cases endpoint? with
  | none =>
      obtain ⟨same, reply, rfl⟩ := replies
      exact ⟨same, send reply, rfl⟩
  | some endpoint =>
      obtain ⟨failed, tells, effect⟩ := replies
      refine ⟨failed, ?_, effect⟩
      cases tells with
      | done => exact .done
      | refused => exact .refused
      | broken => exact .broken

theorem routed_ends (lawful : store.Lawful) :
    Ends context (fun world => world.store = store) (routed request)
      fun result world => Replies context store request id
      (routedTo? context.settings request) result world.store := by
  unfold routed routedTo?
  apply Ends.reading
  cases Endpoint.route? context.settings.apiPath request.path with
  | none => exact .pure fun _ same => ⟨same, _, rfl⟩
  | some route =>
      dsimp only
      split
      · cases route.endpoint with
        | none => exact .pure fun _ same => ⟨same, _, rfl⟩
        | some endpoint =>
            refine .bind (fun result world => ∃ failed,
                Tells id failed (replyOf <$> result) ∧
                RequestEffect context store request endpoint
                  (Handle.acceptedSaves context store request endpoint) failed
                  world.store)
              (.outcome ((Handle.endpoint_ends lawful endpoint).weaken
                (fun _ same => same) ?_))
              (fun ended => .pure fun _ reached => reached) ?_
            · rintro ((refusal | _) | json) world effect
              · exact ⟨_, .refused, effect⟩
              · exact ⟨_, .broken, effect⟩
              · exact ⟨_, .done, effect⟩
            · exact fun halt world reached => reached
      · exact .pure fun _ same => ⟨same, _, rfl⟩

/-- What an answered request ends with when its endpoint has ended in a way. -/
def told (send : HttpReply → HttpReply) :
    Except (Halt Refusal) Json → Except (Halt Refusal) HttpReply
  | .ok json => .ok (send (replyOf (.ok json)))
  | .error (.refused refusal) => .ok (send refusal.reply)
  | .error .outOfRange => .error .outOfRange

/-- A request that is routed to an endpoint ends as that does. -/
theorem routed_of_routedTo {endpoint : Endpoint}
    (called : routedTo? context.settings request = some endpoint)
    (world : World) :
    routed request context world =
      (told id (Handle.endpoint request endpoint context world).1,
        (Handle.endpoint request endpoint context world).2) := by
  unfold routedTo? at called
  rw [routed, read_bind_apply]
  cases found : Endpoint.route? context.settings.apiPath request.path with
  | none =>
      rw [found] at called
      cases called
  | some route =>
      rw [found] at called
      dsimp only at called ⊢
      split at called
      · next allowed =>
          rw [if_pos allowed, called]
          dsimp only
          rw [bind_apply]
          unfold Action.outcome
          rcases Handle.endpoint request endpoint context world
            with ⟨(_ | _) | _, _⟩ <;> rfl
      · cases called

/-- A request that calls an endpoint ends as that does, and its result is
sent. -/
theorem respond_of_called {endpoint : Endpoint}
    (called : called? context.settings request = some endpoint)
    (world : World) :
    respond request context world =
      (told (sent context.settings request)
        (Handle.endpoint request endpoint context world).1,
        (Handle.endpoint request endpoint context world).2) := by
  unfold called? at called
  rw [respond, read_bind_apply]
  split at called
  · cases called
  · next unmetered =>
      rw [if_neg unmetered]
      split at called
      · cases called
      · next asked =>
          rw [if_neg asked, bind_apply, routed_of_routedTo called]
          rcases Handle.endpoint request endpoint context world
            with ⟨(_ | _) | _, _⟩ <;> rfl

/-- A request that calls no endpoint leaves the tables alone, and any other has
an effect of its endpoint. -/
theorem respond_ends (lawful : store.Lawful) :
    Ends context (fun world => world.store = store) (respond request)
      fun result world =>
        Replies context store request (sent context.settings request)
          (called? context.settings request) result world.store := by
  unfold respond called?
  apply Ends.reading
  dsimp only
  split
  · exact .pure fun _ same => ⟨same, _, rfl⟩
  split
  · exact .pure fun _ same => ⟨same, _, rfl⟩
  refine .bind _ (routed_ends lawful)
    (fun reply => .pure fun world replies => ?_) fun halt world replies => ?_
  · exact replies.send (sent context.settings request)
  · exact replies.send (sent context.settings request)

end Server

end ExamHall
