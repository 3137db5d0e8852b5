import ExamHall.Proofs.Exam.Batching
import ExamHall.Proofs.Session.Deadline
import ExamHall.Proofs.Session.Issuing
import ExamHall.Proofs.Session.StoredTests

/-!
# A batch leaves what its single saves leave

A student can send the answers on an open attempt in one request or in a request
for each of them.  What the tables hold afterwards is the same.  The reply to
the batch reports on each entry what the single request for it is told.
-/

namespace ExamHall

open Store

/-- A request is accepted, and shows a document. -/
def Server.shows (settings : Settings) (request : HttpRequest) (json : Json) :
    StepResult :=
  .replied (sent settings request (replyOf (.ok json)))

theorem Server.shows_isSuccess (settings : Settings) (request : HttpRequest)
    (json : Json) : (shows settings request json).IsSuccess :=
  ⟨200, congrArg some (status_sent settings request (replyOf (.ok json))),
    Nat.le_refl _, by decide⟩

/-- The outcome of a batch reports on its entries, in their order, what the
single requests for them have led to.  An entry is saved, with its answer as the
single request is shown it, if that is accepted, and has failed otherwise. -/
inductive BatchOutcome.ReportsOn (settings : Settings) :
    List AnswerInput → List HttpRequest → List StepResult → BatchOutcome →
    Prop where
  | nil : ReportsOn settings [] [] [] ⟨[], []⟩
  | saved {input : AnswerInput} {inputs : List AnswerInput}
      {request : HttpRequest} {requests : List HttpRequest}
      {results : List StepResult}
      {outcome : BatchOutcome} (answer : SavedAnswer Answer)
      (later : ReportsOn settings inputs requests results outcome) :
      ReportsOn settings (input :: inputs) (request :: requests)
        (Server.shows settings request (answer.view false) :: results)
        { outcome with saved := answer :: outcome.saved }
  | failed {input : AnswerInput} {inputs : List AnswerInput}
      {request : HttpRequest} {requests : List HttpRequest}
      {result : StepResult} {results : List StepResult} {outcome : BatchOutcome}
      (detail : String) (unsuccessful : ¬result.IsSuccess)
      (later : ReportsOn settings inputs requests results outcome) : ReportsOn
      settings (input :: inputs) (request :: requests) (result :: results)
        { outcome with failed := ⟨input.questionId, detail⟩ :: outcome.failed }

/-- Each entry is reported on once. -/
theorem BatchOutcome.ReportsOn.count {settings : Settings}
    {inputs : List AnswerInput} {requests : List HttpRequest}
    {results : List StepResult} {outcome : BatchOutcome}
    (reports : ReportsOn settings inputs requests results outcome) :
    outcome.saved.length + outcome.failed.length = inputs.length := by
  induction reports with
  | nil => rfl
  | saved answer _ ih =>
      rw [List.length_cons, List.length_cons, ← ih, Nat.add_right_comm]
  | failed detail _ _ ih =>
      rw [List.length_cons, List.length_cons, ← ih, Nat.add_assoc]

/-- What breaks its bounds is refused before anything is done with it. -/
theorem Handle.bounded_of_broken {α : Type} {context : Context}
    {request : HttpRequest} {form : Json.Form α} {faults : α → List RangeFault}
    {value : α} (read : HttpBody.read request form = .ok value)
    (broken : faults value ≠ []) (world : World) :
    bounded request form faults context world =
      (.error (.refused (.ofFaults (faults value))), world) := by
  unfold bounded body
  rw [read]
  refine (Action.bind_apply_of_ok rfl).trans ?_
  cases found : faults value with
  | nil => exact (broken found).elim
  | cons fault rest => rfl

namespace Session

/-- A student whom the service knows sends a batch of answers for an attempt. -/
structure SendsBatch (session : Session) (studentId attemptId : String)
    (request : HttpRequest) (credential : Credential)
    (inputs : List AnswerInput) : Prop where
  called : Server.called? session.settings (session.signed request credential) =
    some (.saveAnswers attemptId)
  known : ∃ caller : Caller, caller.id = studentId ∧
    Access.caller? session.settings session.now
      (session.signed request credential) = some (.ok caller)
  taken : Handle.taken? (session.signed request credential)
    AnswerInput.batchForm AnswerInput.batchFaults = some inputs

/-- A student whom the service knows sends an entry of a batch as a single
save. -/
structure SendsEntry (session : Session) (studentId attemptId : String)
    (input : AnswerInput) (call : HttpRequest × Credential) : Prop where
  called : Server.called? session.settings (session.signed call.1 call.2) =
    some (.saveAnswer attemptId input.questionId)
  known : ∃ caller : Caller, caller.id = studentId ∧
    Access.caller? session.settings session.now (session.signed call.1 call.2) =
      some (.ok caller)
  read : HttpBody.read (session.signed call.1 call.2)
    (AnswerInput.form input.questionId) = .ok input

variable {session : Session} {store left : Store} {studentId attemptId : String}
  {attempt : Attempt} {variant : Variant (List VariantQuestion)}
  {input : AnswerInput} {call : HttpRequest × Credential}

/-- A call leaves the session as it is, but for the tables. -/
theorem run_of_ended {endpoint : Endpoint} {result : Except (Halt Refusal) Json}
    {world : World}
    (called : Server.called? session.settings (session.signed call.1 call.2) =
      some endpoint)
    (ended : Handle.endpoint (session.signed call.1 call.2) endpoint
      session.context ⟨session.store, []⟩ = (result, world)) :
    (session.run (.call call.1 call.2)).1.result = resultOf (Server.told
      (Server.sent session.settings (session.signed call.1 call.2)) result) ∧
    (session.run (.call call.1 call.2)).2 =
      { session with store := world.store } := by
  obtain ⟨replied, same⟩ := run_of_called called
  rw [ended] at replied same
  exact ⟨replied, congrArg (fun store => { session with store }) same⟩

/-- What is refused with an explanation is not answered with success. -/
theorem not_isSuccess_explained (settings : Settings) (request : HttpRequest)
    (error : ApiError) : ¬(resultOf (Server.told (Server.sent settings request)
      (.error (.refused (.explained error))))).IsSuccess := by
  have range : ¬(200 ≤ error.status ∧ error.status < 300) := by
    cases error <;> simp [ApiError.status]
  exact StepResult.not_isSuccess (congrArg some (Server.status_sent settings
      request (Refusal.explained error).reply)) range

/-- What an operation refuses before it has done anything leaves the session as
it is. -/
theorem run_of_refused {α : Type} {endpoint : Endpoint}
    {operation : Action AttemptError α} {shown : α → Action Refusal Json}
    {error : AttemptError}
    (called : Server.called? session.settings (session.signed call.1 call.2) =
      some endpoint)
    (performs : Handle.endpoint (session.signed call.1 call.2) endpoint
      session.context ⟨session.store, []⟩ =
      (operation.mapError Refusal.ofAttempt >>= shown) session.context
        ⟨session.store, []⟩)
    (refused : operation session.context ⟨session.store, []⟩ =
      (.error (.refused error), ⟨session.store, []⟩)) :
    ¬(session.run (.call call.1 call.2)).1.result.IsSuccess ∧
    (session.run (.call call.1 call.2)).2 = session := by
  rw [Action.bind_apply, Action.mapError, refused] at performs
  obtain ⟨result, same⟩ := run_of_ended called performs
  exact ⟨result ▸ not_isSuccess_explained _ _ _, same⟩

/-- A single save whose bounds are broken is refused, and any other one saves
its answer. -/
theorem SendsEntry.performs
    (sends : session.SendsEntry studentId attemptId input call) :
    (input.faults ≠ [] ∧
      ¬(session.run (.call call.1 call.2)).1.result.IsSuccess ∧
      (session.run (.call call.1 call.2)).2 = session) ∨ ∃ caller : Caller,
      caller.id = studentId ∧
      Handle.endpoint (session.signed call.1 call.2)
        (.saveAnswer attemptId input.questionId)
        session.context ⟨session.store, []⟩ =
        ((Exam.save caller attemptId input).mapError Refusal.ofAttempt >>=
          fun saved => pure (saved.view false)) session.context
          ⟨session.store, []⟩ := by
  obtain ⟨called, ⟨caller, student, known⟩, read⟩ := sends
  have named :=
    @Handle.caller_eq_ok session.context _ _ ⟨session.store, []⟩ known
  by_cases whole : input.faults = []
  · have taken : Handle.taken? (session.signed call.1 call.2)
        (AnswerInput.form input.questionId) AnswerInput.faults =
        some input := by
      rw [Handle.taken?, read]
      exact if_pos whole
    exact .inr ⟨caller, student,
      (Action.bind_apply_of_ok named).trans (Action.bind_apply_of_ok
        (Handle.bounded_of_taken taken ⟨session.store, []⟩))⟩
  · have ended : Handle.endpoint (session.signed call.1 call.2)
        (.saveAnswer attemptId input.questionId)
        session.context ⟨session.store, []⟩ = _ :=
      (Action.bind_apply_of_ok named).trans (Action.bind_apply_of_error
          (Handle.bounded_of_broken read whole ⟨session.store, []⟩))
    obtain ⟨result, same⟩ := run_of_ended called ended
    exact .inl ⟨whole, result ▸ not_isSuccess_explained _ _ _, same⟩

/-- A single save on an open attempt is answered as its entry in a batch is. -/
theorem SendsEntry.run
    (sends : session.SendsEntry studentId attemptId input call)
    (opened : Exam.IsOpen session.now session.store studentId attemptId attempt
      variant) :
    match Exam.saveOne attempt variant session.now input session.store with
    | .ok (answer, left) =>
      (session.run (.call call.1 call.2)).1.result =
        Server.shows session.settings
          (session.signed call.1 call.2) (answer.view false) ∧
        (session.run (.call call.1 call.2)).2 = { session with store := left }
    | .error _ => ¬(session.run (.call call.1 call.2)).1.result.IsSuccess ∧
        (session.run (.call call.1 call.2)).2 = session := by
  rcases sends.performs with ⟨broken, unsuccessful, same⟩
    | ⟨caller, rfl, performs⟩
  · obtain ⟨error, refused⟩ :=
      Exam.exists_refused_of_faults attempt variant session.now
        session.store broken
    rw [refused]
    exact ⟨unsuccessful, same⟩
  · have saves : Exam.save caller attemptId input session.context
        ⟨session.store, []⟩ = _ :=
      Exam.save_of_open opened
    have reading : session.context.now = session.now := rfl
    cases saved :
        Exam.saveOne attempt variant session.now input session.store with
    | error halt =>
        obtain ⟨error, rfl⟩ := Exam.exists_refused_of_failed saved
        rw [reading, saved] at saves
        exact run_of_refused sends.called performs saves
    | ok step =>
        obtain ⟨answer, left⟩ := step
        rw [reading, saved] at saves
        rw [Action.bind_apply, Action.mapError, saves] at performs
        obtain ⟨result, same⟩ := run_of_ended sends.called performs
        refine ⟨result, same.trans ?_⟩
        rw [World.store_telling]

/-- The single saves for the entries of a batch leave what saving the entries
together leaves, and the outcome of that reports on them. -/
theorem exists_reportsOn {inputs : List AnswerInput}
    {calls : List (HttpRequest × Credential)}
    (singles :
      List.Forall₂ (session.SendsEntry studentId attemptId) inputs calls)
    (opened :
      Exam.IsOpen session.now store studentId attemptId attempt variant) :
    ∃ outcome left, Exam.saveEach attempt variant session.now inputs store =
        .ok (outcome, left) ∧
      ({ session with store } : Session).after
        (calls.map fun call => .call call.1 call.2) =
        { session with store := left } ∧
      outcome.ReportsOn session.settings inputs
        (calls.map fun call => session.signed call.1 call.2)
        ((({ session with store } : Session).runAll
          (calls.map fun call => .call call.1 call.2)).map (·.result)) := by
  induction singles generalizing store with
  | nil => exact ⟨_, store, rfl, rfl, .nil⟩
  | @cons input call inputs calls sends _ ih =>
      have single := @SendsEntry.run { session with store } _ _ _ _ _ _
        ⟨sends.called, sends.known, sends.read⟩ opened
      simp only [Exam.saveEach, bind_eq_ok, Transaction.attempt_eq_ok,
        pure_eq_ok]
      cases saved : Exam.saveOne attempt variant session.now input store with
      | error halt =>
          obtain ⟨error, rfl⟩ := Exam.exists_refused_of_failed saved
          rw [saved] at single
          obtain ⟨unsuccessful, same⟩ := single
          obtain ⟨outcome, left, together, after, reports⟩ := ih opened
          refine ⟨_, left, ⟨_, store, .inr ⟨error, rfl, rfl, rfl⟩, outcome,
            left, together, rfl, rfl⟩, ?_, ?_⟩
          · rw [List.map_cons, Session.after, same, after]
          · rw [List.map_cons, List.map_cons, runAll_cons, List.map_cons, same]
            exact .failed error.message unsuccessful reports
      | ok step =>
          obtain ⟨answer, middle⟩ := step
          rw [saved] at single
          obtain ⟨result, same⟩ := single
          obtain ⟨outcome, left, together, after, reports⟩ :=
            ih (opened.saved saved)
          refine ⟨_, left, ⟨_, middle, .inl ⟨answer, rfl, rfl⟩, outcome, left,
            together, rfl, rfl⟩, ?_, ?_⟩
          · rw [List.map_cons, Session.after, same, after]
          · rw [List.map_cons, List.map_cons, runAll_cons, List.map_cons,
              result, same]
            exact .saved answer reports

theorem SendsBatch.performs {request : HttpRequest} {credential : Credential}
    {inputs : List AnswerInput}
    (sends : session.SendsBatch studentId attemptId request credential inputs) :
    ∃ caller : Caller, caller.id = studentId ∧
      Handle.endpoint (session.signed request credential)
        (.saveAnswers attemptId) session.context ⟨session.store, []⟩ =
        ((Exam.saveBatch caller attemptId inputs).mapError Refusal.ofAttempt >>=
          fun outcome => pure outcome.view) session.context
          ⟨session.store, []⟩ := by
  obtain ⟨called, ⟨caller, student, known⟩, taken⟩ := sends
  exact ⟨caller, student,
    (Action.bind_apply_of_ok (@Handle.caller_eq_ok session.context _ _
      ⟨session.store, []⟩ known)).trans (Action.bind_apply_of_ok
        (Handle.bounded_of_taken taken ⟨session.store, []⟩))⟩

/-- A batch on an open attempt is answered with the outcome of saving its
entries. -/
theorem SendsBatch.run {request : HttpRequest} {credential : Credential}
    {inputs : List AnswerInput} {outcome : BatchOutcome}
    (sends : session.SendsBatch studentId attemptId request credential inputs)
    (opened :
      Exam.IsOpen session.now session.store studentId attemptId attempt variant)
    (ended : Exam.saveEach attempt variant session.now inputs session.store =
      .ok (outcome, left)) :
    (session.run (.call request credential)).1.result =
      Server.shows session.settings (session.signed request credential)
        outcome.view ∧
    (session.run (.call request credential)).2 =
      { session with store := left } := by
  obtain ⟨caller, rfl, performs⟩ := sends.performs
  have saves : Exam.saveBatch caller attemptId inputs session.context
      ⟨session.store, []⟩ = _ :=
    Exam.saveBatch_of_open opened ended
  rw [Action.bind_apply, Action.mapError, saves] at performs
  obtain ⟨result, same⟩ :=
    @run_of_ended session (request, credential) _ _ _ sends.called performs
  refine ⟨result, same.trans ?_⟩
  split
  · rfl
  · rw [World.store_telling]

/-! ## Attempts that cannot be worked on -/

/-- Whatever a student wants to save is refused where the own attempt cannot be
worked on. -/
theorem SendsEntry.refused
    (sends : session.SendsEntry studentId attemptId input call)
    (lawful : session.store.Lawful)
    (own : IsOwn session.store studentId attemptId attempt)
    (inTime : session.now < attempt.deadlineAt)
    (closed : ∀ variant, ¬Exam.IsOpen session.now session.store studentId
      attemptId attempt variant) :
    ¬(session.run (.call call.1 call.2)).1.result.IsSuccess ∧
    (session.run (.call call.1 call.2)).2 = session := by
  rcases sends.performs with ⟨-, refused⟩ | ⟨caller, rfl, performs⟩
  · exact refused
  · obtain ⟨error, refused⟩ := Exam.exists_refused_of_not_open lawful own inTime
        closed fun attempt variant => do
        let saved ← Exam.saveOne attempt variant session.now input
        pure (⟨attempt, variant, saved⟩ : Exam.Worked (SavedAnswer Answer))
    exact run_of_refused sends.called performs (Exam.save_of_failed refused)

theorem SendsBatch.refused {request : HttpRequest} {credential : Credential}
    {inputs : List AnswerInput}
    (sends : session.SendsBatch studentId attemptId request credential inputs)
    (lawful : session.store.Lawful)
    (own : IsOwn session.store studentId attemptId attempt)
    (inTime : session.now < attempt.deadlineAt)
    (closed : ∀ variant, ¬Exam.IsOpen session.now session.store studentId
      attemptId attempt variant) :
    ¬(session.run (.call request credential)).1.result.IsSuccess ∧
    (session.run (.call request credential)).2 = session := by
  obtain ⟨caller, rfl, performs⟩ := sends.performs
  obtain ⟨error, refused⟩ := Exam.exists_refused_of_not_open lawful own inTime
      closed fun attempt variant => do
      let outcome ← Exam.saveEach attempt variant session.now inputs
      pure (⟨attempt, variant, outcome⟩ : Exam.Worked BatchOutcome)
  exact @run_of_refused session (request, credential) _ _ _ _ _ sends.called
    performs (Exam.saveBatch_of_failed refused)

/-- Single saves that are all refused leave the session as it is. -/
theorem after_of_refused {inputs : List AnswerInput}
    {calls : List (HttpRequest × Credential)}
    (singles : List.Forall₂ (session.SendsEntry studentId attemptId) inputs
      calls) (lawful : session.store.Lawful)
    (own : IsOwn session.store studentId attemptId attempt)
    (inTime : session.now < attempt.deadlineAt)
    (closed : ∀ variant, ¬Exam.IsOpen session.now
      session.store studentId attemptId attempt variant) :
    session.after (calls.map fun call => .call call.1 call.2) = session ∧
    ∀ outcome ∈ session.runAll (calls.map fun call => .call call.1 call.2),
      ¬outcome.result.IsSuccess := by
  induction singles with
  | nil => exact ⟨rfl, List.forall_mem_nil _⟩
  | cons sends _ ih =>
      obtain ⟨unsuccessful, same⟩ := sends.refused lawful own inTime closed
      rw [List.map_cons, runAll_cons, Session.after, same]
      exact ⟨ih.1, List.forall_mem_cons.mpr ⟨unsuccessful, ih.2⟩⟩

variable {opening : Session} {request : HttpRequest} {credential : Credential}
  {inputs : List AnswerInput} {calls : List (HttpRequest × Credential)}

/-- In every state that a service reaches, a batch for an own attempt before its
deadline leaves what the single saves for its entries leave that are sent one
after another at the same time.  Its reply reports on each entry, in the order
of the batch, what the single save is told.  Only if tables cannot be read that
every save needs, all of this is refused alike. -/
theorem batch_leaves_what_singles_leave (lawful : opening.store.Lawful)
    (unused : opening.store.attempts = []) (run : Serves true opening session)
    (own : IsOwn session.store studentId attemptId attempt)
    (inTime : session.now < attempt.deadlineAt)
    (together :
      session.SendsBatch studentId attemptId request credential inputs)
    (singles : List.Forall₂ (session.SendsEntry studentId attemptId)
      inputs calls) :
    let steps := calls.map fun call => Step.call call.1 call.2
    let answered := session.run (.call request credential)
    answered.2 = session.after steps ∧
      ((∃ outcome : BatchOutcome,
        answered.1.result = Server.shows session.settings
          (session.signed request credential) outcome.view ∧
        outcome.ReportsOn session.settings inputs
          (calls.map fun call => session.signed call.1 call.2)
          ((session.runAll steps).map (·.result)) ∧
        outcome.saved.length + outcome.failed.length = inputs.length) ∨
        (¬session.store.CanReach [.attempts] ∨
          ∀ variant, Store.variant attempt.variantId session.store ≠
            .ok (variant, session.store)) ∧
        ¬answered.1.result.IsSuccess ∧
        ∀ single ∈ session.runAll steps, ¬single.result.IsSuccess) := by
  intro steps answered
  have lawful' :=
    (Serves.sound run (isSound_of_no_attempts lawful unused)).1.lawful
  by_cases opened : ∃ variant,
      Exam.IsOpen session.now session.store studentId attemptId attempt variant
  · obtain ⟨variant, opened⟩ := opened
    obtain ⟨outcome, left, ended, same, reports⟩ :=
      exists_reportsOn singles opened
    obtain ⟨result, after⟩ := together.run opened ended
    exact ⟨after.trans same.symm,
      .inl ⟨outcome, result, reports, reports.count⟩⟩
  · have closed := not_exists.mp opened
    obtain ⟨unsuccessful, same⟩ := together.refused lawful' own inTime closed
    obtain ⟨same', unsuccessful'⟩ :=
      after_of_refused singles lawful' own inTime closed
    refine ⟨same.trans same'.symm, .inr ⟨?_, unsuccessful, unsuccessful'⟩⟩
    by_contra readable
    obtain ⟨reach, read⟩ := not_or.mp readable
    obtain ⟨variant, read⟩ := not_forall_not.mp read
    exact closed variant ⟨lawful'.sittings.ids,
      own.id ▸ (lawful'.sittings.keys attempt own.listed).plain,
      not_not.mp reach, own, inTime, read⟩

/-! ## A batch with entries of all kinds -/

/-- An entry without a bookmark, whose value is a text or missing. -/
structure PlainEntry where
  questionId : String
  text : Option String
  timeSpentSeconds : Option Int
deriving DecidableEq

/-- The entry as it is decoded. -/
def PlainEntry.decoded (entry : PlainEntry) : AnswerInput :=
  ⟨entry.questionId, .ofOption .text entry.text, entry.timeSpentSeconds, false⟩

/-- What has been decoded as such an entry. -/
def PlainEntry.ofInput? (input : AnswerInput) : Option PlainEntry :=
  match input with
  | ⟨questionId, .null, timeSpentSeconds, false⟩ =>
      some ⟨questionId, none, timeSpentSeconds⟩
  | ⟨questionId, .text text, timeSpentSeconds, false⟩ =>
      some ⟨questionId, some text, timeSpentSeconds⟩
  | _ => none

theorem PlainEntry.decoded_of_ofInput? {input : AnswerInput}
    {entry : PlainEntry} (same : PlainEntry.ofInput? input = some entry) :
    entry.decoded = input := by
  unfold PlainEntry.ofInput? at same
  split at same <;> cases same <;> rfl

/-- The student saves an answer, names an unknown question, brings a negative
time, and takes the answer back. -/
def plainEntries : List PlainEntry :=
  [⟨"q", some "E", none⟩, ⟨"x", some "E", none⟩, ⟨"q", some "F", some (-1)⟩,
    ⟨"q", none, none⟩]

/-- A request with a document. -/
def documentRequest (method : HttpMethod) (path body : String) : HttpRequest :=
  ⟨method, path, "", [("content-type", "application/json")], body⟩

/-- The request to save all of the answers. -/
def entriesRequest : HttpRequest :=
  documentRequest .post "/attempts/attempt-1/answers"
    ("\x7b\"answers\":[\x7b\"question_id\":\"q\",\"value\":\"E\"\x7d,"
      ++ "\x7b\"question_id\":\"x\",\"value\":\"E\"\x7d," ++
      "\x7b\"question_id\":\"q\",\"value\":\"F\",\"time_spent_seconds\":-1\x7d,"
        ++ "\x7b\"question_id\":\"q\"\x7d]\x7d")

/-- The requests to save one answer after another. -/
def entryRequests : List HttpRequest :=
  [documentRequest .put "/attempts/attempt-1/answers/q"
    "\x7b\"value\":\"E\"\x7d", documentRequest .put
    "/attempts/attempt-1/answers/x" "\x7b\"value\":\"E\"\x7d",
    documentRequest .put "/attempts/attempt-1/answers/q"
      "\x7b\"value\":\"F\",\"time_spent_seconds\":-1\x7d",
    documentRequest .put "/attempts/attempt-1/answers/q" "\x7b\x7d"]

theorem plainEntries_sent :
    (Server.called? (withOneStudent Column.origin).settings entriesRequest =
      some (.saveAnswers "attempt-1") ∧
      (AnswerInput.batchForm.readLeading
        (Text.utf8 entriesRequest.body)).toOption.any (fun inputs =>
          inputs.map PlainEntry.ofInput? == plainEntries.map some) = true) ∧
    List.Forall₂ (fun entry request =>
      Server.called? (withOneStudent Column.origin).settings request =
        some (.saveAnswer "attempt-1" entry.questionId) ∧
      request.headers = [("content-type", "application/json")] ∧
      ((AnswerInput.form entry.questionId).readLeading
        (Text.utf8 request.body)).toOption.any
        (fun input => PlainEntry.ofInput? input == some entry) = true)
      plainEntries entryRequests := by
  decide +kernel

theorem decoded_of_map {entries : List PlainEntry} {inputs : List AnswerInput}
    (same : inputs.map PlainEntry.ofInput? = entries.map some) :
    entries.map PlainEntry.decoded = inputs := by
  induction inputs generalizing entries with
  | nil => rw [List.map_eq_nil_iff.mp same.symm, List.map_nil]
  | cons input inputs ih =>
      cases entries with
      | nil => cases same
      | cons entry entries =>
          obtain ⟨first, rest⟩ := List.cons_eq_cons.mp same
          rw [List.map_cons, PlainEntry.decoded_of_ofInput? first, ih rest]

/-- The document of a request is what its form reads. -/
theorem read_of_readLeading (session : Session) (credential : Credential)
    {request : HttpRequest} {α : Type} {form : Json.Form α} {value : α}
    (headers : request.headers = [("content-type", "application/json")])
    (read : form.readLeading (Text.utf8 request.body) = .ok value) :
    HttpBody.read (session.signed request credential) form = .ok value := by
  have names : Headers.isSameName "authorization" "content-type" = false ∧
      Headers.isSameName "content-type" "content-type" = true := by
    decide +kernel
  have json : (some "application/json").filter
      (fun value => value.toList.all Headers.isVisible) =
      some "application/json" ∧
      HttpBody.isJsonType "application/json" = true := by
    decide +kernel
  have type :
      (session.signed request credential).headers.visible? "content-type" =
        some "application/json" := by
    cases credential <;>
      simp [signed, authorization, headers, Headers.visible?, Headers.find?,
        names, json]
  have same : (session.signed request credential).body = request.body := rfl
  simp only [HttpBody.read, type, json, same, read, Option.any_some, if_true]

/-- The batch of the student leaves what its single saves leave. -/
theorem withOneStudent_batch_leaves_what_singles_leave :
    ∃ session attempt, (withOneStudent Column.origin).store.Lawful ∧
      (withOneStudent Column.origin).store.attempts = [] ∧
      Serves true (withOneStudent Column.origin) session ∧
      IsOwn session.store "s" "attempt-1" attempt ∧
      session.now < attempt.deadlineAt ∧
      session.SendsBatch "s" "attempt-1" entriesRequest student
        (plainEntries.map (·.decoded)) ∧
      List.Forall₂ (session.SendsEntry "s" "attempt-1")
        (plainEntries.map (·.decoded))
        (entryRequests.map fun request => (request, student)) ∧
      (session.run (.call entriesRequest student)).2 =
        session.after ((entryRequests.map fun request =>
          (request, student)).map fun call => .call call.1 call.2) := by
  obtain ⟨session, serves, settings, now, store⟩ := exists_serves_until
    (withOneStudent Column.origin) ⟨.post, "/assignments/a/start", "", [], ""⟩
    (.token "s" .student 60) (Int.le_refl _)
  obtain ⟨attempt, listed, started⟩ := List.any_eq_true.mp withOneStudent_starts
  obtain ⟨id, sitter, running, later⟩ := of_decide_eq_true started
  have own : IsOwn session.store "s" "attempt-1" attempt :=
    ⟨store ▸ listed, id, sitter, running⟩
  have inTime : session.now < attempt.deadlineAt := by
    rw [now]
    exact Int.lt_trans (by decide) later
  have called : ∀ request,
      Server.called? session.settings (session.signed request student) =
        Server.called? (withOneStudent Column.origin).settings request := by
    intro request
    rw [called?_signed, settings]
  have known : ∀ request, ∃ caller : Caller, caller.id = "s" ∧
      Access.caller? session.settings session.now
        (session.signed request student) = some (.ok caller) :=
    fun request => ⟨⟨"s", .student⟩, rfl, student_known request settings now⟩
  obtain ⟨⟨calledAll, readAll⟩, each⟩ := plainEntries_sent
  have together : session.SendsBatch "s" "attempt-1" entriesRequest student
      (plainEntries.map (·.decoded)) := by
    obtain ⟨inputs, read, same⟩ := exists_ok_of_any readAll
    refine ⟨(called _).trans calledAll, known _, ?_⟩
    have few := congrArg List.length (beq_iff_eq.mp same)
    rw [List.length_map] at few
    rw [decoded_of_map (beq_iff_eq.mp same), Handle.taken?,
      read_of_readLeading session student rfl read]
    refine if_pos ?_
    rw [AnswerInput.batchFaults, few]
    rfl
  have singles : List.Forall₂ (session.SendsEntry "s" "attempt-1")
      (plainEntries.map (·.decoded))
      (entryRequests.map fun request => (request, student)) := by
    rw [List.forall₂_map_left_iff, List.forall₂_map_right_iff]
    refine each.imp fun entry request sent => ?_
    obtain ⟨calledOne, headers, readOne⟩ := sent
    obtain ⟨input, read, same⟩ := exists_ok_of_any readOne
    obtain rfl := PlainEntry.decoded_of_ofInput? (beq_iff_eq.mp same)
    exact ⟨(called _).trans calledOne, known _,
      read_of_readLeading session student headers read⟩
  exact ⟨session, attempt, withOneStudent_lawful _, rfl, serves true, own,
    inTime, together, singles,
    (batch_leaves_what_singles_leave (withOneStudent_lawful _) rfl (serves true)
      own inTime together singles).1⟩

end Session

end ExamHall
