import ExamHall.Proofs.Session.Calls

/-!
# Who may change what

A student may change attempts of their own.  An author may have an attempt
graded, or review an answer, of an assignment that they manage, may close such
an assignment, and may assign tests that they manage.  Nobody changes questions,
tests, variants or rosters that are there, and nobody removes anything.
-/

namespace ExamHall

open Store

/-- An endpoint has an attempt graded, or one of its answers reviewed. -/
def Endpoint.Scores (store : Store) (attemptId : String) : Endpoint → Prop
  | .gradeAttempt id => id = attemptId
  | .reviewAnswer id =>
      ∃ row ∈ store.answers, row.id = id ∧ row.attemptId = attemptId
  | _ => False

/-- A caller of an endpoint may change an attempt: it is the caller's own one,
or the caller is an author, manages its assignment, and calls for its scores. -/
inductive Entitled (store : Store) (caller : Caller) (endpoint : Endpoint)
    (attempt : Attempt) : Prop where
  | student (own : attempt.studentId = caller.id)
  | author (canAuthor : caller.role.canAuthor = true)
      (manages : Manages store caller attempt.assignmentId)
      (scores : endpoint.Scores store attempt.id)

/-- What a caller of an endpoint leaves who has done nothing but what the caller
is entitled to. -/
structure Permitted (store : Store) (caller : Caller) (endpoint : Endpoint)
    (after : Store) : Prop where
  questions : after.questions = store.questions
  tests : store.tests <+: after.tests
  variants : store.variants <+: after.variants
  roster : store.roster <+: after.roster
  assignments : Grows (fun old _ => endpoint = .closeAssignment old.id ∧
      caller.role.canAuthor = true ∧ caller.mayManage old.ownerId = true)
    (fun row => endpoint = .assign ∧ caller.role.canAuthor = true ∧
      ∃ test ∈ store.tests, row.testId = test.id ∧
        caller.mayManage test.ownerId = true) store.assignments
    after.assignments
  attempts :
    Grows (fun old row => row.id = old.id ∧ Entitled store caller endpoint old)
      (fun row => row.studentId = caller.id) store.attempts after.attempts
  answers :
    Grows (fun old row => row.key = old.key ∧ ∃ attempt ∈ store.attempts,
      attempt.id = old.attemptId ∧ Entitled store caller endpoint attempt)
      (fun row => ∃ attempt ∈ store.attempts, attempt.id = row.attemptId ∧
        Entitled store caller endpoint attempt) store.answers after.answers

namespace Permitted

variable {now : Instant} {store after : Store} {caller : Caller}
  {endpoint : Endpoint} {attempt : Attempt}

theorem refl (store : Store) : Permitted store caller endpoint store :=
  ⟨rfl, List.prefix_rfl, List.prefix_rfl, List.prefix_rfl, .refl _,
    .refl _, .refl _⟩

/-- Whoever is entitled to an attempt may change it with its answers, and may
start new attempts. -/
theorem of_grows {issued : Issued} (listed : attempt ∈ store.attempts)
    (entitled : Entitled store caller endpoint attempt) (lawful : store.Lawful)
    (attempts :
      Grows (fun old row => old.id = attempt.id ∧ Attempt.Advances old row)
        (fun row => row.studentId = caller.id) store.attempts after.attempts)
    (answers : Grows (fun old row => old.attemptId = attempt.id ∧
      SavedAnswer.key row = old.key) (fun row => row.attemptId = attempt.id)
      store.answers after.answers) (rest : after = { store with
        attempts := after.attempts, answers := after.answers, issued }) :
    Permitted store caller endpoint after := by
  rw [rest]
  refine ⟨rfl, List.prefix_rfl, List.prefix_rfl, List.prefix_rfl, .refl _,
    attempts.mono ?_ fun _ => id, answers.mono ?_ ?_⟩
  · rintro old inside row ⟨same, advances⟩
    obtain rfl := eq_of_key lawful.sittings.ids inside listed same
    exact ⟨advances.kept.id, entitled⟩
  · rintro old - row ⟨same, key⟩
    exact ⟨key, attempt, listed, same.symm, entitled⟩
  · intro row same
    exact ⟨attempt, listed, same.symm, entitled⟩

theorem of_touches (listed : attempt ∈ store.attempts)
    (entitled : Entitled store caller endpoint attempt) (lawful : store.Lawful)
    (touches : Touches attempt.id store after) :
    Permitted store caller endpoint after := by
  obtain ⟨issued, rest⟩ := touches.rest
  exact of_grows listed entitled lawful
    (touches.attempts.mono (fun _ _ _ change => change) fun _ => False.elim)
    touches.answers rest

/-- Only who manages an open assignment closes it. -/
theorem closed {assignmentId : String} (author : caller.role.canAuthor = true)
    (manages : Manages store caller assignmentId) (lawful : store.Lawful) :
    Permitted store caller (.closeAssignment assignmentId) { store with
      assignments := updateWhere (isOpen assignmentId) (Store.closed now)
        store.assignments } := by
  refine ⟨rfl, List.prefix_rfl, List.prefix_rfl, List.prefix_rfl,
    .updateWhere ?_, .refl _, .refl _⟩
  intro old inside selected
  obtain ⟨assignment, listed, same, may⟩ := manages
  obtain ⟨sameId, -⟩ := Bool.and_eq_true_iff.mp selected
  obtain rfl := beq_iff_eq.mp sameId
  obtain rfl := eq_of_key lawful.assignments.ids listed inside same
  exact ⟨rfl, author, may⟩

/-- A start closes an attempt in progress only if it is the caller's own, and
opens one for the caller. -/
theorem started {assignmentId : String} {pending : Option Attempt}
    {middle : Store} {issued : Issued}
    (expires : Expires now store assignmentId caller.id pending middle)
    (student : attempt.studentId = caller.id)
    (completes : Exam.CompletesPending now pending
      { middle with attempts := middle.attempts ++ [attempt], issued } after)
        (lawful : store.Lawful) :
    Permitted store caller endpoint after := by
  cases expires with
  | vacant =>
      obtain rfl : after =
        { store with attempts := store.attempts ++ [attempt], issued } :=
        completes
      exact ⟨rfl, List.prefix_rfl, List.prefix_rfl, List.prefix_rfl, .refl _,
        .append _ (List.forall_mem_singleton.mpr student), .refl _⟩
  | @expired pending listed running passed =>
      have own : pending.studentId = caller.id := (isOf_eq_true.mp running.1).2
      have early := Touches.submitting store pending.id pending.deadlineAt now
      have late := Exam.Completes.touches completes
      obtain ⟨issued, rest⟩ := late.rest
      refine of_grows listed (.student own) lawful ?_ late.answers rest
      have opened :
          Grows (fun old row => old.id = pending.id ∧ Attempt.Advances old row)
            (fun row => row.studentId = caller.id) store.attempts
            ((store.submitting pending.id pending.deadlineAt now).attempts ++
              [attempt]) := by
        refine early.attempts.trans (.append _
            (List.forall_mem_singleton.mpr student)) ?_ (fun _ => False.elim) ?_
        · exact fun _ _ _ first second => ⟨first.1, first.2.trans second.2⟩
        · exact fun _ _ mine change => change.2.kept.studentId.trans mine
      refine opened.trans
        (late.attempts.mono (fun _ _ _ change => change) fun _ => False.elim) ?_
        (fun _ mine => mine) ?_
      · exact fun _ _ _ first second => ⟨first.1, first.2.trans second.2⟩
      · exact fun _ _ mine change => change.2.kept.studentId.trans mine

end Permitted

/-- Each effect of a request is one that its caller is entitled to. -/
theorem Effect.permitted {now : Instant} {store after : Store} {caller : Caller}
    {endpoint : Endpoint} {saves : List AcceptedSave}
    {failed : Option (Halt Refusal)}
    (effect : Effect now store caller endpoint saves failed after)
    (lawful : store.Lawful) : Permitted store caller endpoint after := by
  cases effect with
  | nothing => exact .refl store
  | generated =>
      exact ⟨rfl, List.prefix_append _ _, List.prefix_append _ _,
        List.prefix_rfl, .refl _, .refl _, .refl _⟩
  | assigned author listed manages same =>
      refine ⟨rfl, List.prefix_rfl, List.prefix_rfl, List.prefix_append _ _,
        .append _ (List.forall_mem_singleton.mpr ?_), .refl _, .refl _⟩
      exact ⟨rfl, author, _, listed, same, manages⟩
  | closed author manages => exact .closed author manages lawful
  | saved on own inTime shown writes =>
      exact .of_touches own.listed (.student own.student) lawful writes.touches
  | late on own passed finishes =>
      exact .of_touches own.listed (.student own.student) lawful
        finishes.touches
  | violated own inTime touches =>
      exact .of_touches own.listed (.student own.student) lawful touches
  | submitted own closes finishes =>
      exact .of_touches own.listed (.student own.student) lawful
        finishes.touches
  | exhausted listed running passed finishes =>
      exact .of_touches listed (.student (isOf_eq_true.mp running.1).2) lawful
        finishes.touches
  | started expires student completes =>
      exact .started expires student completes lawful
  | graded author manages into =>
      exact .of_touches into.mem (.author author manages rfl) lawful
        into.touches
  | @reviewed row attempt _ author manages listed same into =>
      obtain ⟨_, _, _, _, _, _, _, _, reviews, -⟩ := id into
      exact .of_touches reviews.listed
        (.author author manages ⟨row, listed, rfl, same⟩) lawful
        (into.touches lawful).1

namespace Session

variable {opening session : Session}

/-- In every state that a service reaches, a request without a valid token
changes nothing, and any other changes nothing but what its caller is entitled
to. -/
theorem request_changes_only_permitted (lawful : opening.store.Lawful)
    (unused : opening.store.attempts = []) (run : Serves true opening session)
    (request : HttpRequest) (credential : Credential) :
    let sent := session.signed request credential
    let after := (session.run (.call request credential)).2.store
    ((∀ caller, Access.caller? session.settings session.now sent ≠
      some (.ok caller)) → after = session.store) ∧ ∀ caller,
      Access.caller? session.settings session.now sent = some (.ok caller) →
      after = session.store ∨ ∃ endpoint,
        Server.called? session.settings sent = some endpoint ∧
        Permitted session.store caller endpoint after := by
  intro sent after
  obtain ⟨lawful', -⟩ :=
    (Serves.sound run (isSound_of_no_attempts lawful unused)).1
  rcases run_call lawful' request credential with ⟨same, -⟩ |
    ⟨endpoint, caller, failed, ended, called, known, -, -, effect⟩
  · exact ⟨fun _ => same, fun _ _ => .inl same⟩
  · refine ⟨fun unknown => (unknown caller known).elim,
      fun other is => .inr ⟨endpoint, called, ?_⟩⟩
    obtain rfl : caller = other :=
      Except.ok.inj (Option.some.inj (known.symm.trans is))
    exact effect.permitted lawful'

/-- The request of the only student to start the test changes nothing but what
the student is entitled to. -/
theorem withOneStudent_start_changes_only_permitted :
    let opening := withOneStudent Column.origin
    let request : HttpRequest := ⟨.post, "/assignments/a/start", "", [], ""⟩
    let credential := Credential.token "s" .student 60
    let sent := opening.signed request credential
    let after := (opening.run (.call request credential)).2.store
    opening.store.Lawful ∧ opening.store.attempts = [] ∧
      Serves true opening opening ∧ ∀ caller,
        Access.caller? opening.settings opening.now sent = some (.ok caller) →
        after = opening.store ∨ ∃ endpoint,
          Server.called? opening.settings sent = some endpoint ∧
          Permitted opening.store caller endpoint after := by
  intro opening request credential sent after
  exact ⟨withOneStudent_lawful _, rfl, .refl, (request_changes_only_permitted
      (withOneStudent_lawful _) rfl .refl request credential).2⟩

end Session

end ExamHall
