import ExamHall.Proofs.Exam.Admission
import ExamHall.Proofs.Session.Assigning

/-!
# Access codes let in whom they should

The access code of an assignment is brought into its canonical form when it is
given, again when it is hashed, and so is what a student brings when a start is
checked.  As the canonical form is its own, all of them agree.
-/

namespace ExamHall

/-- The access code that a form asks for: the one that is given, or the one that
is drawn if that is wished for. -/
def AssignmentForm.AsksForCode (form : AssignmentForm)
    (drawn code : String) : Prop :=
  form.accessCode = some code ∨
    form.accessCode = none ∧ form.generateAccessCode = true ∧ code = drawn

namespace Exam

variable {context : Context} {form : AssignmentForm} {code : String}

/-- The code that is shown is the one that the form asks for, or its canonical
form. -/
theorem codeOf_of_asksForCode (asks : form.AsksForCode context.drawnCode code) :
    ∃ shown, codeOf form context = some shown ∧
      AccessCode.canonical shown = AccessCode.canonical code := by
  rcases asks with given | ⟨given, draw, rfl⟩
  · refine ⟨AccessCode.canonical code, ?_, AccessCode.canonical_canonical code⟩
    simp only [codeOf, newAccessCode, given]
  · refine ⟨context.drawnCode, ?_, rfl⟩
    simp only [codeOf, newAccessCode, given, draw, if_true]

theorem codeOf_eq_none (given : form.accessCode = none)
    (draw : form.generateAccessCode = false) : codeOf form context = none := by
  simp only [codeOf, newAccessCode, given, draw, Bool.false_eq_true, if_false]

end Exam

namespace Session

open Store

variable {opening session : Session} {author student : Caller}
  {form : AssignmentForm} {request : HttpRequest} {credential : Credential}
  {assignmentId : String} {supplied : Option String}

/-- A request is one of a student who asks to start an assignment, and brings an
access code or none. -/
structure AsksToStart (session : Session) (student : Caller)
    (assignmentId : String) (supplied : Option String) (request : HttpRequest)
    (credential : Credential) : Prop where
  called : Server.called? session.settings (session.signed request credential) =
    some (.startAttempt assignmentId)
  known : Access.caller? session.settings session.now
    (session.signed request credential) = some (.ok student)
  brings : Handle.accessCode (session.signed request credential) = supplied

/-- How a request to start an assignment ends. -/
abbrev started (session : Session) (student : Caller) (assignmentId : String)
    (supplied : Option String) :
    Except (Halt AttemptError) (AttemptSnapshot × Bool) × World :=
  Exam.start student assignmentId supplied session.context ⟨session.store, []⟩

/-- A start that is refused is answered with the status of the refusal. -/
theorem AsksToStart.status?_of_refused {error : AttemptError}
    (asks :
      session.AsksToStart student assignmentId supplied request credential)
    (refused : (session.started student assignmentId supplied).1 =
      .error (.refused error)) :
    (session.run (.call request credential)).1.result.status? =
      some (Refusal.ofAttempt error).reply.status := by
  have ends := (@run_of_shown session _ _ _ _ (Exam.start student assignmentId
      (Handle.accessCode (session.signed request credential))) Refusal.ofAttempt
      (fun shown => shown.1.view session.now (some shown.2)) _ asks.called
      (Action.bind_apply_of_ok (Handle.caller_eq_ok asks.known))).1
  rw [asks.brings, refused] at ends
  rw [ends]
  exact congrArg some (Server.status_sent _ _ _)

/-- In every state that a service has reached, an assignment that is accepted
with an access code is guarded by that code from then on: as far as hashes do
not collide, a start is refused for its access code exactly if what the student
brings has another canonical form, or if the student brings none.  The code that
is shown when the assignment is made has the canonical form that is asked for.
An assignment without a code refuses nobody for it. -/
theorem access_codes_guard_assignments (lawful : opening.store.Lawful)
    (unused : opening.store.attempts = []) (run : Serves true opening session)
    (asks : session.AsksToAssign author form request credential)
    (accepted : (session.run (.call request credential)).1.result.IsSuccess) :
    let answered := session.run (.call request credential)
    ∃ row ∈ answered.2.store.assignments,
        row.id ∉ session.store.assignments.map (·.id) ∧
        session.Shows request credential
          (row.view (Exam.rosterIds form.studentIds)
            (Exam.codeOf form session.context)) ∧
        ∀ later, Serves true answered.2 later →
          ∃ current ∈ later.store.assignments, current.id = row.id ∧
            (∀ code, form.AsksForCode session.drawnCode code →
              AccessCode.Guards current.accessCodeHash code ∧
              ∃ shown, Exam.codeOf form session.context = some shown ∧
                AccessCode.canonical shown = AccessCode.canonical code) ∧
            (form.accessCode = none → form.generateAccessCode = false →
              Exam.codeOf form session.context = none ∧ ∀ supplied,
                AccessCode.admits current.accessCodeHash supplied = true) ∧
            ∀ student supplied, later.store.CanReach [.assignments, .roster] →
              current.window later.now = .open →
              ⟨row.id, student.id⟩ ∈ later.store.roster →
              ((later.started student row.id supplied).1 =
                .error (.refused .wrongAccessCode) ↔
                AccessCode.admits current.accessCodeHash supplied = false) ∧
              ∀ seen shown,
                later.AsksToStart student row.id supplied seen shown →
                AccessCode.admits current.accessCodeHash supplied = false →
                (later.run (.call seen shown)).1.result.status? = some 403 := by
  intro answered
  have sound := (Serves.sound run (isSound_of_no_attempts lawful unused)).1
  have sound' : answered.2.IsSound := sound.call request credential
  have bounds := AssignmentForm.keepsBounds (read_of_taken asks.taken).2
  obtain ⟨test, row, after, passes, stored, left, shows⟩ :=
    asks.exists_stored accepted
  obtain ⟨-, hash, fresh, listed, holds⟩ := Exam.holdsAssigned_of_stored
    sound.lawful bounds (passes.isKey sound.lawful) stored
  refine ⟨row, left ▸ listed, fresh, shows, fun later run' => ?_⟩
  have lawful' := (Serves.sound run' sound').1.lawful
  obtain ⟨current, present, becomes⟩ :=
    (Serves.keepsAssigned run' sound' (left ▸ holds)).listed
  rw [← becomes.accessCodeHash_eq] at hash
  rw [← becomes.id_eq]
  refine ⟨current, present, rfl, fun code asked => ?_, fun given draw => ?_, ?_⟩
  · obtain ⟨shown, code?, same⟩ :=
      @Exam.codeOf_of_asksForCode session.context form code asked
    have kept : current.accessCodeHash = some (AccessCode.hash code) := by
      rw [hash, code?, Option.map_some, AccessCode.hash_eq_of_canonical same]
    exact ⟨kept ▸ AccessCode.guards_hash code, shown, code?, same⟩
  · have none := @Exam.codeOf_eq_none session.context form given draw
    refine ⟨none, fun supplied => ?_⟩
    rw [hash, none]
    rfl
  · intro student supplied reach window enrolled
    obtain ⟨refused, halts⟩ :=
      @Exam.start_wrongAccessCode_iff current later.context
        ⟨later.store, []⟩ student supplied lawful' reach present window enrolled
    refine ⟨refused, fun seen shown starts wrong => ?_⟩
    exact starts.status?_of_refused (congrArg Prod.fst (halts wrong))

/-- The assignment lets in who brings its code in other letters, and nobody
without it or with another code. -/
theorem blankRequest_guards_assignment :
    ∃ current ∈
      ((withOneStudent Column.origin).run
        (.call blankRequest owner)).2.store.assignments,
      AccessCode.admits current.accessCodeHash (some "Ss") = true ∧
      AccessCode.admits current.accessCodeHash (some "sz") = false ∧
      AccessCode.admits current.accessCodeHash none = false := by
  obtain ⟨row, -, -, -, later⟩ :=
    access_codes_guard_assignments (withOneStudent_lawful Column.origin)
      rfl .refl blankRequest_asksToAssign blankRequest_succeeds
  obtain ⟨current, listed, -, codes, -⟩ := later _ .refl
  obtain ⟨guards, -⟩ := codes _ (.inl rfl)
  have apart : AccessCode.AreApart "sz" " \u00DF  " := by
    have different : Sha256.hash (Text.utf8 (AccessCode.canonical "sz")) ≠
        Sha256.hash (Text.utf8 (AccessCode.canonical " \u00DF  ")) := by
      decide +kernel
    exact Set.injOn_pair.mpr fun same => absurd same different
  refine ⟨current, listed, guards.accepts _ (by decide +kernel), ?_,
    guards.required⟩
  rw [Bool.eq_false_iff, ne_eq, guards.exact _ apart]
  decide +kernel

end Session

end ExamHall
