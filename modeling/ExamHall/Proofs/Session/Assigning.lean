import ExamHall.Proofs.Exam.Registering
import ExamHall.Proofs.Session.Batching

/-!
# What is assigned is what was asked for

A request to assign a test is answered in the order of its checks.  This is what
becomes of the times that it brings, of what it wants to have stored, and of the
bounds of its form.
-/

namespace ExamHall

namespace Session

open Store

variable {opening session : Session} {author : Caller} {form : AssignmentForm}
  {test : GeneratedTest} {request : HttpRequest} {credential : Credential}

/-! ## Requests to assign a test -/

/-- A request is one of an author who asks to assign a test, and brings a form
that keeps its bounds. -/
structure AsksToAssign (session : Session) (author : Caller)
    (form : AssignmentForm) (request : HttpRequest) (credential : Credential) :
    Prop where
  called : Server.called? session.settings (session.signed request credential) =
    some .assign
  author : Handle.IsFromAuthor session.context
    (session.signed request credential) author
  taken : Handle.taken? (session.signed request credential) AssignmentForm.form
    AssignmentForm.faults = some form

/-- A request is one of an author who asks to see an assignment. -/
structure AsksToSeeAssignment (session : Session) (viewer : Caller)
    (assignmentId : String) (request : HttpRequest) (credential : Credential) :
    Prop where
  called : Server.called? session.settings (session.signed request credential) =
    some (.showAssignment assignmentId)
  viewer : Handle.IsFromAuthor session.context
    (session.signed request credential) viewer

/-- How a request to assign a test ends. -/
abbrev assigned (session : Session) (author : Caller) (form : AssignmentForm) :
    Except (Halt AssigningError) Exam.Assigned × World :=
  Exam.assign author form session.context ⟨session.store, []⟩

theorem AsksToAssign.assigns
    (asks : session.AsksToAssign author form request credential) :
    let ended := session.assigned author form
    (session.run (.call request credential)).1.result = resultOf (Server.told
        (Server.sent session.settings (session.signed request credential))
        ((ended.1.map Handle.assignedView).mapError
          (Halt.map Refusal.ofAssigning))) ∧
      (session.run (.call request credential)).2.store = ended.2.store := by
  apply run_of_shown asks.called
  apply (Action.bind_apply_of_ok asks.author.author_eq_ok).trans
  exact Action.bind_apply_of_ok (Handle.bounded_of_taken asks.taken _)

theorem AsksToAssign.outOfRange_iff
    (asks : session.AsksToAssign author form request credential) :
    (session.run (.call request credential)).1.result = .outOfRange ↔
      (session.assigned author form).1 = .error .outOfRange := by
  rw [asks.assigns.1]
  rcases (session.assigned author form).1 with (error | _) | shown
  · exact ⟨nofun, nofun⟩
  · exact ⟨fun _ => rfl, fun _ => rfl⟩
  · exact ⟨nofun, nofun⟩

theorem AsksToAssign.status?_of_refused {error : AssigningError}
    (asks : session.AsksToAssign author form request credential)
    (refused : (session.assigned author form).1 = .error (.refused error)) :
    (session.run (.call request credential)).1.result.status? =
      some (Refusal.assigningError error).status := by
  rw [asks.assigns.1, refused]
  exact congrArg some (Server.status_sent _ _ _)

theorem AsksToAssign.shows_of_ok {shown : Exam.Assigned}
    (asks : session.AsksToAssign author form request credential)
    (ended : (session.assigned author form).1 = .ok shown) :
    session.Shows request credential (Handle.assignedView shown) := by
  rw [Shows, asks.assigns.1, ended]
  rfl

/-- Only what has been assigned is answered with success. -/
theorem AsksToAssign.ok_of_success
    (asks : session.AsksToAssign author form request credential)
    (accepted : (session.run (.call request credential)).1.result.IsSuccess) :
    ∃ shown, (session.assigned author form).1 = .ok shown := by
  rw [asks.assigns.1] at accepted
  rcases ended : (session.assigned author form).1 with (error | _) | shown
  · rw [ended] at accepted
    exact (not_isSuccess_explained _ _ _ accepted).elim
  · rw [ended] at accepted
    obtain ⟨status, none, -⟩ := accepted
    cases none
  · exact ⟨shown, rfl⟩

/-! ## Windows -/

/-- The times of a form that has been taken from a request can be brought into
UTC, and are compared as the instants that they are, unless one of them lies
beyond the calendar.  That takes the last day of the calendar, and an offset
west of UTC: then the request breaks off. -/
theorem windows_leave_the_calendar_at_its_end {sent : HttpRequest}
    (taken : Handle.taken? sent AssignmentForm.form AssignmentForm.faults =
      some form) :
    (∀ time ∈ [form.startsAt, form.endsAt], Calendar.start ≤ time.utc ∧
      (time.utc < Calendar.stop → time.utc? = some time.utc) ∧
      (Calendar.stop ≤ time.utc → time.utc? = none ∧ time.offsetMinutes < 0 ∧
        Calendar.stop.nanos - Instant.day < time.localTime.nanos)) ∧
    ∀ (session : Session)
      (author : Caller) (request : HttpRequest) (credential : Credential),
      session.AsksToAssign author form request credential →
        let ended := (session.assigned author form).1
        let answered := session.run (.call request credential)
        (answered.1.result = .outOfRange ↔
          Calendar.stop ≤ form.startsAt.utc ∨ Calendar.stop ≤ form.endsAt.utc) ∧
        (form.startsAt.utc < Calendar.stop → form.endsAt.utc < Calendar.stop →
          (ended = .error (.refused .endsBeforeStart) ↔
            form.endsAt.utc ≤ form.startsAt.utc)) ∧
        (ended = .error (.refused .endsBeforeStart) →
          answered.1.result.status? = some 400) := by
  obtain ⟨read, -⟩ := read_of_taken taken
  obtain ⟨json, read⟩ := exists_of_read read
  obtain ⟨starts, ends⟩ := AssignmentForm.times_isRead read
  have converts : ∀ time : Calendar.OffsetTime, time.IsRead →
      Calendar.start ≤ time.utc ∧
      (time.utc < Calendar.stop → time.utc? = some time.utc) ∧
      (Calendar.stop ≤ time.utc → time.utc? = none ∧ time.offsetMinutes < 0 ∧
        Calendar.stop.nanos - Instant.day < time.localTime.nanos) := by
    intro time read
    exact ⟨read.start_le_utc, fun inside =>
        Exam.utc?_of_holds (read.holds_utc_iff.mpr inside), fun late =>
        ⟨Exam.utc?_of_not_holds (read.holds_utc_eq_false_iff.mpr late),
          read.of_stop_le_utc late⟩⟩
  constructor
  · simp only [List.forall_mem_cons]
    exact ⟨converts _ starts, converts _ ends, List.forall_mem_nil _⟩
  intro session author request credential asks ended answered
  have outcome : Exam.AssignEnds session.context session.store author form ended
      (session.assigned author form).2.store :=
    @Exam.assign_ends session.context author form ⟨session.store, []⟩
  refine ⟨?_, fun early late =>
      outcome.endsBeforeStart_iff (starts.holds_utc_iff.mpr early)
        (ends.holds_utc_iff.mpr late), asks.status?_of_refused⟩
  rw [asks.outOfRange_iff, outcome.outOfRange_iff,
    starts.holds_utc_eq_false_iff, ends.holds_utc_eq_false_iff]

/-- A request to assign a test with a document. -/
def assigningRequest (body : String) : HttpRequest :=
  ⟨.post, "/assignments", "", [("content-type", "application/json")], body⟩

/-- What the owner of the test sends in a document is taken. -/
theorem withOneStudent_asksToAssign {body : String}
    (read : AssignmentForm.form.readLeading (Text.utf8 body) = .ok form)
    (kept : form.faults = []) :
    (withOneStudent Column.origin).AsksToAssign ⟨"o", .teacher⟩ form
      (assigningRequest body) owner := by
  have called : Server.called? (withOneStudent Column.origin).settings
      (assigningRequest "") = some .assign := by
    decide
  refine ⟨?_, ⟨owner_known _ rfl rfl, rfl⟩, ?_⟩
  · rw [called?_signed,
      @called?_congr _ (assigningRequest body) (assigningRequest "")
      rfl rfl, called]
  · rw [Handle.taken?, read_of_readLeading _ owner rfl read]
    exact if_pos kept

/-- A document that asks for an assignment of a minute. -/
def assignmentBody (title students startsAt endsAt accessCode : String) :
    String :=
  "\x7b\"generated_test_id\":\"t\",\"title\":\"" ++ title ++
    "\",\"student_ids\":[" ++ students ++
      "],\"starts_at\":\"" ++ startsAt ++ "\",\"ends_at\":\"" ++ endsAt ++
        "\",\"duration_minutes\":1,\"access_code\":" ++ accessCode ++ "\x7d"

/-- The form of such a document. -/
def assignmentForm (title : String) (studentIds : List String)
    (startsAt endsAt : Calendar.OffsetTime) (accessCode : Option String) :
    AssignmentForm :=
  ⟨"t", title, studentIds, startsAt, endsAt, 1, 1, true, accessCode, false, 0,
    .warn, .active⟩

/-- An hour of the last day of the calendar, two hours west of UTC. -/
def lateForm : AssignmentForm :=
  assignmentForm "T" ["s"] ⟨Calendar.Civil.instant ⟨9999, 12, 31, 22, 0, 0, 0⟩,
    -120⟩ ⟨Calendar.Civil.instant ⟨9999, 12, 31, 23, 0, 0, 0⟩, -120⟩ none

/-- The request of the owner of the test for that hour. -/
def lateRequest : HttpRequest :=
  assigningRequest (assignmentBody "T" "\"s\"" "9999-12-31T22:00:00-02:00"
      "9999-12-31T23:00:00-02:00" "null")

theorem lateRequest_asksToAssign :
    (withOneStudent Column.origin).AsksToAssign ⟨"o", .teacher⟩ lateForm
      lateRequest owner :=
  withOneStudent_asksToAssign (by decide +kernel) (by decide)

/-- The owner of the test asks for an hour that ends beyond the calendar, and
the request breaks off. -/
theorem lateRequest_breaks_off :
    let service := withOneStudent Column.origin
    Handle.taken? (service.signed lateRequest owner) AssignmentForm.form
      AssignmentForm.faults = some lateForm ∧
      Calendar.stop ≤ lateForm.endsAt.utc ∧ lateForm.endsAt.utc? = none ∧
      (service.run (.call lateRequest owner)).1.result = .outOfRange := by
  have late : Calendar.stop ≤ lateForm.endsAt.utc := by decide
  have asks := lateRequest_asksToAssign
  obtain ⟨times, ends⟩ := windows_leave_the_calendar_at_its_end asks.taken
  exact ⟨asks.taken, late, ((times _ (by simp)).2.2 late).1,
    (ends _ _ _ _ asks).1.mpr (.inr late)⟩

/-- A request that brings times in an accepted form may break off. -/
theorem accepted_window_may_break_off :
    ¬∀ (session : Session) (author : Caller)
      (form : AssignmentForm) (request : HttpRequest) (credential : Credential),
      session.AsksToAssign author form request credential →
      form.startsAt.utc?.isSome ∧ form.endsAt.utc?.isSome ∧
      (session.run (.call request credential)).1.result ≠ .outOfRange := by
  intro claimed
  obtain ⟨-, converted, -⟩ := claimed _ _ _ _ _ lateRequest_asksToAssign
  have none : lateForm.endsAt.utc?.isSome = false := by decide
  exact Bool.false_ne_true (none.symm.trans converted)

/-! ## What is stored -/

/-- A call is a run of one step. -/
theorem Serves.call (session : Session) (request : HttpRequest)
    (credential : Credential) :
    Serves true session (session.run (.call request credential)).2 :=
  .single ⟨.call request credential, trivial, rfl⟩

/-- A session stays sound when it is called. -/
theorem IsSound.call (sound : session.IsSound) (request : HttpRequest)
    (credential : Credential) :
    (session.run (.call request credential)).2.IsSound :=
  (Serves.sound (Serves.call session request credential) sound).1

/-- An assignment that is held stays held, whatever is asked for later. -/
theorem Serves.keepsAssigned {later : Session} {row : Assignment}
    {studentIds : List String}
    (run : Serves true session later) (sound : session.IsSound)
    (holds : session.store.HoldsAssigned row studentIds) :
    later.store.HoldsAssigned row studentIds :=
  Serves.keeps run sound (fun change _ => change.holdsAssigned)
    (fun holds => ⟨holds.listed, holds.roster⟩) holds

/-- Who asks to see an assignment that is held and may manage it is shown its
row and its roster, in the order of the store. -/
theorem AsksToSeeAssignment.shows {viewer : Caller} {row : Assignment}
    {studentIds : List String}
    (asks : session.AsksToSeeAssignment viewer row.id request credential)
    (lawful : session.store.Lawful)
    (reach : session.store.CanReach [.assignments, .roster])
    (holds : session.store.HoldsAssigned row studentIds)
    (manages : viewer.mayManage row.ownerId = true) :
    ∃ current ∈ session.store.assignments, row.Becomes current ∧
      session.Shows request credential
        (current.view (session.store.collation.sort studentIds) none) := by
  obtain ⟨current, becomes, listed, shown⟩ :=
    @Exam.showAssignment_of_holds row studentIds
      session.context ⟨session.store, []⟩ viewer lawful reach holds manages
  have ends :=
    (@run_of_shown session _ _ _ _ (Exam.showAssignment viewer row.id)
      Refusal.ofAssigning Handle.assignedView _ asks.called
      (Action.bind_apply_of_ok asks.viewer.author_eq_ok)).1
  rw [shown] at ends
  exact ⟨current, listed, becomes, ends⟩

/-- A form that passes the checks, in tables that can be reached, ends as its
transaction does. -/
theorem assigned_of_passes (lawful : session.store.Lawful)
    (reach : session.store.CanReach [.tests, .assignments, .roster])
    (passes : Exam.Passes session.store author form test) :
    session.assigned author form =
      Exam.storing author form session.context ⟨session.store, []⟩ :=
  @Exam.assign_of_passes session.context author form ⟨session.store, []⟩ test
    lawful.tests (reach.of_subset (by decide)) passes

/-- A form that passes the checks and that the tables can take is stored and
shown. -/
theorem AsksToAssign.exists_storesForm
    (asks : session.AsksToAssign author form request credential)
    (lawful : session.store.Lawful)
    (reach : session.store.CanReach [.tests, .assignments, .roster])
    (passes : Exam.Passes session.store author form test)
    (owner : FitsId author.id) (storable : form.IsStorable) :
    ∃ row, Exam.StoresForm session.context session.store author form row
        (session.run (.call request credential)).2.store ∧
      session.Shows request credential
        (row.view (Exam.rosterIds form.studentIds)
          (Exam.codeOf form session.context)) := by
  have bounds := AssignmentForm.keepsBounds (read_of_taken asks.taken).2
  obtain ⟨row, after, stores, stored⟩ :=
    @Exam.exists_stored session.store session.context author form
      test lawful (reach.of_subset (by decide)) bounds passes owner storable
  have ended := assigned_of_passes lawful reach passes
  rw [@Exam.storing_of_ok session.context author form ⟨session.store, []⟩ _ _
    stored] at ended
  have left : (session.run (.call request credential)).2.store = after :=
    asks.assigns.2.trans (congrArg (·.2.store) ended)
  exact ⟨row, left ▸ stores, asks.shows_of_ok (congrArg Prod.fst ended)⟩

/-- A form that passes the checks but that the tables cannot take leaves them as
they are. -/
theorem AsksToAssign.fails
    (asks : session.AsksToAssign author form request credential)
    (lawful : session.store.Lawful)
    (reach : session.store.CanReach [.tests, .assignments, .roster])
    (passes : Exam.Passes session.store author form test)
    (unfit : ¬(Column.hasNul author.id = false ∧ form.IsStorable)) :
    (session.run (.call request credential)).1.result.status? = some 500 ∧
    (session.run (.call request credential)).2.store = session.store := by
  have ended := assigned_of_passes lawful reach passes
  rcases stored :
    Exam.assignTransaction (Exam.assignmentOf author form session.context)
      (Exam.rosterIds form.studentIds) session.store with halt | ⟨row, after⟩
  · obtain ⟨stage, rfl⟩ := Exam.assignTransaction_error stored
    rw [@Exam.storing_of_error session.context author form ⟨session.store, []⟩ _
      stored] at ended
    exact ⟨asks.status?_of_refused (congrArg Prod.fst ended),
      asks.assigns.2.trans (congrArg (·.2.store) ended)⟩
  · exact absurd (Exam.isStorable_of_stored (passes.isKey lawful) stored).symm
      unfit

/-- In every state that a service has reached, a form that passes the checks is
stored if the tables can take it: the row keeps every column, check and key, as
do the entries of the roster, the request is answered with what is stored, and
whoever manages the assignment is later shown the same, but for its being
closed, and with the students in the order in which the store sorts texts.  If
the tables cannot take it, the request fails and nothing is stored. -/
theorem assignments_are_stored_if_storable (lawful : opening.store.Lawful)
    (unused : opening.store.attempts = []) (run : Serves true opening session)
    (asks : session.AsksToAssign author form request credential)
    (reach : session.store.CanReach [.tests, .assignments, .roster])
    (passes : Exam.Passes session.store author form test)
    (author_short : author.id.length ≤ Column.idWidth) :
    let answered := session.run (.call request credential)
    let studentIds := Exam.rosterIds form.studentIds
    let sorted := session.store.collation.sort studentIds
    sorted.Perm studentIds ∧
    (session.store.collation = .byCode → sorted = studentIds) ∧
    (Column.hasNul author.id = false → form.IsStorable → ∃ row,
      Exam.StoresForm session.context session.store author form row
        answered.2.store ∧
      answered.2.store.Lawful ∧
      session.Shows request credential
        (row.view studentIds (Exam.codeOf form session.context)) ∧
      ∀ later viewer seen shown, Serves true answered.2 later →
        later.store.CanReach [.assignments, .roster] →
        viewer.mayManage author.id = true →
        later.AsksToSeeAssignment viewer row.id seen shown →
        ∃ current ∈ later.store.assignments, row.Becomes current ∧
          later.Shows seen shown (current.view sorted none)) ∧
    (¬(Column.hasNul author.id = false ∧ form.IsStorable) →
      answered.1.result.status? = some 500 ∧
      answered.2.store = session.store) := by
  intro answered studentIds sorted
  have sound := (Serves.sound run (isSound_of_no_attempts lawful unused)).1
  refine ⟨Collation.sortBy_perm _ _ _, fun byCode => ?_,
    fun plain storable => ?_, asks.fails sound.lawful reach passes⟩
  · exact (congrArg (·.sort studentIds) byCode).trans
      (Collation.sort_byCode (Exam.pairwise_rosterIds form.studentIds))
  obtain ⟨row, stores, shows⟩ := asks.exists_storesForm sound.lawful reach
    passes ⟨plain, author_short⟩ storable
  have sound' : answered.2.IsSound := sound.call request credential
  have holds : answered.2.store.HoldsAssigned row studentIds :=
    stores.holdsAssigned sound.lawful
  have owned : row.ownerId = author.id := by
    rw [stores.made]
    rfl
  refine ⟨row, stores, sound'.lawful, shows, ?_⟩
  intro later viewer seen shown run' reach' manages asks'
  have sorts : later.store.collation = session.store.collation :=
    (run'.collation sound').trans
      ((Serves.call session request credential).collation sound)
  have seen := asks'.shows (Serves.sound run' sound').1.lawful reach'
    (Serves.keepsAssigned run' sound' holds) (owned ▸ manages)
  rwa [sorts] at seen

/-- The test of the small service. -/
def onlyTest : GeneratedTest :=
  { id := "t", ownerId := "o", title := "T", mode := .manual, subjectId := none,
    topicId := none
    requestedCount := 1, percentages := ⟨100, 0, 0⟩, counts := ⟨1, 0, 0⟩
    shuffleQuestions := false, shuffleOptions := false, variantCount := 1,
    seed := 0
    createdAt := Column.origin }

/-- A form for two days around the start of the year 2000.  Its title is blank,
its access code has two letters in upper case, and its roster has one
student. -/
def blankForm : AssignmentForm :=
  assignmentForm "    " [" s ", "s", " "]
    ⟨Calendar.Civil.instant ⟨1999, 12, 31, 1, 0, 0, 0⟩, 120⟩
    ⟨Calendar.Civil.instant ⟨2000, 1, 2, 0, 0, 0, 0⟩, 0⟩ (some " \u00DF  ")

/-- The request of the owner of the test with that form. -/
def blankRequest : HttpRequest :=
  assigningRequest (assignmentBody "    " "\" s \",\"s\",\" \""
      "1999-12-31T01:00:00+02:00" "2000-01-02T00:00" "\" \u00DF  \"")

theorem blankRequest_asksToAssign :
    (withOneStudent Column.origin).AsksToAssign ⟨"o", .teacher⟩ blankForm
      blankRequest owner :=
  withOneStudent_asksToAssign (by decide +kernel) (by decide)

theorem mem_rosterIds_blankForm (id : String) :
    id ∈ Exam.rosterIds blankForm.studentIds ↔ id = "s" := by
  have trimmed : Text.trim " s " = "s" ∧ Text.trim "s" = "s" ∧
    Text.trim " " = "" := by decide
  rw [Exam.mem_rosterIds]
  simp only [blankForm, assignmentForm, List.mem_cons, List.not_mem_nil,
    or_false, exists_eq_or_imp, exists_eq_left, trimmed]
  grind

theorem blankForm_passes :
    Exam.Passes (withOneStudent Column.origin).store ⟨"o", .teacher⟩ blankForm
      onlyTest where
  startsAt := by decide
  endsAt := by decide
  window := by decide
  listed := List.mem_singleton_self _
  asked := rfl
  manages := by decide
  roster := List.ne_nil_of_mem ((mem_rosterIds_blankForm _).mpr rfl)

theorem blankForm_isStorable : blankForm.IsStorable where
  testId := ⟨by decide, by decide⟩
  title := by decide
  early := by decide
  students id listed :=
    (mem_rosterIds_blankForm id).mp listed ▸ ⟨by decide, by decide⟩
  window := by decide

theorem blankRequest_succeeds :
    ((withOneStudent Column.origin).run
      (.call blankRequest owner)).1.result.IsSuccess := by
  obtain ⟨row, -, shows⟩ := blankRequest_asksToAssign.exists_storesForm
    (withOneStudent_lawful Column.origin)
    (fun _ _ lost => List.not_mem_nil lost) blankForm_passes
    ⟨by decide, by decide⟩ blankForm_isStorable
  exact shows ▸ Server.shows_isSuccess _ _ _

/-- The owner of the test has it assigned, and is answered with the row that is
stored. -/
theorem blankRequest_is_stored :
    ∃ row, Exam.StoresForm (withOneStudent Column.origin).context
        (withOneStudent Column.origin).store ⟨"o", .teacher⟩ blankForm row
        ((withOneStudent Column.origin).run
          (.call blankRequest owner)).2.store ∧
      (withOneStudent Column.origin).Shows blankRequest owner
        (row.view (Exam.rosterIds blankForm.studentIds)
          (Exam.codeOf blankForm (withOneStudent Column.origin).context)) := by
  obtain ⟨-, -, stored, -⟩ := assignments_are_stored_if_storable
    (withOneStudent_lawful Column.origin) rfl .refl blankRequest_asksToAssign
    (fun _ _ lost => List.not_mem_nil lost) blankForm_passes (by decide)
  obtain ⟨row, stores, -, shows, -⟩ := stored (by decide) blankForm_isStorable
  exact ⟨row, stores, shows⟩

/-- A form with an id on its roster that is too long for its column. -/
def longForm : AssignmentForm :=
  assignmentForm "T"
    ["xxxxxxxxxxxxxxxxxxxxxxxxxxxxxxxxxxxxxxxxxxxxxxxxxxxxxxxxxxxxxxxxx"]
    ⟨Calendar.Civil.instant ⟨2000, 1, 1, 0, 0, 0, 0⟩,
      0⟩ ⟨Calendar.Civil.instant ⟨2000, 1, 2, 0, 0, 0, 0⟩, 0⟩ none

/-- The request of the owner of the test with that form. -/
def longRequest : HttpRequest :=
  assigningRequest (assignmentBody "T"
      "\"xxxxxxxxxxxxxxxxxxxxxxxxxxxxxxxxxxxxxxxxxxxxxxxxxxxxxxxxxxxxxxxxx\""
      "2000-01-01T00:00" "2000-01-02T00:00" "null")

theorem mem_rosterIds_longForm :
    ∀ id ∈ longForm.studentIds, id ∈ Exam.rosterIds longForm.studentIds := by
  intro id listed
  have trimmed : ∀ id ∈ longForm.studentIds, id ≠ "" ∧
    Text.trim id = id := by decide
  exact Exam.mem_rosterIds.mpr ⟨(trimmed id listed).1, id, listed,
    (trimmed id listed).2⟩

theorem longForm_passes :
    Exam.Passes (withOneStudent Column.origin).store ⟨"o", .teacher⟩ longForm
      onlyTest where
  startsAt := by decide
  endsAt := by decide
  window := by decide
  listed := List.mem_singleton_self _
  asked := rfl
  manages := by decide
  roster :=
    List.ne_nil_of_mem (mem_rosterIds_longForm _ (List.mem_singleton_self _))

theorem longForm_not_isStorable : ¬longForm.IsStorable := by
  intro storable
  have fits :=
    storable.students _ (mem_rosterIds_longForm _ (List.mem_singleton_self _))
  exact absurd fits.short (by decide)

/-- A form that passes all checks is not stored if it has an id on its roster
that is too long. -/
theorem long_student_id_is_not_stored :
    ¬∀ (opening session : Session) (author : Caller) (form : AssignmentForm)
      (test : GeneratedTest) (request : HttpRequest) (credential : Credential),
      opening.store.Lawful → opening.store.attempts = [] →
      Serves true opening session →
      session.AsksToAssign author form request credential →
      session.store.CanReach [.tests, .assignments, .roster] →
      Exam.Passes session.store author form test →
      author.id.length ≤ Column.idWidth → test.id.length ≤ Column.idWidth →
      (session.run (.call request credential)).1.result.status? = some 200 := by
  intro claimed
  have asks : (withOneStudent Column.origin).AsksToAssign
      ⟨"o", .teacher⟩ longForm longRequest owner :=
    withOneStudent_asksToAssign (by decide +kernel) (by decide)
  have stored := claimed _ _ _ _ _ _ _ (withOneStudent_lawful Column.origin)
    rfl .refl asks (fun _ _ lost => List.not_mem_nil lost) longForm_passes
    (by decide) (by decide)
  obtain ⟨failed, -⟩ := asks.fails (withOneStudent_lawful Column.origin)
    (fun _ _ lost => List.not_mem_nil lost) longForm_passes fun fits =>
      longForm_not_isStorable fits.2
  cases failed.symm.trans stored

/-! ## Bounds -/

/-- A request that is answered with success has stored an assignment. -/
theorem AsksToAssign.exists_stored
    (asks : session.AsksToAssign author form request credential)
    (accepted : (session.run (.call request credential)).1.result.IsSuccess) :
    ∃ test row after, Exam.Passes session.store author form test ∧
      Exam.assignTransaction (Exam.assignmentOf author form session.context)
        (Exam.rosterIds form.studentIds) session.store = .ok (row, after) ∧
      (session.run (.call request credential)).2.store = after ∧
      session.Shows request credential
        (row.view (Exam.rosterIds form.studentIds)
          (Exam.codeOf form session.context)) := by
  obtain ⟨shown, ended⟩ := asks.ok_of_success accepted
  have shows := asks.shows_of_ok ended
  have left := asks.assigns.2
  have outcome : Exam.AssignEnds session.context session.store author form
      (session.assigned author form).1 (session.assigned author form).2.store :=
    @Exam.assign_ends session.context author form ⟨session.store, []⟩
  rw [ended, ← left] at outcome
  generalize (session.run (.call request credential)).2.store = after at outcome
  cases outcome with
  | assigned passes stored => exact ⟨_, _, _, passes, stored, rfl, shows⟩

/-- What is stored of an accepted form keeps the bounds of the form, but for two
of them.  A title can be left without characters, if it is blank; and an access
code is as long as it is without the blanks around it and with its letters in
upper case. -/
theorem stored_values_keep_bounds_of_form (lawful : opening.store.Lawful)
    (unused : opening.store.attempts = []) (run : Serves true opening session)
    (asks : session.AsksToAssign author form request credential)
    (accepted : (session.run (.call request credential)).1.result.IsSuccess) :
    let answered := session.run (.call request credential)
    let ids := Exam.rosterIds form.studentIds
    ∃ row ∈ answered.2.store.assignments,
        row.id ∉ session.store.assignments.map (·.id) ∧
        session.Shows request credential
          (row.view ids (Exam.codeOf form session.context)) ∧
        (row.title = Text.trim form.title ∧ row.title.length ≤ 255 ∧
          (1 ≤ row.title.length ↔ Text.isBlankText form.title = false)) ∧
        (∀ given, form.accessCode = some given → ∃ code,
          Exam.codeOf form session.context = some code ∧
          row.accessCodeHash = some (Text.hex (Sha256.hash (Text.utf8 code))) ∧
          (Text.trim given).length ≤ code.length ∧
          code.length ≤ 3 * (Text.trim given).length ∧
          ((∀ c ∈ (Text.trim given).toList, (Text.upperChar c).length = 1) →
            code.length = (Text.trim given).length ∧ code.length ≤ 64)) ∧
        (answered.2.store.roster.filter fun entry =>
          entry.assignmentId == row.id).map (·.studentId) = ids ∧
        ids.Pairwise (· < ·) ∧ 1 ≤ ids.length ∧ ids.length ≤ 1000 ∧
        ∀ id, id ∈ ids ↔
          id ≠ "" ∧ ∃ given ∈ form.studentIds, Text.trim given = id := by
  intro answered ids
  have sound := (Serves.sound run (isSound_of_no_attempts lawful unused)).1
  have bounds := AssignmentForm.keepsBounds (read_of_taken asks.taken).2
  obtain ⟨test, row, after, passes, stored, left, shows⟩ :=
    asks.exists_stored accepted
  obtain ⟨title, hash, fresh, listed, holds⟩ := Exam.holdsAssigned_of_stored
    sound.lawful bounds (passes.isKey sound.lawful) stored
  refine ⟨row, left ▸ listed, fresh, shows, ⟨title, ?_, ?_⟩, ?_,
    left ▸ holds.roster,
    Exam.pairwise_rosterIds _, List.length_pos_iff.mpr passes.roster,
    (Exam.length_rosterIds_le _).trans bounds.students.2,
    fun id => Exam.mem_rosterIds⟩
  · rw [title]
    exact (Text.length_trim_le form.title).trans bounds.title.2
  · rw [title, ← String.length_toList, Text.toList_trim]
    simp [Text.isBlankText, Nat.one_le_iff_ne_zero]
  · intro given present
    have code : Exam.codeOf form session.context =
        some (AccessCode.canonical given) := by
      simp only [Exam.codeOf, Exam.newAccessCode, present]
    obtain ⟨low, high⟩ := AccessCode.length_canonical_bounds given
    refine ⟨_, code, ?_, low, high, fun single => ?_⟩
    · rw [hash, code, Option.map_some, AccessCode.hash,
        AccessCode.canonical_canonical]
    · have same := AccessCode.length_canonical_of_forall single
      exact ⟨same, same.le.trans
        ((Text.length_trim_le given).trans (bounds.accessCode given present).2)⟩

/-- What is stored of the blank form is trimmed, and its access code has grown
in upper case. -/
theorem blankRequest_stores_trimmed_values :
    ∃ row ∈ ((withOneStudent Column.origin).run
        (.call blankRequest owner)).2.store.assignments,
      row.title.length ≤ 255 ∧
      (1 ≤ row.title.length ↔ Text.isBlankText blankForm.title = false) ∧
      ∃ code,
        Exam.codeOf blankForm (withOneStudent Column.origin).context =
          some code ∧
        row.accessCodeHash =
          some (Text.hex (Sha256.hash (Text.utf8 code))) := by
  obtain ⟨row, listed, -, -, ⟨-, short, blank⟩, codes, -⟩ :=
    stored_values_keep_bounds_of_form (withOneStudent_lawful Column.origin)
      rfl .refl blankRequest_asksToAssign blankRequest_succeeds
  obtain ⟨code, given, hash, -⟩ := codes _ rfl
  exact ⟨row, listed, short, blank, code, given, hash⟩

/-- The title that is stored of an accepted form may be empty, and its access
code may have two characters. -/
theorem accepted_title_may_be_empty_and_code_short :
    ¬∀ (opening session : Session) (author : Caller) (form : AssignmentForm)
      (request : HttpRequest) (credential : Credential),
      opening.store.Lawful → opening.store.attempts = [] →
      Serves true opening session →
      session.AsksToAssign author form request credential →
      (session.run (.call request credential)).1.result.IsSuccess →
      ∀ row ∈ (session.run (.call request credential)).2.store.assignments,
        row.id ∉ session.store.assignments.map (·.id) →
        1 ≤ row.title.length ∨
          ∀ code, Exam.codeOf form session.context = some code →
            4 ≤ code.length := by
  intro claimed
  obtain ⟨_, row, after, passes, stored, left, -⟩ :=
    blankRequest_asksToAssign.exists_stored blankRequest_succeeds
  have bounds :=
    AssignmentForm.keepsBounds (read_of_taken blankRequest_asksToAssign.taken).2
  obtain ⟨title, -, fresh, listed, -⟩ :=
    Exam.holdsAssigned_of_stored (withOneStudent_lawful Column.origin) bounds
      (passes.isKey (withOneStudent_lawful Column.origin)) stored
  have empty : Text.trim blankForm.title = "" := by decide
  have short : AccessCode.canonical " \u00DF  " = "SS" := by decide
  rcases claimed _ _ _ _ _ _ (withOneStudent_lawful Column.origin) rfl .refl
    blankRequest_asksToAssign blankRequest_succeeds row (left ▸ listed) fresh
    with long | long
  · rw [title, empty] at long
    exact absurd long (by decide)
  · exact absurd (long _ (congrArg some short)) (by decide)

end Session

end ExamHall
