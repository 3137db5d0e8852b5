import ExamHall.Proofs.Exam.Meeting
import ExamHall.Proofs.Session.Refusals

/-!
# What is stored is what was generated

A test that an author has got generated is stored as it was answered with.  Its
rows fit their tables, and whatever is asked for later, its managers are shown
the same.  A preview stores nothing.
-/

namespace ExamHall

open Store Json

/-! ## What a request for a test brings -/

theorem asNat_lt {bound value : Nat} {json : Json} (_ : 0 < bound)
    (read : asNat bound json = .ok value) : value < bound := by
  simp only [asNat, exceptMap_eq_ok] at read
  obtain ⟨number, read, rfl⟩ := read
  unfold asInt at read
  split at read
  · split at read
    · cases read
      omega
    · cases read
  · cases read

/-- What an optional field brings has been read. -/
theorem exists_of_optional {α : Type} {fields : Fields} {name : String}
    {decode : Decoder α} {value : α}
    (read : fields.optional name decode = .ok (some value)) :
    ∃ json, decode json = .ok value := by
  unfold Fields.optional Fields.withDefault at read
  split at read
  · next json _ =>
      unfold asOption at read
      split at read
      · cases read
      · obtain ⟨_, read, same⟩ := exceptMap_eq_ok.mp read
        cases same
        exact ⟨json, read⟩
  · cases read

theorem exists_of_read {α : Type} {request : HttpRequest} {form : Json.Form α}
    {value : α} (read : HttpBody.read request form = .ok value) :
    ∃ json, form.decode json = .ok value := by
  unfold HttpBody.read at read
  split at read
  · split at read
    · next found =>
        cases read
        simp only [Form.readLeading, exceptBind_eq_ok] at found
        obtain ⟨json, -, found⟩ := found
        split at found
        · next decoded =>
            cases found
            exact ⟨json, decoded⟩
        · cases found
    all_goals cases read
  · cases read

/-- A seed that a form brings has 64 bits. -/
theorem GenerationForm.seed_lt {json : Json} {form : GenerationForm}
    {seed : Nat} (read : GenerationForm.ofJson json = .ok form)
    (given : form.seed = some seed) : seed < twoTo 64 := by
  simp only [GenerationForm.ofJson, exceptBind_eq_ok] at read
  obtain ⟨_, -, _, -, _, -, _, -, _, -, _, -, _, -, _, -, _, -, _, -, found,
    read, _, -, same⟩ := read
  cases same
  subst given
  obtain ⟨_, read⟩ := exists_of_optional read
  exact asNat_lt (twoTo_pos 64) read

theorem GenerationForm.short_title {form : GenerationForm} {title : String}
    (kept : form.faults = []) (given : form.title = some title) :
    title.length ≤ Column.titleWidth := by
  have short := (List.append_eq_nil_iff.mp kept).1
  rw [given, RangeFault.require] at short
  split at short
  · next fits => exact of_decide_eq_true fits
  · cases short

theorem read_of_taken {α : Type} {request : HttpRequest} {form : Json.Form α}
    {faults : α → List RangeFault} {value : α}
    (taken : Handle.taken? request form faults = some value) :
    HttpBody.read request form = .ok value ∧ faults value = [] := by
  unfold Handle.taken? at taken
  split at taken
  · next read =>
      split at taken
      · next kept =>
          cases taken
          exact ⟨read, kept⟩
      · cases taken
  · cases taken

/-- A request that keeps the bounds of its form can be stored, if the title
can. -/
theorem GenerationForm.isStorable_request {sent : HttpRequest}
    {form : GenerationForm} {wanted : GenerationRequest}
    (taken : Handle.taken? sent GenerationForm.form GenerationForm.faults =
      some form) (made : form.request = .ok wanted)
    (plain : ∀ title, wanted.title = some title → Column.hasNul title = false) :
    wanted.IsStorable := by
  obtain ⟨read, kept⟩ := read_of_taken taken
  obtain ⟨json, read⟩ := exists_of_read read
  obtain ⟨source, -, rfl⟩ := exceptMap_eq_ok.mp made
  exact ⟨plain, fun _ => GenerationForm.short_title kept,
    fun _ => GenerationForm.seed_lt read⟩

namespace Handle

variable {context : Context} {world : World} {sent : HttpRequest}
  {author : Caller}

/-- The caller of a request is an author. -/
structure IsFromAuthor (context : Context) (sent : HttpRequest)
    (author : Caller) : Prop where
  known : Access.caller? context.settings context.now sent = some (.ok author)
  author : author.role.canAuthor = true

theorem IsFromAuthor.author_eq_ok (from' : IsFromAuthor context sent author) :
    Handle.author sent context world = (.ok author, world) := by
  have access : Access.author author = .ok author := if_pos from'.author
  unfold Handle.author
  rw [Action.bind_apply_of_ok (caller_eq_ok from'.known), access]
  rfl

/-- An operation whose result is shown does what the operation does. -/
theorem view_apply {ε α : Type} (operation : Action ε α) (report : ε → Refusal)
    (view : α → Json) :
    (operation.mapError report >>= fun value => pure (view value))
      context world =
      (((operation context world).1.map view).mapError (Halt.map report),
        (operation context world).2) := by
  rw [Action.bind_apply]
  unfold Action.mapError
  rcases operation context world with ⟨(error | _) | value, after⟩ <;> rfl

end Handle

namespace Session

variable {opening session : Session} {author : Caller}
  {wanted : GenerationRequest} {request : HttpRequest} {credential : Credential}
  {draft : TestSheet}

/-- A request is one of an author who asks for a test, and brings a form that
keeps its bounds. -/
structure AsksFor (session : Session) (author : Caller)
    (wanted : GenerationRequest) (request : HttpRequest)
    (credential : Credential) : Prop where
  called : Server.called? session.settings (session.signed request credential) =
    some .generateTest
  author : Handle.IsFromAuthor session.context
    (session.signed request credential) author
  form : ∃ form, Handle.taken? (session.signed request credential)
    GenerationForm.form GenerationForm.faults = some form ∧
    form.request = .ok wanted

/-- A request is one of an author who asks to see a test. -/
structure AsksToSee (session : Session) (viewer : Caller) (testId : String)
    (request : HttpRequest) (credential : Credential) : Prop where
  called : Server.called? session.settings (session.signed request credential) =
    some (.showTest testId)
  viewer : Handle.IsFromAuthor session.context
    (session.signed request credential) viewer

/-- A call is answered with success, and shows a document. -/
def Shows (session : Session) (request : HttpRequest) (credential : Credential)
    (shown : Json) :
    Prop :=
  (session.run (.call request credential)).1.result =
    .replied (Server.sent session.settings (session.signed request credential)
      (Server.replyOf (.ok shown)))

/-- A call whose endpoint shows what an operation gives does what the operation
does, and is answered as that ends. -/
theorem run_of_shown {ε α : Type} {operation : Action ε α}
    {report : ε → Refusal} {view : α → Json} {endpoint : Endpoint}
    (called : Server.called? session.settings
      (session.signed request credential) = some endpoint)
    (same : Handle.endpoint (session.signed request credential) endpoint
      session.context ⟨session.store, []⟩ =
      (operation.mapError report >>= fun value => pure (view value))
        session.context ⟨session.store, []⟩) :
    let ended := operation session.context ⟨session.store, []⟩
    (session.run (.call request credential)).1.result = resultOf (Server.told
        (Server.sent session.settings (session.signed request credential))
        ((ended.1.map view).mapError (Halt.map report))) ∧
      (session.run (.call request credential)).2.store = ended.2.store := by
  obtain ⟨result, left⟩ := run_of_called called
  rw [same, Handle.view_apply] at result left
  exact ⟨result, left⟩

/-- A request for a test does what generating the test does, and shows the
sheet. -/
theorem AsksFor.generates
    (asks : session.AsksFor author wanted request credential) :
    let ended := Exam.generate author wanted session.context ⟨session.store, []⟩
    (session.run (.call request credential)).1.result = resultOf (Server.told
        (Server.sent session.settings (session.signed request credential))
        ((ended.1.map TestSheet.view).mapError
          (Halt.map Refusal.ofGeneration))) ∧
      (session.run (.call request credential)).2.store = ended.2.store := by
  obtain ⟨form, taken, made⟩ := asks.form
  apply run_of_shown asks.called
  apply (Action.bind_apply_of_ok asks.author.author_eq_ok).trans
  apply (Action.bind_apply_of_ok (Handle.bounded_of_taken taken _)).trans
  rw [made]
  rfl

/-- Who asks to see a test that is held and may manage it is shown its sheet. -/
theorem AsksToSee.shows {viewer : Caller} {test : GeneratedTest}
    {sheet : TestSheet}
    (asks : session.AsksToSee viewer test.id request credential)
    (lawful : session.store.Lawful)
    (reach : session.store.CanReach [.tests, .variants])
    (holds : session.store.Holds test sheet)
    (manages : viewer.mayManage test.ownerId = true) :
    session.Shows request credential sheet.view := by
  have shown := @Exam.showTest_of_holds test sheet session.context
    ⟨session.store, []⟩ viewer lawful.tests reach holds manages
  have ends := (@run_of_shown session _ _ _ _ (Exam.showTest viewer test.id)
      Refusal.ofGeneration TestSheet.view _ asks.called
      (Action.bind_apply_of_ok asks.viewer.author_eq_ok)).1
  rw [shown] at ends
  exact ends

/-! ## What is stored -/

/-- A service leaves the bank alone. -/
theorem Serves.questions {failing : Bool} (run : Serves failing opening session)
    (sound : opening.IsSound) :
    session.store.questions = opening.store.questions := by
  refine @Serves.keeps failing opening session
    (fun store => store.questions = opening.store.questions) run sound
    (fun change _ same => ?_) (fun same => same) rfl
  cases change <;> exact same

/-- In every state that a service has reached, a request for a test is met if it
would be as a preview, and what it stores is what it shows: the rows of the
sheet keep every column, check and key, and whatever is done later, who asks for
the test is shown the same.  A preview stores nothing. -/
theorem stored_tests_are_shown_as_generated (lawful : opening.store.Lawful)
    (unused : opening.store.attempts = [])
    (bank : ∀ row ∈ opening.store.questions, row.IsStorable)
    (run : Serves true opening session)
    (asks : session.AsksFor author wanted request credential) :
    let answered := session.run (.call request credential)
    (wanted.preview = true → answered.2.store = session.store) ∧
    (wanted.preview = false → FitsId author.id →
      (∀ title, wanted.title = some title → Column.hasNul title = false) →
      session.store.CanReach [.tests, .variants] →
      ∀ draft, (Exam.generate author { wanted with preview := true }
          session.context ⟨session.store, []⟩).1 = .ok draft →
        draft.requestedCount < twoTo 31 →
        ∃ sheet test rows issued,
          Exam.StoresSheet session.store author.id draft sheet test rows ∧
          answered.2.store = { session.store with
            tests := session.store.tests ++ [test]
            variants := session.store.variants ++ rows
            issued } ∧
          answered.2.store.Lawful ∧
          session.Shows request credential sheet.view ∧
          ∀ later viewer seen shown, Serves true answered.2 later →
            later.store.CanReach [.tests, .variants] →
            viewer.mayManage author.id = true →
            later.AsksToSee viewer test.id seen shown →
            later.Shows seen shown sheet.view) := by
  intro answered
  have begins := isSound_of_no_attempts lawful unused
  have sound := (Serves.sound run begins).1
  obtain ⟨result, left⟩ := asks.generates
  refine ⟨fun preview => ?_,
    fun stored owner plain reach draft drafts few => ?_⟩
  · rw [left, Exam.store_generate_preview sound.lawful.bank.ids preview]
  · obtain ⟨form, taken, made⟩ := asks.form
    have storable := GenerationForm.isStorable_request taken made plain
    have rows : ∀ row ∈ session.store.questions, row.IsStorable :=
      (Serves.questions run begins).symm ▸ bank
    obtain ⟨sheet, test, rows, issued, stores, ended, after⟩ :=
      @Exam.exists_generated author wanted draft session.context ⟨session.store,
        []⟩ sound.lawful rows owner storable stored reach drafts few
    have follows : Serves true opening answered.2 :=
      .tail run ⟨.call request credential, trivial, rfl⟩
    have holds : answered.2.store.Holds test sheet := by
      rw [left, after]
      exact stores.holds sound.lawful.tests
    refine ⟨sheet, test, rows, issued, stores, left.trans after,
      (Serves.sound follows begins).1.lawful, ?_, ?_⟩
    · rw [Shows, result, ended]
      rfl
    · intro later viewer seen shown run' reach' manages asks'
      have sound' := (Serves.sound follows begins).1
      refine asks'.shows (Serves.sound run' sound').1.lawful reach' ?_
        (stores.owned ▸ manages)
      exact Serves.keeps run' sound' (fun change _ => change.holds)
        (fun holds => ⟨holds.listed, holds.makes⟩) holds

/-! ## A public question -/

/-- The service with one student has a public question, and authors may list one
question. -/
def withPublicQuestion : Session :=
  let service := withOneStudent Column.origin
  { service with
    settings := { service.settings with maxManualIds := 1 }
    store :=
      { service.store with questions := [Exam.truthQuestion "q" "p" true] } }

/-- A request for a test with the public question. -/
def listingRequest : HttpRequest :=
  ⟨.post, "/generation/tests", "", [("content-type", "application/json")],
    "\x7b\"question_ids\":[\"q\"]\x7d"⟩

/-- The form in the request. -/
def listingForm : GenerationForm :=
  ⟨none, none, none, none, none, some ["q"], ⟨1, true, true⟩, none, false⟩

/-- What the request asks for. -/
def listing : GenerationRequest :=
  ⟨none, .manual ["q"], ⟨1, true, true⟩, none, false⟩

theorem withPublicQuestion_lawful : withPublicQuestion.store.Lawful := by
  have service := withOneStudent_lawful Column.origin
  refine ⟨⟨List.nodup_singleton _, ?_, ?_⟩, service.tests, service.assignments,
    service.sittings⟩
  · exact List.forall_mem_singleton.mpr ⟨by decide +kernel, by decide⟩
  · exact List.forall_mem_singleton.mpr (by decide +kernel)

theorem withPublicQuestion_bank :
    ∀ row ∈ withPublicQuestion.store.questions, row.IsStorable :=
  List.forall_mem_singleton.mpr Exam.truthQuestion_isStorable

theorem withPublicQuestion_taken (credential : Credential) :
    Handle.taken? (withPublicQuestion.signed listingRequest credential)
      GenerationForm.form GenerationForm.faults = some listingForm := by
  have read : GenerationForm.form.readLeading (Text.utf8 listingRequest.body) =
      .ok listingForm := by
    decide +kernel
  have names : Headers.isSameName "authorization" "content-type" = false ∧
      Headers.isSameName "content-type" "content-type" = true := by
    decide +kernel
  have json : (some "application/json").filter
      (fun value => value.toList.all Headers.isVisible) =
      some "application/json" ∧
      HttpBody.isJsonType "application/json" = true := by
    decide +kernel
  have type :
      (withPublicQuestion.signed listingRequest credential).headers.visible?
        "content-type" = some "application/json" := by
    cases credential <;>
      simp [signed, authorization, listingRequest, Headers.visible?,
        Headers.find?, names, json]
  have body : (withPublicQuestion.signed listingRequest credential).body =
    listingRequest.body := rfl
  simp only [Handle.taken?, HttpBody.read, type, json, body, read,
    Option.any_some, if_true]
  exact if_pos rfl

theorem withPublicQuestion_asksFor {teacher : String} {credential : Credential}
    (known : Access.caller? withPublicQuestion.settings withPublicQuestion.now
      (withPublicQuestion.signed listingRequest credential) =
      some (.ok ⟨teacher, .teacher⟩)) :
    withPublicQuestion.AsksFor ⟨teacher, .teacher⟩ listing listingRequest
      credential := by
  have called : Server.called? withPublicQuestion.settings listingRequest =
      some .generateTest := by
    decide +kernel
  exact ⟨(called?_signed _ _ _).trans called, ⟨known, rfl⟩, listingForm,
    withPublicQuestion_taken _, rfl⟩

theorem exists_ok_of_any {ε α : Type} {result : Except ε α} {holds : α → Bool}
    (met : result.toOption.any holds = true) :
    ∃ value, result = .ok value ∧ holds value = true := by
  cases result with
  | ok value => exact ⟨value, rfl, met⟩
  | error halt => cases met

/-- The owner of the test has a test generated from the public question, which
is stored as it is shown. -/
theorem withPublicQuestion_shows_as_generated :
    ∃ draft sheet test rows issued,
      Exam.StoresSheet withPublicQuestion.store "o" draft sheet test rows ∧
      (withPublicQuestion.run (.call listingRequest owner)).2.store =
        { withPublicQuestion.store with
          tests := withPublicQuestion.store.tests ++ [test]
          variants := withPublicQuestion.store.variants ++ rows
          issued } ∧
      withPublicQuestion.Shows listingRequest owner sheet.view := by
  have known : Access.caller? withPublicQuestion.settings withPublicQuestion.now
      (withPublicQuestion.signed listingRequest owner) =
      some (.ok ⟨"o", .teacher⟩) := by
    decide +kernel
  have met : ((Exam.generate ⟨"o", .teacher⟩ { listing with preview := true }
        withPublicQuestion.context
        ⟨withPublicQuestion.store, []⟩).1.toOption.any fun draft =>
          decide (draft.requestedCount < twoTo 31)) = true := by
    decide +kernel
  obtain ⟨draft, drafts, few⟩ := exists_ok_of_any met
  obtain ⟨-, stored⟩ :=
    stored_tests_are_shown_as_generated withPublicQuestion_lawful
      rfl withPublicQuestion_bank .refl (withPublicQuestion_asksFor known)
  obtain ⟨sheet, test, rows, issued, stores, after, -, shows,
    -⟩ := stored rfl ⟨by decide +kernel, by decide⟩ nofun
    (fun _ _ lost => List.not_mem_nil lost) draft drafts (of_decide_eq_true few)
  exact ⟨draft, sheet, test, rows, issued, stores, after, shows⟩

/-- A request of an author whose id has the character zero in it is met as a
preview, but its sheet is not stored. -/
theorem zero_in_author_id_is_not_stored :
    ¬∀ (opening session : Session) (author : Caller)
      (wanted : GenerationRequest) (request : HttpRequest)
      (credential : Credential) (draft : TestSheet),
      opening.store.Lawful → opening.store.attempts = [] →
      (∀ row ∈ opening.store.questions, row.IsStorable) →
      Serves true opening session →
      session.AsksFor author wanted request credential →
      wanted.preview = false → author.id.length ≤ Column.idWidth →
      (∀ title, wanted.title = some title → Column.hasNul title = false) →
      session.store.CanReach [.tests, .variants] →
      (Exam.generate author { wanted with preview := true } session.context
        ⟨session.store, []⟩).1 = .ok draft →
      draft.requestedCount < twoTo 31 →
      ∃ sheet : TestSheet, session.Shows request credential sheet.view := by
  intro claimed
  have known : Access.caller? withPublicQuestion.settings withPublicQuestion.now
      (withPublicQuestion.signed listingRequest (.token "\x00" .teacher 60)) =
        some (.ok ⟨"\x00", .teacher⟩) := by
    decide +kernel
  have asks := withPublicQuestion_asksFor known
  have met : ((Exam.generate ⟨"\x00", .teacher⟩ { listing with preview := true }
        withPublicQuestion.context
        ⟨withPublicQuestion.store, []⟩).1.toOption.any fun draft =>
          decide (draft.requestedCount < twoTo 31)) = true := by
    decide +kernel
  have failed : (withPublicQuestion.run
        (.call listingRequest (.token "\x00" .teacher 60))).1.result.status? =
      some 500 := by
    rw [asks.generates.1]
    decide +kernel
  obtain ⟨draft, drafts, few⟩ := exists_ok_of_any met
  obtain ⟨sheet, shows⟩ := claimed _ _ _ _ _ _ draft withPublicQuestion_lawful
    rfl withPublicQuestion_bank .refl asks rfl (by decide) nofun
    (fun _ _ lost => List.not_mem_nil lost) drafts (of_decide_eq_true few)
  rw [shows] at failed
  have status : some 200 = some 500 :=
    (congrArg some
      (Server.status_sent _ _ (Server.replyOf (.ok sheet.view)))).symm.trans
      failed
  cases status

end Session

end ExamHall
