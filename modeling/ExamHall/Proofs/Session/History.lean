import ExamHall.Proofs.Exam.Recording
import ExamHall.Proofs.Exam.StartOutcome
import ExamHall.Proofs.Question.ClientAnswer
import ExamHall.Proofs.Session.Calls
import ExamHall.Proofs.Session.Serving

/-!
# Answers and the history of saves

The answers of an attempt, as they are shown and graded, are what the accepted
saves of its history make of them.  Once the attempt is no longer in progress,
whatever has been saved stays.

Whatever a client sends for an answer is read in the one form that the type of
its question asks for, or refused.  The answers that a service keeps have been
read, so they all have that form, and grading them never meets another one.
-/

namespace ExamHall

open Store ExamHall.Action

/-! ## What one step saves -/

/-- An effect of a request saves nothing, or it is that of the saves that are
accepted. -/
theorem Effect.saves_cases {now : Instant} {store after : Store}
    {caller : Caller} {endpoint : Endpoint} {saves : List AcceptedSave}
    {failed : Option (Halt Refusal)}
    (effect : Effect now store caller endpoint saves failed after)
    (lawful : store.Lawful) :
    (saves = [] ∧ store.SavesNothing after) ∨ ∃ attempt questions,
      IsWorkedOn now store attempt ∧
      HasVariant store attempt.variantId questions ∧
      WritesEach now attempt questions saves store after := by
  cases effect with
  | nothing => exact .inl ⟨rfl, .refl store⟩
  | generated | assigned | closed => exact .inl ⟨rfl, .of_eq rfl rfl⟩
  | saved on own inTime shown writes =>
      exact .inr ⟨_, _, ⟨own.listed, own.running, inTime⟩, shown, writes⟩
  | late on own passed finishes => exact .inl ⟨rfl, finishes.savesNothing⟩
  | violated own inTime touches savesNothing => exact .inl ⟨rfl, savesNothing⟩
  | submitted own closes finishes => exact .inl ⟨rfl, finishes.savesNothing⟩
  | exhausted listed running passed finishes =>
      exact .inl ⟨rfl, finishes.savesNothing⟩
  | graded author manages into => exact .inl ⟨rfl, into.savesNothing⟩
  | reviewed author manages listed same into =>
      exact .inl ⟨rfl, (into.touches lawful).2⟩
  | @started assignmentId pending middle after attempt issued failed expires
      student completes =>
      have opened : middle.SavesNothing
          { middle with attempts := middle.attempts ++ [attempt], issued } := by
        refine ⟨.refl _, ?_⟩
        rintro attemptId ⟨other, listed, same, scored⟩
        exact ⟨other, List.mem_append_left _ listed, same, scored⟩
      refine .inl ⟨rfl, ?_⟩
      cases expires with
      | vacant =>
          obtain rfl : after = _ := completes
          exact opened
      | @expired pending listed running passed =>
          have closed := (Touches.submitting store pending.id pending.deadlineAt
              now).savesNothing rfl
          exact (closed.trans opened).trans
            (Exam.Completes.savesNothing completes)

namespace Session

variable {failing : Bool} {opening session middle last : Session}
  {history : List AcceptedSave} {attempt : Attempt}

/-- A step of the service saves nothing, or what it has accepted. -/
theorem run_saves {step : Step} (sound : session.IsSound)
    (service : step.IsService failing session.now) :
    let next := (session.run step).2
    (session.accepted step = [] ∧ session.store.SavesNothing next.store) ∨
      ∃ attempt questions, IsWorkedOn session.now session.store attempt ∧
        HasVariant session.store attempt.variantId questions ∧
        WritesEach session.now attempt questions (session.accepted step)
          session.store next.store := by
  intro next
  have begun :
      World.IsSettledUnsaved session.now session.store ⟨session.store, []⟩ :=
    @World.IsSettledUnsaved.refl _ ⟨session.store, []⟩
  cases step with
  | call request credential =>
      rcases run_call sound.lawful request credential with ⟨same, none⟩ |
        ⟨endpoint, caller, failed, ended, -, -, -, -, effect⟩
      · exact .inl ⟨none, same ▸ .refl _⟩
      · exact effect.saves_cases sound.lawful
  | sweep =>
      obtain ⟨_, -, nothing⟩ : ∃ published, World.IsSettledUnsaved session.now
          session.store ⟨next.store, published⟩ :=
        act_keeps Exam.sweep
          (Exam.sweep_settles sound.lawful sound.orderly) begun
      exact .inl ⟨rfl, nothing⟩
  | recover =>
      obtain ⟨_, -, nothing⟩ : ∃ published, World.IsSettledUnsaved session.now
          session.store ⟨next.store, published⟩ :=
        act_keeps Exam.recoverStalled
          (Exam.recoverStalled_settles sound.lawful) begun
      exact .inl ⟨rfl, nothing⟩
  | setClock now => exact .inl ⟨rfl, .refl _⟩
  | connectBroker connected => exact .inl ⟨rfl, .refl _⟩
  | loseTables tables => exact .inl ⟨rfl, .of_eq rfl rfl⟩
  | look table => exact .inl ⟨rfl, .refl _⟩
  | insert table row => exact service.elim
  | change table id row => exact service.elim
  | remove table id => exact service.elim

/-- The save that a request gets accepted is the one that it is answered
with. -/
theorem accepted_of_save {request : HttpRequest} {credential : Credential}
    {caller : Caller} {attemptId questionId : String} {input : AnswerInput}
    (lawful : session.store.Lawful)
    (called :
      Server.called? session.settings (session.signed request credential) =
      some (.saveAnswer attemptId questionId))
    (known : Access.caller? session.settings session.now
      (session.signed request credential) = some (.ok caller))
    (taken : Handle.taken? (session.signed request credential)
      (AnswerInput.form questionId) AnswerInput.faults = some input) :
    session.accepted (.call request credential) =
      match (Exam.save caller attemptId input session.context
        ⟨session.store, []⟩).1 with
      | .ok answer => [⟨attemptId, input, answer⟩]
      | .error _ => [] := by
  have ends := @Exam.save_ends session.context session.store caller attemptId
    (.saveAnswer attemptId questionId) input lawful rfl ⟨session.store, []⟩ rfl
  unfold accepted
  dsimp only
  rw [called]
  dsimp only
  rw [@Handle.acceptedSaves_of_known session.context _ _ _ _ known,
    Handle.entries?, taken]
  exact ends.2

/-- The saves that a batch gets accepted are those that it is answered with. -/
theorem accepted_of_batch {request : HttpRequest} {credential : Credential}
    {caller : Caller} {attemptId : String} {inputs : List AnswerInput}
    (lawful : session.store.Lawful)
    (called : Server.called? session.settings
      (session.signed request credential) = some (.saveAnswers attemptId))
    (known : Access.caller? session.settings session.now
      (session.signed request credential) = some (.ok caller))
    (taken : Handle.taken? (session.signed request credential)
      AnswerInput.batchForm AnswerInput.batchFaults = some inputs) :
    (session.accepted (.call request credential)).map (·.answer) =
      match (Exam.saveBatch caller attemptId inputs session.context
        ⟨session.store, []⟩).1 with
      | .ok outcome => outcome.saved
      | .error _ => [] := by
  have ends := @Exam.saveBatch_ends session.context session.store caller
    attemptId (.saveAnswers attemptId) inputs lawful rfl ⟨session.store, []⟩ rfl
  unfold accepted
  dsimp only
  rw [called]
  dsimp only
  rw [@Handle.acceptedSaves_of_known session.context _ _ _ _ known,
    Handle.entries?, taken]
  exact ends.2

/-! ## What a run saves -/

/-- A session comes out of another one by steps of the service that get a
history of saves accepted. -/
inductive Records (failing : Bool) (opening : Session) :
    List AcceptedSave → Session → Prop where
  | refl : Records failing opening [] opening
  | tail {history : List AcceptedSave} {session : Session} {step : Step}
      (early : Records failing opening history session)
      (service : step.IsService failing session.now) : Records failing opening
      (history ++ session.accepted step) (session.run step).2

theorem Records.serves (records : Records failing opening history session) :
    Serves failing opening session := by
  induction records with
  | refl => exact .refl
  | tail _ service ih => exact ih.tail ⟨_, service, rfl⟩

/-- The answers of a session are what its history makes of them. -/
theorem Records.remembers (records : Records failing opening history session)
    (lawful : opening.store.Lawful) (unused : opening.store.attempts = [])
    (papers : ∀ variant ∈ opening.store.variants, ∃ questions,
      variant.questions.value? = some questions ∧ IsPaper questions) :
    session.store.Remembers history := by
  have begins := isSound_of_no_attempts lawful unused
  induction records with
  | refl =>
      refine .nil (List.eq_nil_iff_forall_not_mem.mpr fun row inside => ?_)
      have answered := lawful.sittings.answered row inside
      rw [unused] at answered
      cases answered
  | @tail history session step early service ih =>
      have sound := (Serves.sound early.serves begins).1
      have follows : Follows failing session (session.run step).2 :=
        ⟨step, service, rfl⟩
      rcases run_saves sound service with ⟨none, nothing⟩
        | ⟨attempt, questions, -, shown, writes⟩
      · rw [none, List.append_nil]
        exact ih.unsaved nothing (follows.sound sound).2.2 fun _ _ shown =>
          Serves.hasVariant (.single follows) sound shown
      · have kept := Serves.keeps early.serves begins
          (fun change _ => change.papers) (fun holds => holds) papers
        obtain ⟨variant, dealt, -, read⟩ := id shown
        obtain ⟨asked, read', paper⟩ := kept variant dealt
        obtain rfl := Option.some.inj (read'.symm.trans read)
        exact .writesEach paper writes ih sound.lawful shown

/-- An attempt that is not in progress any more keeps each answer as it has been
saved. -/
theorem Serves.keepsAnswer {row : SavedAnswer (Stored Answer)}
    (run : Serves failing session last) (sound : session.IsSound)
    (listed : attempt ∈ session.store.attempts)
    (left : attempt.status ≠ .inProgress) (inside : row ∈ session.store.answers)
    (same : row.attemptId = attempt.id) :
    ∃ later ∈ last.store.answers, SavedAnswer.Kept row later := by
  induction run with
  | refl => exact ⟨row, inside, rfl, rfl, rfl, rfl, rfl, rfl, rfl⟩
  | @tail between _ early follows ih =>
      obtain ⟨step, service, rfl⟩ := follows
      obtain ⟨later, still, kept⟩ := ih
      obtain ⟨reached, -, carries⟩ := Serves.sound early sound
      rcases run_saves reached service with ⟨-, nothing⟩
        | ⟨worked, questions, working, -, writes⟩
      · obtain ⟨next, there, rfl | kept'⟩ := nothing.answers.exists_later still
        · exact ⟨next, there, kept⟩
        · exact ⟨next, there, kept.trans kept'⟩
      · obtain ⟨next, there, rfl | ⟨own, -⟩⟩ :=
          writes.touches.answers.exists_later still
        · exact ⟨next, there, kept⟩
        · -- The row would belong to an attempt in progress.
          obtain ⟨evolved, present, evolves⟩ := carries attempt listed
          have sameId : evolved.id = worked.id :=
            evolves.kept.id.trans (same.symm.trans
                (kept.attemptId.symm.trans own))
          obtain rfl :=
            eq_of_key reached.lawful.sittings.ids present working.listed sameId
          have path := evolves.status
          rw [working.running] at path
          exact (left (AttemptStatus.eq_inProgress_of_moves path)).elim

/-! ## What is shown and graded -/

/-- Each answer of an attempt is what a history of saves makes of it.  A
question on which nothing has been saved has no answer until the attempt has
scores, and an empty one since then. -/
structure AnswersFollow (history : List AcceptedSave)
    (questions : List VariantQuestion) (attempt : Attempt)
    (answers : List (SavedAnswer Answer)) : Prop where
  asked : ∀ answer ∈ answers, ∃ question ∈ questions,
    question.questionId = answer.questionId
  saved : ∀ questionId, savesTo attempt.id questionId history ≠ [] → ∃ answer,
    answers.filter (fun other => other.questionId == questionId) = [answer] ∧
    IsRecordOf questions (savesTo attempt.id questionId history) answer
  unsaved : ∀ questionId, savesTo attempt.id questionId history = [] →
    attempt.status.isScored = false →
    answers.filter (fun other => other.questionId == questionId) = []
  filled : ∀ question ∈ questions,
    savesTo attempt.id question.questionId history = [] →
    attempt.status.isScored = true → ∃ answer, answers.filter (fun other =>
      other.questionId == question.questionId) = [answer] ∧ answer.IsBlank

/-- The answers that are read from the sheet of an attempt follow the history
that the store remembers. -/
theorem answersFollow_of_remembers {store : Store}
    {questions : List VariantQuestion} {answers : List (SavedAnswer Answer)}
    (remembers : store.Remembers history) (lawful : store.Lawful)
    (listed : attempt ∈ store.attempts) (paper : IsPaper questions)
    (shown : HasVariant store attempt.variantId questions)
    (sitting : IsSitting questions store.answers attempt)
    (read : (store.sheet attempt.id).mapM SavedAnswer.read? = some answers) :
    AnswersFollow history questions attempt answers := by
  have pairs := mapM_eq_some_iff_forall₂.mp read
  have rows : ∀ {row}, row ∈ store.sheet attempt.id ↔
      row ∈ store.answers ∧ row.attemptId = attempt.id := fun {row} =>
    (sheet_perm store attempt.id).mem_iff.trans mem_rowsOf
  have distinct : (answers.map (·.questionId)).Nodup := by
    rw [map_eq_of_forall₂ pairs fun row answer reads =>
        SavedAnswer.questionId_of_read? reads]
    exact ((sheet_perm store attempt.id).map _).nodup_iff.mpr
      (nodup_rowsOf lawful.sittings.answersApart)
  have source : ∀ answer ∈ answers, ∃ row ∈ store.answers,
      row.attemptId = attempt.id ∧ row.read? = some answer := by
    intro answer inside
    obtain ⟨row, present, reads⟩ := exists_mem_left_of_forall₂ pairs inside
    exact ⟨row, (rows.mp present).1, (rows.mp present).2, reads⟩
  have single : ∀ row ∈ store.answers, row.attemptId = attempt.id →
      ∃ answer, row.read? = some answer ∧
        answers.filter (fun other => other.questionId == row.questionId) =
          [answer] := by
    intro row inside same
    obtain ⟨answer, present, reads⟩ :=
      exists_mem_right_of_forall₂ pairs (rows.mpr ⟨inside, same⟩)
    refine ⟨answer, reads, ?_⟩
    rw [← SavedAnswer.questionId_of_read? reads]
    exact filter_key_eq_singleton distinct present
  refine ⟨fun answer inside => ?_, fun questionId any => ?_,
    fun questionId empty unscored => ?_, fun question asked empty scored => ?_⟩
  · obtain ⟨row, present, same, reads⟩ := source answer inside
    obtain ⟨question, asked, sameId, -⟩ :=
      (sitting.rows row (mem_rowsOf.mpr ⟨present, same⟩)).question
    exact ⟨question, asked,
      sameId.trans (SavedAnswer.questionId_of_read? reads).symm⟩
  · obtain @⟨other, questions', row, answer, otherListed, id, shown', inside,
      ofAttempt, rfl, reads, record⟩ :=
      remembers.saved attempt.id questionId any
    obtain rfl := eq_of_key lawful.sittings.ids otherListed listed id
    obtain rfl := shown'.unique lawful.tests.variantIds shown
    obtain ⟨answer', reads', alone⟩ := single row inside ofAttempt
    obtain rfl := Option.some.inj (reads.symm.trans reads')
    exact ⟨answer, alone, record⟩
  · rw [List.filter_eq_nil_iff]
    intro answer inside same
    obtain ⟨row, present, sameAttempt, reads⟩ := source answer inside
    have sameQuestion : row.questionId = questionId :=
      (SavedAnswer.questionId_of_read? reads).symm.trans (beq_iff_eq.mp same)
    obtain ⟨-, other, there, sameId, scored⟩ := remembers.blank row present (by
      rw [sameAttempt, sameQuestion]
      exact empty)
    obtain rfl :=
      eq_of_key lawful.sittings.ids there listed (sameId.trans sameAttempt)
    exact Bool.false_ne_true (unscored.symm.trans scored)
  · obtain ⟨row, present, sameQuestion⟩ :=
      (sitting.scored scored).complete question asked
    obtain ⟨inside, sameAttempt⟩ := mem_rowsOf.mp present
    obtain ⟨blank, -⟩ := remembers.blank row inside (by
      rw [sameAttempt, sameQuestion]
      exact empty)
    obtain ⟨answer, reads, alone⟩ := single row inside sameAttempt
    exact ⟨answer, sameQuestion ▸ alone, blank.read? reads⟩

/-- In every state that a service reaches, the answers of an attempt, as they
are shown and as they are graded, are what the saves accepted by then make of
them, and since the attempt is not in progress any more, whatever has been saved
stays. -/
theorem answers_follow_history (lawful : opening.store.Lawful)
    (unused : opening.store.attempts = [])
    (papers : ∀ variant ∈ opening.store.variants, ∃ questions,
      variant.questions.value? = some questions ∧ IsPaper questions)
    (early : Records true opening history middle)
    (late : Serves true middle last) :
    (∀ attempt ∈ middle.store.attempts, ∃ questions answers,
      HasVariant middle.store attempt.variantId questions ∧
      AnswersFollow history questions attempt answers ∧
      (middle.store.CanReach [.answers] →
        Store.answersOf attempt.id middle.store = .ok (answers, middle.store)) ∧
      ∀ published snapshot,
        (Exam.snapshotOf attempt middle.context ⟨middle.store, published⟩).1 =
          .ok snapshot → snapshot.answers = answers) ∧
    ∀ attempt ∈ middle.store.attempts, attempt.status ≠ .inProgress →
      ∀ row ∈ middle.store.answers, row.attemptId = attempt.id →
        ∃ later ∈ last.store.answers, SavedAnswer.Kept row later := by
  have begins := isSound_of_no_attempts lawful unused
  have sound := (Serves.sound early.serves begins).1
  have remembers := early.remembers lawful unused papers
  have kept := Serves.keeps early.serves begins
    (fun change _ => change.papers) (fun holds => holds) papers
  have sheets := Serves.keepsSheets early.serves lawful unused
  refine ⟨fun attempt listed => ?_, fun attempt listed left row inside same =>
    Serves.keepsAnswer late sound listed left inside same⟩
  obtain ⟨variant, dealt, same⟩ :=
    List.mem_map.mp (sound.lawful.sittings.variants attempt listed)
  obtain ⟨questions, document, paper⟩ := kept variant dealt
  have shown : HasVariant middle.store attempt.variantId questions :=
    ⟨variant, dealt, same, document⟩
  have sitting := sheets attempt listed questions shown paper
  obtain ⟨answers, read⟩ := @exists_mapM_eq_some _ _ SavedAnswer.read?
    (middle.store.sheet attempt.id) fun row inside =>
      (sitting.rows row ((sheet_perm _ _).mem_iff.mp inside)).readable
  have plain := (sound.lawful.sittings.keys attempt listed).plain
  refine ⟨questions, answers, shown, answersFollow_of_remembers remembers
    sound.lawful listed paper shown sitting read, ?_, ?_⟩
  · exact fun reach => answersOf_eq_ok.mpr ⟨plain, reach, rfl, read⟩
  · intro published snapshot ended
    have shows : Ends middle.context (fun world => world.store = middle.store)
      (Exam.snapshotOf attempt) _ := Exam.snapshotOf_answers
    exact Option.some.inj
      ((shows ⟨middle.store, published⟩ rfl snapshot ended).symm.trans read)

/-- The student saves an answer. -/
def savesAnswer : Step :=
  .call ⟨.put, "/attempts/attempt-1/answers/q", "",
    [("content-type", "application/json")],
    "\x7b\"value\":\"E\"\x7d"⟩ (.token "s" .student 60)

/-- The answer of the student who saves it and submits the test follows from
what has been saved. -/
theorem withOneStudent_answers_follow_history :
    let opening := withOneStudent Column.origin
    let started := (opening.run startsTest).2
    let saved := (started.run savesAnswer).2
    let submitted := (saved.run submitsTest).2
    let history :=
      ([] ++ opening.accepted startsTest) ++ started.accepted savesAnswer
    opening.store.Lawful ∧ opening.store.attempts = [] ∧
      Records true opening history saved ∧ Serves true saved submitted ∧
      (∀ attempt ∈ saved.store.attempts, ∃ questions answers,
        HasVariant saved.store attempt.variantId questions ∧
        AnswersFollow history questions attempt answers) ∧
      ∀ attempt ∈ saved.store.attempts, attempt.status ≠ .inProgress →
        ∀ row ∈ saved.store.answers, row.attemptId = attempt.id →
          ∃ later ∈ submitted.store.answers, SavedAnswer.Kept row later := by
  intro opening started saved submitted history
  have early : Records true opening history saved :=
    .tail (.tail .refl trivial) trivial
  have late : Serves true saved submitted := .single ⟨submitsTest, trivial, rfl⟩
  obtain ⟨follows, keeps⟩ := answers_follow_history (withOneStudent_lawful _)
    rfl (withOneStudent_papers _) early late
  refine ⟨withOneStudent_lawful _, rfl, early, late,
    fun attempt listed => ?_, keeps⟩
  obtain ⟨questions, answers, shown, follow, -⟩ := follows attempt listed
  exact ⟨questions, answers, shown, follow⟩

end Session

/-! ## Forms of answers -/

/-- Every answer that a store keeps has the form that its question asks for, and
is graded by the rule for it. -/
def Store.KeepsForms (store : Store) : Prop :=
  ∀ attempt ∈ store.attempts, ∀ questions,
    HasVariant store attempt.variantId questions →
    ∀ row ∈ store.answers, row.attemptId = attempt.id → ∃ answer,
        row.read? = some answer ∧ ∀ given, answer.value = some given →
          ∀ question ∈ questions, question.questionId = row.questionId →
            given.IsFormOf question.payload.type ∧
            ∃ rule, Grading.IsRuleOf question.payload given rule ∧
              ∀ points, Grading.grade? question.payload points answer.value =
                  rule points

/-- What saves have made of an answer has the form that its question asks
for. -/
theorem IsRecordOf.isFormOf {questions : List VariantQuestion}
    {saves : List AcceptedSave} {answer : SavedAnswer Answer}
    {question : VariantQuestion}
    {given : Answer} (record : IsRecordOf questions saves answer)
    (paper : IsPaper questions) (asked : question ∈ questions)
    (same : question.questionId = answer.questionId)
    (value : answer.value = some given) :
    given.IsFormOf question.payload.type := by
  obtain ⟨save, -, -, other, listed, sameId, parsed⟩ := record.last
  obtain rfl := eq_of_key paper.ids listed asked (sameId.trans same.symm)
  rw [value] at parsed
  exact (Answer.isShapedFor_and_isFormOf parsed).2

/-- Where the answers are what a history of saves makes of them, all of them
have the form that is asked for. -/
theorem Store.Remembers.keepsForms {store : Store} {history : List AcceptedSave}
    (remembers : store.Remembers history) (lawful : store.Lawful)
    (papers : ∀ variant ∈ store.variants, ∃ questions,
      variant.questions.value? = some questions ∧ IsPaper questions) :
    store.KeepsForms := by
  intro attempt listed questions shown row inside own
  obtain ⟨variant, dealt, -, document⟩ := id shown
  obtain ⟨asked, document', paper⟩ := papers variant dealt
  obtain rfl := Option.some.inj (document'.symm.trans document)
  by_cases empty : savesTo row.attemptId row.questionId history = []
  · obtain ⟨blank, -⟩ := remembers.blank row inside empty
    have read : row.read? = some { row with value := none } := by
      rw [SavedAnswer.read?, blank.value]
    exact ⟨_, read, nofun⟩
  · obtain @⟨other, questions, saved, answer, there, id, shown', inside',
      ofAttempt, ofQuestion, read, record⟩ := remembers.saved _ _ empty
    obtain rfl := lawful.eq_of_answersTo inside' inside ofAttempt ofQuestion
    obtain rfl := eq_of_key lawful.sittings.ids there listed (id.trans own)
    obtain rfl := shown'.unique lawful.tests.variantIds shown
    refine ⟨answer, read, fun given value question asked same => ?_⟩
    have sameQuestion := same.trans (SavedAnswer.questionId_of_read? read).symm
    have form := record.isFormOf paper asked sameQuestion value
    rw [value]
    exact ⟨form, Grading.exists_isRuleOf form⟩

namespace Session

variable {failing : Bool} {opening session : Session}

/-- Every run of a service has a history of accepted saves. -/
theorem Serves.exists_records (run : Serves failing opening session) :
    ∃ history, Records failing opening history session := by
  induction run with
  | refl => exact ⟨[], .refl⟩
  | tail _ follows ih =>
      obtain ⟨step, service, rfl⟩ := follows
      obtain ⟨history, records⟩ := ih
      exact ⟨_, records.tail service⟩

/-- Client values are read exactly and canonically for questions of every type,
a truth value and all spellings of its word are one answer, and in every state
that a service reaches the saved answers have the form that they are graded
in. -/
theorem client_answers_read_canonically (lawful : opening.store.Lawful)
    (unused : opening.store.attempts = [])
    (papers : ∀ variant ∈ opening.store.variants, ∃ questions,
      variant.questions.value? = some questions ∧ IsPaper questions)
    (run : Serves true opening session) :
    (∀ type : QuestionType, type.ReadsCanonically) ∧
      (∀ value text, Text.Spells (truthWord value) text → ∃ answer,
        Answer.ofClient? .trueFalse (.bool value) = .ok (some answer) ∧
          Answer.ofClient? .trueFalse (.text text) = .ok (some answer)) ∧
      session.store.KeepsForms := by
  refine ⟨QuestionType.readsCanonically, fun value text spells => ?_, ?_⟩
  · exact ⟨_, rfl, Answer.ofClient?_of_spells spells⟩
  · obtain ⟨history, records⟩ := run.exists_records
    have begins := isSound_of_no_attempts lawful unused
    have sound := (Serves.sound run begins).1
    have kept := Serves.keeps run begins
      (fun change _ => change.papers) (fun holds => holds) papers
    exact (records.remembers lawful unused papers).keepsForms sound.lawful kept

/-- The essay that the student has saved has the form of a text. -/
theorem withOneStudent_client_answers :
    let opening := withOneStudent Column.origin
    let saved := ((opening.run startsTest).2.run savesAnswer).2
    opening.store.Lawful ∧ opening.store.attempts = [] ∧
      Serves true opening saved ∧
      saved.store.KeepsForms := by
  intro opening saved
  have run : Serves true opening saved :=
    .tail (.single ⟨startsTest, trivial, rfl⟩) ⟨savesAnswer, trivial, rfl⟩
  have canonical := client_answers_read_canonically (withOneStudent_lawful _)
    rfl (withOneStudent_papers _) run
  exact ⟨withOneStudent_lawful _, rfl, run, canonical.2.2⟩

end Session

end ExamHall
