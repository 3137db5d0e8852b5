import ExamHall.Proofs.Api.Handling
import ExamHall.Proofs.Exam.Upkeep
import ExamHall.Session

/-!
# A service that runs

A running service answers requests and looks after its attempts while time goes
on.  Maintainers do not touch its tables; tables may get out of reach, where
failures are allowed for.  Whatever happens in which order, the tables stay
lawful and the attempts stay on their way.
-/

namespace ExamHall

open Store

/-- Whether a service can take a step at a time.  The clock never goes back. -/
def Step.IsService (failing : Bool) (now : Instant) : Step → Prop
  | .call _ _ | .sweep | .recover | .look _ | .connectBroker _ => True
  | .setClock later => now ≤ later
  | .loseTables _ => failing = true
  | .insert _ _ | .change _ _ _ | .remove _ _ => False

namespace Session

/-- A session comes out of another one by a step of the service. -/
def Follows (failing : Bool) (session next : Session) : Prop :=
  ∃ step : Step, step.IsService failing session.now ∧
    next = (session.run step).2

/-- A session comes out of another one by any number of steps of the service. -/
abbrev Serves (failing : Bool) : Session → Session → Prop :=
  Relation.ReflTransGen (Follows failing)

/-- The session after some steps. -/
def after (session : Session) : List Step → Session
  | [] => session
  | step :: rest => (session.run step).2.after rest

theorem runAll_cons (session : Session) (step : Step) (rest : List Step) :
    session.runAll (step :: rest) =
      (session.run step).1 :: (session.run step).2.runAll rest :=
  rfl

variable {failing : Bool} {session next last opening : Session}

/-- An action of a session keeps what it keeps of a world. -/
theorem act_keeps {ε α : Type} (action : Action ε α) {onValue : α → StepResult}
    {onError : ε → StepResult} {kept : World → Prop}
    (keeps : Action.Keeps session.context kept action)
    (begun : kept ⟨session.store, []⟩) :
    ∃ published,
      kept ⟨(session.act action onValue onError).2.store, published⟩ :=
  ⟨(action session.context ⟨session.store, []⟩).2.published,
    keeps ⟨session.store, []⟩ begun⟩

/-- A step makes changes at its time, or lets time go on, or loses tables. -/
theorem Follows.cases (follows : Follows failing session next)
    (lawful : session.store.Lawful)
    (orderly : session.store.IsOrderly session.now) :
    (next.now = session.now ∧ ∃ published,
      World.IsSettled session.now session.store ⟨next.store, published⟩) ∨
    (session.now ≤ next.now ∧ next.store = session.store) ∨
    (failing = true ∧ next.now = session.now ∧
      ∃ outages, next.store = { session.store with outages }) := by
  obtain ⟨step, service, rfl⟩ := follows
  have begun :
      World.IsSettledUnsaved session.now session.store ⟨session.store, []⟩ :=
    @World.IsSettledUnsaved.refl _ ⟨session.store, []⟩
  cases step with
  | call request credential =>
      exact .inl ⟨rfl,
        act_keeps (Server.respond _) (Server.respond_settles lawful) begun.1⟩
  | sweep =>
      obtain ⟨published, settled, -⟩ :=
        act_keeps Exam.sweep (Exam.sweep_settles lawful orderly) begun
      exact .inl ⟨rfl, published, settled⟩
  | recover =>
      obtain ⟨published, settled, -⟩ :=
        act_keeps Exam.recoverStalled (Exam.recoverStalled_settles lawful) begun
      exact .inl ⟨rfl, published, settled⟩
  | setClock now => exact .inr (.inl ⟨service, rfl⟩)
  | connectBroker connected => exact .inr (.inl ⟨Int.le_refl _, rfl⟩)
  | loseTables tables => exact .inr (.inr ⟨service, rfl, tables, rfl⟩)
  | insert table row => exact service.elim
  | change table id row => exact service.elim
  | remove table id => exact service.elim
  | look table => exact .inr (.inl ⟨Int.le_refl _, rfl⟩)

/-! ## Lawful and orderly sessions -/

/-- A session whose tables are lawful and whose attempts are regular. -/
structure IsSound (session : Session) : Prop where
  lawful : session.store.Lawful
  orderly : session.store.IsOrderly session.now

/-- Where no attempts have been made yet, all of them are regular. -/
theorem isSound_of_no_attempts (lawful : session.store.Lawful)
    (none : session.store.attempts = []) :
    session.IsSound :=
  ⟨lawful, forall_mem_of_eq_nil none, forall_mem_of_eq_nil none⟩

theorem Follows.sound (follows : Follows failing session next)
    (sound : session.IsSound) :
    next.IsSound ∧ session.now ≤ next.now ∧
    Carries session.store.attempts next.store.attempts := by
  obtain ⟨lawful, orderly⟩ := sound
  rcases follows.cases lawful orderly with
    ⟨sameTime, _, reached, -⟩ | ⟨order, same⟩ | ⟨-, sameTime, outages, same⟩
  · obtain ⟨orderly', carries⟩ := Reaches.orderly reached lawful orderly
    exact ⟨⟨Reaches.lawful reached lawful, sameTime ▸ orderly'⟩,
      sameTime ▸ Int.le_refl _, carries⟩
  · refine ⟨⟨same ▸ lawful, ?_⟩, order, same ▸ .refl _⟩
    rw [same]
    exact orderly.mono order
  · refine ⟨⟨?_, ?_⟩, sameTime ▸ Int.le_refl _, ?_⟩
    · rw [same]
      exact ⟨lawful.bank, lawful.tests, lawful.assignments, lawful.sittings⟩
    · rw [same, sameTime]
      exact ⟨orderly.regular, orderly.reviews⟩
    · rw [same]
      exact .refl _

/-- A whole run keeps a session sound, lets time go on, and carries its attempts
along. -/
theorem Serves.sound (run : Serves failing session last)
    (sound : session.IsSound) :
    last.IsSound ∧ session.now ≤ last.now ∧
    Carries session.store.attempts last.store.attempts := by
  induction run with
  | refl => exact ⟨sound, Int.le_refl _, .refl _⟩
  | tail _ follows ih =>
      obtain ⟨reached, order, carries⟩ := ih
      obtain ⟨sound', order', carries'⟩ := follows.sound reached
      exact ⟨sound', Int.le_trans order order', carries.trans carries'⟩

/-! ## Sessions without failures -/

/-- A session in which nothing fails and no attempt waits for its scores. -/
structure IsCurrent (session : Session) : Prop where
  reliable : session.store.IsReliable
  none : session.store.AwaitsOnly none

theorem Follows.current (follows : Follows false session next)
    (sound : session.IsSound) (current : session.IsCurrent) :
    next.IsCurrent := by
  rcases follows.cases sound.lawful sound.orderly with
    ⟨-, _, settled⟩ | ⟨-, same⟩ | ⟨failed, -⟩
  · exact ⟨Reaches.reliable settled.reached current.reliable,
      settled.only current.reliable current.none⟩
  · exact ⟨same ▸ current.reliable, same ▸ current.none⟩
  · cases failed

/-- Without failures every attempt that is submitted has its scores after the
same step. -/
theorem Serves.current (run : Serves false session last)
    (sound : session.IsSound) (current : session.IsCurrent) :
    last.IsCurrent := by
  induction run with
  | refl => exact current
  | tail early follows ih =>
      exact follows.current (Serves.sound early sound).1 ih

/-- Where no attempts have been made yet, none waits for its scores. -/
theorem isCurrent_of_no_attempts (lawful : session.store.Lawful)
    (none : session.store.attempts = []) (reach : session.store.outages = [])
    (papers : ∀ variant ∈ session.store.variants, ∃ questions,
      variant.questions.value? = some questions ∧ IsPaper questions) :
    session.IsCurrent :=
  ⟨⟨lawful, reach, papers, forall_mem_of_eq_nil none⟩,
    forall_mem_of_eq_nil none⟩

/-! ## Properties of the tables -/

/-- What every change keeps and no lost table affects is kept by a whole run. -/
theorem Serves.keeps {kept : Store → Prop} (run : Serves failing session last)
    (sound : session.IsSound)
    (changed : ∀ {now before after},
      Change now before after → before.Lawful → kept before → kept after)
    (lost : ∀ {store outages}, kept store → kept { store with outages })
    (holds : kept session.store) : kept last.store := by
  induction run with
  | refl => exact holds
  | @tail middle _ early follows ih =>
      obtain ⟨⟨lawful, orderly⟩, -⟩ := Serves.sound early sound
      rcases follows.cases lawful orderly with
        ⟨-, _, reached, -⟩ | ⟨-, same⟩ | ⟨-, -, outages, same⟩
      · exact Reaches.keeps reached lawful changed ih
      · rw [same]
        exact ih
      · rw [same]
        exact lost ih

/-- Texts are sorted in the same order throughout a run. -/
theorem Serves.collation (run : Serves failing session last)
    (sound : session.IsSound) :
    last.store.collation = session.store.collation :=
  Serves.keeps run sound (fun change _ same => change.collation.trans same)
    (fun same => same) rfl

/-- A variant that has been stored stays as it is. -/
theorem Serves.hasVariant {variantId : String}
    {questions : List VariantQuestion}
    (run : Serves failing session last) (sound : session.IsSound)
    (shown : HasVariant session.store variantId questions) :
    HasVariant last.store variantId questions :=
  Serves.keeps run sound
    (fun change _ => change.hasVariant) (fun holds => holds) shown

theorem Serves.keepsSheets (run : Serves failing opening session)
    (lawful : opening.store.Lawful) (unused : opening.store.attempts = []) :
    session.store.KeepsSheets :=
  Serves.keeps run (isSound_of_no_attempts lawful unused) Change.keepsSheets
    (fun holds => holds) (forall_mem_of_eq_nil unused)

/-- If nothing but lost tables stands in the way of grading, nothing does once
all tables can be reached. -/
theorem Serves.staysReliable (run : Serves failing session last)
    (sound : session.IsSound)
    (reliable : { session.store with outages := [] }.IsReliable)
    (reach : last.store.outages = []) : last.store.IsReliable where
  lawful := (Serves.sound run sound).1.lawful
  reach := reach
  papers := Serves.keeps run sound
    (fun change _ => change.papers) (fun holds => holds) reliable.papers
  sheets := Serves.keeps run sound Change.keepsSheets
    (fun holds => holds) reliable.sheets

/-- Nothing stands in the way of grading where all tables can be reached. -/
theorem Serves.reliable (run : Serves failing opening session)
    (lawful : opening.store.Lawful) (unused : opening.store.attempts = [])
    (papers : ∀ variant ∈ opening.store.variants, ∃ questions,
      variant.questions.value? = some questions ∧ IsPaper questions)
    (reach : session.store.outages = []) : session.store.IsReliable := by
  refine Serves.staysReliable run (isSound_of_no_attempts lawful unused)
    ⟨?_, rfl, papers, ?_⟩ reach
  · exact ⟨lawful.bank, lawful.tests, lawful.assignments, lawful.sittings⟩
  · exact forall_mem_of_eq_nil unused

/-! ## A small service -/

/-- A service with one test for one student, who has one minute for one
essay. -/
def withOneStudent (now : Instant) : Session where
  settings :=
    { host := "", port := 0, environment := .test, isStrict := false,
      projectName := ""
      apiPath := "", secretKey := "k", algorithm := "HS256", origins := []
      database := ⟨"", 0, "", "", "", none⟩
      broker := ⟨"", 0, 0, ""⟩
      maxQuestions := 0, maxManualIds := 0, sweepIntervalSeconds := 0,
      sweepBatchSize := 1
      stalledGradingAfterSeconds := 0, notificationsEnabled := false,
      channelRoot := ""
      logLevel := "", logJson := false, metricsEnabled := false }
  now
  brokerConnected := false
  drawnCode := ""
  store :=
    { Store.empty with
      tests := [
        { id := "t", ownerId := "o", title := "T", mode := .manual,
          subjectId := none, topicId := none
          requestedCount := 1, percentages := ⟨100, 0, 0⟩, counts := ⟨1, 0, 0⟩
          shuffleQuestions := false, shuffleOptions := false, variantCount := 1,
          seed := 0
          createdAt := now }]
      variants := [ ⟨"v", "t", "A", 0,
        .written [⟨"q", 1, "P", .easy, .one, .essay none, none, ""⟩], now⟩]
      assignments := [
        { id := "a", testId := "t", ownerId := "o", title := "A",
          status := .active
          startsAt := now, endsAt := now, durationMinutes := 1, maxAttempts := 1
          shufflePerStudent := false, accessCodeHash := none,
          tabSwitchThreshold := 1
          tabSwitchAction := .warn, createdAt := now, updatedAt := now,
          closedAt := none }]
      roster := [⟨"a", "s"⟩] }

/-- The student starts the test. -/
def startsTest : Step :=
  .call ⟨.post, "/assignments/a/start", "", [], ""⟩ (.token "s" .student 60)

theorem lawfulSittings_nil (assignments : List Assignment)
    (variants : List (Variant (Stored (List VariantQuestion)))) :
    LawfulSittings assignments variants [] [] where
  ids := List.nodup_nil
  keys := List.forall_mem_nil _
  assignments := List.forall_mem_nil _
  variants := List.forall_mem_nil _
  apart := .nil
  answerIds := List.nodup_nil
  answerKeys := List.forall_mem_nil _
  answered := List.forall_mem_nil _
  answersApart := .nil

theorem withOneStudent_lawful (now : Instant) :
    (withOneStudent now).store.Lawful := by
  have test : FitsId "t" := ⟨by decide +kernel, by decide⟩
  have variant : FitsId "v" := ⟨by decide +kernel, by decide⟩
  have assignment : FitsId "a" := ⟨by decide +kernel, by decide⟩
  have student : FitsId "s" := ⟨by decide +kernel, by decide⟩
  refine ⟨⟨List.nodup_nil, List.forall_mem_nil _, List.forall_mem_nil _⟩, ?_,
    ?_, lawfulSittings_nil _ _⟩
  · exact
      { ids := List.nodup_singleton _
        keys := List.forall_mem_singleton.mpr test.isKey
        variantIds := List.nodup_singleton _
        variantKeys := List.forall_mem_singleton.mpr variant.isKey
        variantTests := List.forall_mem_singleton.mpr List.mem_cons_self
        places := List.pairwise_singleton _ _ }
  · exact
      { ids := List.nodup_singleton _
        keys := List.forall_mem_singleton.mpr assignment.isKey
        tests := List.forall_mem_singleton.mpr List.mem_cons_self
        duration := List.forall_mem_singleton.mpr Int.one_pos
        maxAttempts := List.forall_mem_singleton.mpr Int.one_pos
        students := List.forall_mem_singleton.mpr student
        enrolled := List.forall_mem_singleton.mpr List.mem_cons_self }

theorem withOneStudent_papers (now : Instant) :
    ∀ variant ∈ (withOneStudent now).store.variants, ∃ questions,
        variant.questions.value? = some questions ∧ IsPaper questions := by
  refine List.forall_mem_singleton.mpr ⟨_, rfl, List.nodup_singleton _, ?_, ?_⟩
  · exact List.forall_mem_singleton.mpr ⟨by decide +kernel, by decide⟩
  · exact List.forall_mem_singleton.mpr ⟨100, by decide⟩

end Session

end ExamHall

/-!
## Every graded attempt has its score sheet

As long as no table gets out of reach, each request and each upkeep task that
submits an attempt also grades it.  The sheet of a graded attempt is complete,
and the attempt shows the sums of the sheet.
-/

namespace ExamHall

open Store

/-- The rows of an attempt are a score sheet for a list of questions, and the
attempt shows its sums. -/
structure Attempt.HasScoreSheet (questions : List VariantQuestion)
    (rows : List (SavedAnswer (Stored Answer))) (attempt : Attempt) : Prop where
  distinct : (questions.map (·.questionId)).Nodup
  complete : (rows.map (·.questionId)).Perm (questions.map (·.questionId))
  earned : ∀ row ∈ rows, 0 ≤ row.earnedPoints.toRat ∧
    row.earnedPoints.toRat ≤ row.maxPoints.toRat
  points : ∀ row ∈ rows, ∀ question ∈ questions,
    question.questionId = row.questionId →
    row.maxPoints.toRat = question.points.toRat
  rawScore : ∃ score, attempt.rawScore = some score ∧
    score.toRat = earnedPoints rows
  maxScore : attempt.maxScore.toRat = maxPoints rows
  percentage : ∃ share, attempt.percentage = some share ∧
    share.toRat = percentOf (earnedPoints rows) (maxPoints rows)
  review : attempt.status = .needsReview ↔ ∃ row ∈ rows, row.needsManual = true

theorem Store.IsReliable.hasScoreSheet {now : Instant} {store : Store}
    {attempt : Attempt} (reliable : store.IsReliable)
    (orderly : store.IsOrderly now) (listed : attempt ∈ store.attempts)
    (scored : attempt.status.isScored = true) :
    ∃ questions, HasVariant store attempt.variantId questions ∧
      attempt.HasScoreSheet questions (rowsOf attempt.id store.answers) := by
  obtain ⟨questions, variant, paper, sitting⟩ := reliable.exists_sitting listed
  obtain ⟨complete, rawScore, percentage⟩ := sitting.scored scored
  have distinct :=
    @nodup_rowsOf _ attempt.id reliable.lawful.sittings.answersApart
  refine ⟨questions, variant, ?_⟩
  exact
    { distinct := paper.ids
      complete := questionIds_perm paper sitting.rows distinct complete
      earned := fun row inside =>
        ⟨Decimal.IsAmount.nonneg (sitting.rows row inside).earned,
          (sitting.rows row inside).less⟩
      points := by
        intro row inside question asked same
        obtain ⟨original, present, sameId, points⟩ :=
          (sitting.rows row inside).question
        obtain rfl := eq_of_key paper.ids present asked (sameId.trans same.symm)
        exact points
      rawScore, percentage
      maxScore := by
        rw [sitting.maxScore,
          maxPoints_eq_totalPoints paper sitting.rows distinct complete]
      review := by
        rw [orderly.reviews attempt listed]
        simp only [AwaitsReview, mem_rowsOf, and_assoc] }

namespace Session

variable {opening middle last : Session}

/-- No attempt waits for its scores when a step has ended, and every scored
attempt has its score sheet.  What an attempt can earn stays what it was when
the attempt was started. -/
theorem attempts_have_scoreSheets (lawful : opening.store.Lawful)
    (unused : opening.store.attempts = []) (reach : opening.store.outages = [])
    (papers : ∀ variant ∈ opening.store.variants, ∃ questions,
      variant.questions.value? = some questions ∧ IsPaper questions)
    (early : Serves false opening middle) (late : Serves false middle last) :
    (∀ attempt ∈ last.store.attempts, attempt.status ≠ .submitted) ∧
    (∀ attempt ∈ last.store.attempts, attempt.status.isScored = true →
      ∃ questions, HasVariant last.store attempt.variantId questions ∧
        attempt.HasScoreSheet questions
          (rowsOf attempt.id last.store.answers)) ∧
    ∀ attempt ∈ middle.store.attempts, ∀ later ∈ last.store.attempts,
      later.id = attempt.id →
        later.maxScore.toRat = attempt.maxScore.toRat := by
  have sound := isSound_of_no_attempts lawful unused
  obtain ⟨soundMiddle, -⟩ := Serves.sound early sound
  obtain ⟨soundLast, -, carries⟩ := Serves.sound late soundMiddle
  have currentMiddle := Serves.current early sound
    (isCurrent_of_no_attempts lawful unused reach papers)
  have currentLast := Serves.current late soundMiddle currentMiddle
  refine ⟨?_, ?_, ?_⟩
  · intro attempt listed submitted
    obtain ⟨_, absent, -⟩ := currentLast.none attempt listed submitted
    cases absent
  · intro attempt listed scored
    exact currentLast.reliable.hasScoreSheet soundLast.orderly listed scored
  · intro attempt listed other inside same
    obtain ⟨later, present, evolves⟩ := carries attempt listed
    have ids := soundLast.lawful.sittings.ids
    obtain rfl := eq_of_key ids inside present (same.trans evolves.kept.id.symm)
    obtain ⟨questions, shown, -, sitting⟩ :=
      currentMiddle.reliable.exists_sitting listed
    obtain ⟨questions', shown', -, sitting'⟩ :=
      currentLast.reliable.exists_sitting present
    have still := Serves.hasVariant late soundMiddle shown
    rw [← evolves.kept.variantId] at still
    obtain rfl := still.unique soundLast.lawful.tests.variantIds shown'
    rw [sitting.maxScore, sitting'.maxScore]

/-- The student submits the test. -/
def submitsTest : Step :=
  .call ⟨.post, "/attempts/attempt-1/submit", "", [],
    ""⟩ (.token "s" .student 60)

/-- The student who submits the essay has a score sheet. -/
theorem withOneStudent_has_scoreSheet :
    let opening := withOneStudent Column.origin
    let middle := (opening.run startsTest).2
    let last := (middle.run submitsTest).2
    opening.store.Lawful ∧ opening.store.attempts = [] ∧
      opening.store.outages = [] ∧
      Serves false opening middle ∧ Serves false middle last ∧
      ∀ attempt ∈ last.store.attempts, attempt.status.isScored = true →
        ∃ questions, HasVariant last.store attempt.variantId questions ∧
          attempt.HasScoreSheet questions
            (rowsOf attempt.id last.store.answers) := by
  intro opening middle last
  have lawful : opening.store.Lawful := withOneStudent_lawful _
  have early : Serves false opening middle := .single ⟨startsTest, trivial, rfl⟩
  have late : Serves false middle last := .single ⟨submitsTest, trivial, rfl⟩
  exact ⟨lawful, rfl, rfl, early, late, (attempts_have_scoreSheets lawful
      rfl rfl (withOneStudent_papers _) early late).2.1⟩

end Session

end ExamHall
