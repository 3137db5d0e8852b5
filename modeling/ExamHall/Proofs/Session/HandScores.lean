import ExamHall.Proofs.Attempt.Scores
import ExamHall.Proofs.Exam.Reviewing
import ExamHall.Proofs.Session.Events

/-!
# Scores by hand, one request after another

Reviewers score the answers of an attempt by requests.  Each score that is
accepted goes into the row of its answer and nowhere else, and what the attempt
says then is summed up from all its rows.  So the order of the requests is of no
importance, and neither is what an answer was worth before.
-/

namespace ExamHall

open Store

/-! ## What an accepted score changes -/

/-- A score has gone into one row of an attempt, and the attempt has got the
sums of all its rows. -/
structure Store.Rescores (store : Store) (attempt : Attempt)
    (row : SavedAnswer (Stored Answer)) (score : Decimal) (after : Store)
    (marked : SavedAnswer (Stored Answer)) (summed : Attempt) : Prop where
  left : after = { store with
    answers := updateWhere (fun other => other.id == row.id) (fun _ => marked)
      store.answers
    attempts := updateWhere (fun other => other.id == attempt.id)
      (fun _ => summed) store.attempts }
  rowKept : SavedAnswer.Kept row marked ∧ marked.maxPoints = row.maxPoints
  attemptKept : Attempt.Kept attempt summed ∧
    summed.submittedAt = attempt.submittedAt
  decided : marked.needsManual = false
  earned : marked.earnedPoints.toRat = (roundPoints score).toRat
  rawScore : ∃ old new, attempt.rawScore = some old ∧
    summed.rawScore = some new ∧
    new.toRat = old.toRat - row.earnedPoints.toRat + marked.earnedPoints.toRat ∧
    new.toRat = earnedPoints (rowsOf attempt.id after.answers)
  percentage : ∃ share, summed.percentage = some share ∧
    share.toRat = percentOf (earnedPoints (rowsOf attempt.id after.answers))
      (maxPoints (rowsOf attempt.id after.answers))
  status : summed.status =
    if (rowsOf attempt.id after.answers).any (·.needsManual) then .needsReview
    else .graded

variable {now : Instant} {store after : Store} {attempt : Attempt}
  {mark : HandMark} {row : SavedAnswer (Stored Answer)}
  {questions : List VariantQuestion} {reviewer : Caller} {review : Review}
  {answerId attemptId : String}

/-- When one row changes, the rows earn the new instead of the old points. -/
theorem earnedPoints_updateWhere {rows : List (SavedAnswer (Stored Answer))}
    {change : SavedAnswer (Stored Answer) → SavedAnswer (Stored Answer)}
    (ids : (rows.map (·.id)).Nodup) (inside : row ∈ rows) :
    earnedPoints (updateWhere (fun other => other.id == row.id) change rows) =
      earnedPoints rows - row.earnedPoints.toRat +
      (change row).earnedPoints.toRat := by
  induction rows with
  | nil => cases inside
  | cons first rest ih =>
      rw [List.map_cons, List.nodup_cons] at ids
      simp only [updateWhere, earnedPoints, List.map_cons, List.sum_cons]
        at ih ⊢
      rcases List.mem_cons.mp inside with rfl | later
      · have rest :
            (updateWhere (fun other => other.id == row.id) change rest) =
              rest := by
          apply updateWhere_of_forall_not
          intro other there
          rw [beq_eq_false_iff_ne]
          intro same
          exact ids.1 (same ▸ List.mem_map_of_mem there)
        rw [updateWhere] at rest
        rw [rest, if_pos (beq_self_eq_true _)]
        ring
      · have other : ¬(first.id == row.id) = true := by
          intro same
          exact ids.1 (beq_iff_eq.mp same ▸ List.mem_map_of_mem later)
        rw [ih ids.2 later, if_neg other]
        ring

theorem Totals.needsReview_of_totals? {tallies : List Tally} {totals : Totals}
    (summed : totals? tallies = some totals) :
    totals.needsReview = tallies.any (·.needsManual) := by
  unfold totals? at summed
  simp only [Option.bind_eq_bind, Option.bind_eq_some_iff] at summed
  obtain ⟨_, -, _, -, _, -, same⟩ := summed
  cases same
  rfl

theorem any_needsManual_sheet (store : Store) (attemptId : String) :
    ((store.sheet attemptId).map SavedAnswer.tally).any (·.needsManual) =
      (rowsOf attemptId store.answers).any (·.needsManual) := by
  rw [List.any_map]
  exact (sheet_perm store attemptId).any_eq

/-- The score that a reviewer is granted is the rounded one. -/
theorem toRat_earned_of_manualOutcome {points score earned : Decimal}
    {outcome : GradeOutcome} (amount : points.IsAmount)
    (granted : manualOutcome points score = .ok outcome)
    (stored : Column.points outcome.earned = .ok earned) :
    earned.toRat = (roundPoints score).toRat := by
  rw [Column.toRat_of_points (manualOutcome_within amount granted).1.earned
    stored]
  unfold manualOutcome at granted
  dsimp only at granted
  split at granted <;> cases granted
  rfl

/-- An admitted score that is summed up goes into its row, and the attempt gets
the sums of its rows. -/
theorem Store.Admits.exists_rescores
    (admits : store.Admits now reviewer row.id review attempt.id mark)
    (sums : SumsUp now attempt.id (store.marking mark) after)
    (lawful : store.Lawful) (paper : IsPaper questions)
    (sitting : IsSitting questions store.answers attempt)
    (listed : attempt ∈ store.attempts) (inside : row ∈ store.answers) :
    ∃ summed,
      store.Rescores attempt row review.score after (mark.onto row) summed := by
  generalize named : row.id = answerId at admits
  generalize owned : attempt.id = attemptId at admits sums
  obtain @⟨other, answer, outcome, earned, gradedBy, -, -, there, scored, -,
    present, rfl, own, granted, stored, -⟩ := admits
  obtain rfl := eq_of_key lawful.sittings.answerIds inside present named
  obtain rfl := eq_of_key lawful.sittings.ids listed there owned
  set mark : HandMark :=
    ⟨row.id, earned, gradedBy, ⟨outcome, review.feedback, reviewer.id, now⟩⟩
  obtain @⟨totals, rawScore, maxScore, percentage, summed, scores⟩ := sums
  have full :
      IsFullSheet questions (rowsOf attempt.id (store.marking mark).answers) :=
    sitting.isFullSheet_reviewed lawful paper scored inside granted stored
      gradedBy mark.score
  obtain ⟨found, same, exact, -⟩ := full.exists_totals paper sitting.fits
  cases summed.symm.trans same
  obtain ⟨raw, -, percent⟩ := scores.values exact
  rw [earnedSum_sheet] at raw percent
  rw [mostSum_sheet] at percent
  obtain ⟨old, before, worth⟩ := (sitting.scored scored).rawScore
  have shown : row ∈ rowsOf attempt.id store.answers :=
    mem_rowsOf.mpr ⟨inside, own⟩
  have marked : (store.marking mark).answers =
      updateWhere (fun other => other.id == row.id) (fun _ => mark.onto row)
        store.answers :=
    updateWhere_key lawful.sittings.answerIds inside
  have worthNow :
      earnedPoints (rowsOf attempt.id (store.marking mark).answers) =
        earnedPoints (rowsOf attempt.id store.answers) -
        row.earnedPoints.toRat + earned.toRat := by
    have rows : rowsOf attempt.id (store.marking mark).answers =
        updateWhere (fun other => other.id == row.id) mark.onto
          (rowsOf attempt.id store.answers) :=
      rowsOf_updateWhere fun _ => rfl
    have ids : ((rowsOf attempt.id store.answers).map (·.id)).Nodup :=
      lawful.sittings.answerIds.sublist (List.filter_sublist.map _)
    rw [rows, earnedPoints_updateWhere ids shown]
    rfl
  refine ⟨Store.scored rawScore maxScore percentage
    (Exam.scoreUpdate totals totals.statusAfterManual now) attempt, ?_⟩
  exact
    { left := by
        rw [← marked]
        congr 1
        exact updateWhere_key lawful.sittings.ids listed
      rowKept := ⟨⟨rfl, rfl, rfl, rfl, rfl, rfl, rfl⟩, rfl⟩
      attemptKept := ⟨.scored _ _ _ _ _, rfl⟩
      decided := rfl
      earned := toRat_earned_of_manualOutcome
        ((sitting.rows row shown).max paper) granted stored
      rawScore :=
        ⟨old, rawScore, before, rfl, raw.trans (worth ▸ worthNow), raw⟩
      percentage := ⟨percentage, rfl, percent⟩
      status := by
        change totals.statusAfterManual = _
        rw [Totals.statusAfterManual, Totals.needsReview_of_totals? summed,
          any_needsManual_sheet] }

/-! ## Requests that bring no score -/

/-- Who brings no score for an answer is refused, and nothing changes. -/
theorem Handle.reviewAnswer_of_none {context : Context} {request : HttpRequest}
    (world : World) (none : Handle.scoreGiven? context request = none) :
    ∃ halt, Handle.endpoint request (.reviewAnswer answerId) context world =
        (.error halt, world) ∧
      ∀ refusal, halt = .refused refusal → 300 ≤ refusal.reply.status := by
  have explained : ∀ error : ApiError,
      300 ≤ (Refusal.explained error).reply.status := by
    intro error
    cases error <;> simp [Refusal.reply, ApiError.status]
  by_cases known : ∃ caller,
    Access.caller? context.settings context.now request = some (.ok caller)
  · obtain ⟨caller, known⟩ := known
    unfold scoreGiven? at none
    rw [known] at none
    by_cases may : caller.role.canAuthor = true
    · have author : Handle.author request context world = _ :=
        Handle.author_eq_ok known may
      have untaken : taken? request Review.form Review.faults =
          Option.none := by
        simpa [may] using none
      obtain ⟨refusal, failed, status⟩ : ∃ refusal : Refusal,
          Handle.bounded request Review.form Review.faults context world =
            (.error (.refused refusal), world) ∧
          300 ≤ refusal.reply.status := by
        unfold taken? at untaken
        unfold Handle.bounded Handle.body
        cases read : HttpBody.read request Review.form with
        | error fault =>
            refine ⟨.ofBody fault, rfl, ?_⟩
            cases fault <;>
              simp [Refusal.ofBody, Refusal.reply, BodyFault.status]
        | ok review =>
            rw [read] at untaken
            cases broken : Review.faults review with
            | nil => simp [broken] at untaken
            | cons fault faults =>
                refine ⟨.ofFaults (fault :: faults), ?_, explained _⟩
                rw [show (Handle.orRefuse Refusal.ofBody (.ok review) : Action
                    Refusal Review) = pure review from rfl, pure_bind, broken]
                rfl
      refine ⟨.refused refusal, (Action.bind_apply_of_ok author).trans
        (Action.bind_apply_of_error failed), ?_⟩
      rintro _ ⟨rfl⟩
      exact status
    · have refused : Handle.author request context world =
          (.error (.refused (.explained Access.authorsOnly)), world) := by
        refine (Action.bind_apply_of_ok (Handle.caller_eq_ok known)).trans ?_
        rw [Access.author, if_neg may]
        rfl
      refine ⟨_, Action.bind_apply_of_error refused, ?_⟩
      rintro _ ⟨rfl⟩
      exact explained _
  · obtain ⟨halt, failed, told⟩ :=
      Handle.caller_of_unknown world fun caller same => known ⟨caller, same⟩
    refine ⟨halt,
      Action.bind_apply_of_error (Action.bind_apply_of_error failed), ?_⟩
    intro refusal same
    obtain ⟨error, rfl⟩ := told refusal same
    exact explained error

namespace Session

variable {opening session : Session} {step : Step}

/-- The answer that a step wants to have scored. -/
def scoredAnswer? (session : Session) : Step → Option String
  | .call request credential =>
    match Server.called? session.settings (session.signed request credential)
        with
    | some (.reviewAnswer answerId) => some answerId
    | _ => none
  | _ => none

/-- Who scores an answer by a step, and what the step brings for it. -/
def scoreGiven? (session : Session) : Step → Option (Caller × Review)
  | .call request credential =>
    Handle.scoreGiven? session.context (session.signed request credential)
  | _ => none

@[simp] theorem scoredAnswer?_store (session : Session) (store : Store)
    (step : Step) :
    ({ session with store }).scoredAnswer? step =
      session.scoredAnswer? step := by
  cases step <;> rfl

@[simp] theorem scoreGiven?_store (session : Session) (store : Store)
    (step : Step) :
    ({ session with store }).scoreGiven? step = session.scoreGiven? step := by
  cases step <;> rfl

/-- A step that wants an answer scored is a call. -/
theorem exists_call_of_scoredAnswer?
    (asked : session.scoredAnswer? step = some answerId) :
    ∃ request credential, step = .call request credential ∧
      Server.called? session.settings (session.signed request credential) =
        some (.reviewAnswer answerId) := by
  cases step with
  | call request credential =>
      simp only [scoredAnswer?] at asked
      split at asked
      · next called =>
          cases asked
          exact ⟨request, credential, rfl, called⟩
      · cases asked
  | _ => cases asked

theorem run_of_scoredAnswer?
    (asked : session.scoredAnswer? step = some answerId) :
    (session.run step).2 =
      { session with store := (session.run step).2.store } := by
  obtain ⟨request, credential, rfl, -⟩ := exists_call_of_scoredAnswer? asked
  exact run_call_session session request credential

theorem isService_of_scoredAnswer? {now : Instant}
    (asked : session.scoredAnswer? step = some answerId) :
    step.IsService true now := by
  obtain ⟨request, credential, rfl, -⟩ := exists_call_of_scoredAnswer? asked
  trivial

/-- A request that brings no score does not succeed, and nothing changes. -/
theorem run_of_scoreGiven?_none {request : HttpRequest}
    {credential : Credential}
    (called : Server.called? session.settings
      (session.signed request credential) = some (.reviewAnswer answerId))
    (none : Handle.scoreGiven? session.context
      (session.signed request credential) = none) :
    (session.run (.call request credential)).2.store = session.store ∧
    ¬(session.run (.call request credential)).1.result.IsSuccess := by
  obtain ⟨halt, failed, told⟩ :=
    Handle.reviewAnswer_of_none ⟨session.store, []⟩ none
  obtain ⟨result, left⟩ := run_of_called called
  rw [failed] at result left
  refine ⟨left, ?_⟩
  rw [result]
  cases halt with
  | refused refusal =>
      have status := told refusal rfl
      exact StepResult.not_isSuccess
        (congrArg some (Server.status_sent _ _ refusal.reply)) (by omega)
  | outOfRange => exact fun success => nomatch success

/-- Steps want different answers of an attempt scored. -/
structure ScoresApart (session : Session) (attemptId : String)
    (steps : List Step) : Prop where
  apart : (steps.map session.scoredAnswer?).Nodup
  own : ∀ step ∈ steps, ∃ row ∈ session.store.answers,
    row.attemptId = attemptId ∧ session.scoredAnswer? step = some row.id

theorem ScoresApart.of_perm {steps others : List Step}
    (apart : session.ScoresApart attemptId steps)
    (reordered : others.Perm steps) : session.ScoresApart attemptId others where
  apart := (reordered.map _).nodup_iff.mpr apart.apart
  own step inside := apart.own step (reordered.mem_iff.mp inside)

theorem ScoresApart.of_cons {steps : List Step}
    (apart : session.ScoresApart attemptId (step :: steps)) :
    session.ScoresApart attemptId steps where
  apart := (List.nodup_cons.mp apart.apart).2
  own other inside := apart.own other (List.mem_cons_of_mem step inside)

/-- Where the store differs in scores only, the steps want the same scored. -/
theorem ScoresApart.congr {steps : List Step}
    (apart : session.ScoresApart attemptId steps)
    (alike : session.store.IsAlike store) :
    ({ session with store }).ScoresApart attemptId steps := by
  constructor
  · rw [funext (scoredAnswer?_store session store)]
    exact apart.apart
  · intro step inside
    obtain ⟨row, listed, own, asked⟩ := apart.own step inside
    obtain ⟨row', listed', same⟩ := exists_mem_of_map_eq alike.answers listed
    simp only [Prod.mk.injEq] at same
    exact ⟨row', listed', same.2.1.trans own, by simpa [same.1] using asked⟩

/-- A step brings a score that fits an answer, from who manages the
assignment. -/
structure BringsScore (session : Session) (attempt : Attempt)
    (row : SavedAnswer (Stored Answer)) (step : Step) (reviewer : Caller)
    (review : Review) : Prop where
  asked : session.scoredAnswer? step = some row.id
  given : session.scoreGiven? step = some (reviewer, review)
  manages : Manages session.store reviewer attempt.assignmentId
  reviewer : FitsId reviewer.id
  feedback : ∀ feedback, review.feedback = some feedback →
    Column.hasNul feedback = false
  nonneg : 0 ≤ (roundPoints review.score).toRat
  less : (roundPoints review.score).toRat ≤ row.maxPoints.toRat

/-! ## Scores in a service that runs -/

section Reached

variable (lawful : opening.store.Lawful) (unused : opening.store.attempts = [])
  (papers : ∀ variant ∈ opening.store.variants, ∃ questions,
    variant.questions.value? = some questions ∧ IsPaper questions)
  (run : Serves true opening session)

include lawful unused papers run

/-- Every attempt in a service that runs is a sitting of a paper. -/
theorem Serves.exists_sitting (listed : attempt ∈ session.store.attempts) :
    ∃ questions, IsPaper questions ∧
      IsSitting questions session.store.answers attempt := by
  -- Outages do not matter to what the tables say.
  have restored : Serves true opening
      { session with store := { session.store with outages := [] } } :=
    .tail run ⟨.loseTables [], rfl, rfl⟩
  obtain ⟨questions, -, paper, sitting⟩ :=
    (restored.reliable lawful unused papers rfl).exists_sitting listed
  exact ⟨questions, paper, sitting⟩

/-- The scores of an attempt can be summed up with every score that is
admitted. -/
theorem Serves.exists_sumsUp
    (admits :
      session.store.Admits now reviewer answerId review attemptId mark) :
    (∀ row ∈ session.store.answers, row.attemptId = attemptId →
      row.read?.isSome) ∧
    ∃ after, SumsUp now attemptId (session.store.marking mark) after := by
  have lawful' :=
    (Serves.sound run (isSound_of_no_attempts lawful unused)).1.lawful
  obtain @⟨attempt, row, outcome, earned, gradedBy, -, -, listed, scored, -,
    inside, rfl, -, granted, stored, -⟩ := admits
  obtain ⟨questions, paper, sitting⟩ :=
    Serves.exists_sitting lawful unused papers run listed
  refine ⟨fun row inside own =>
      (sitting.rows row (mem_rowsOf.mpr ⟨inside, own⟩)).readable, ?_⟩
  have full := sitting.isFullSheet_reviewed lawful' paper scored inside granted
    stored gradedBy ⟨outcome, review.feedback, reviewer.id, now⟩
  obtain ⟨totals, summed, -, rawScore, maxScore, percentage, scores⟩ :=
    @IsFullSheet.exists_totals _ (session.store.marking ⟨row.id, earned,
      gradedBy, ⟨outcome, review.feedback, reviewer.id, now⟩⟩) _ full paper
      sitting.fits
  exact ⟨_, .intro summed scores⟩

/-- What is refused has not been admitted. -/
theorem Serves.not_admits_of_review_error {halt : Halt AttemptError}
    {world : World}
    (failed : Exam.review reviewer answerId review
      session.context ⟨session.store, []⟩ = (.error halt, world))
    (attemptId : String) (mark : HandMark) :
    ¬session.store.Admits session.now reviewer answerId review attemptId
      mark := by
  intro admits
  have lawful' :=
    (Serves.sound run (isSound_of_no_attempts lawful unused)).1.lawful
  obtain ⟨readable, after, sums⟩ :=
    Serves.exists_sumsUp lawful unused papers run admits
  obtain ⟨result, ended⟩ :=
    Exam.review_of_admits session.context lawful' [] readable admits sums
  cases failed.symm.trans ended

/-- A step that wants an answer scored succeeds if and only if the score is
admitted, and leaves its mark then. -/
theorem Serves.run_scored (asked : session.scoredAnswer? step = some answerId) :
    session.store.ScoredBy session.now answerId (session.scoreGiven? step)
      (session.run step).2.store ∧
    ((session.run step).1.result.IsSuccess ↔ ∃ reviewer review attemptId mark,
      session.scoreGiven? step = some (reviewer, review) ∧ session.store.Admits
        session.now reviewer answerId review attemptId mark) := by
  have lawful' :=
    (Serves.sound run (isSound_of_no_attempts lawful unused)).1.lawful
  obtain ⟨request, credential, rfl, called⟩ :=
    exists_call_of_scoredAnswer? asked
  change _ ∧
    (_ ↔ ∃ reviewer review attemptId mark, Handle.scoreGiven? session.context
      (session.signed request credential) = some (reviewer, review) ∧ _)
  rw [show session.scoreGiven? (.call request credential) = Handle.scoreGiven?
    session.context (session.signed request credential) from rfl]
  cases given : Handle.scoreGiven? session.context
      (session.signed request credential) with
  | none =>
      obtain ⟨left, fails⟩ := run_of_scoreGiven?_none called given
      rw [left]
      refine ⟨.refused nofun, iff_of_false fails ?_⟩
      rintro ⟨reviewer, review, attemptId, mark, brought, -⟩
      cases brought
  | some scorer =>
      obtain ⟨reviewer, review⟩ := scorer
      obtain ⟨status, left⟩ := answersAs_of_performs called
        (Handle.reviewAnswer_performs session.context given)
      rcases Exam.review_cases session.context reviewer answerId review
          lawful' [] with
        ⟨halt, failed⟩ | ⟨attemptId, mark, result, after, admits, sums, ended⟩
      · have unadmitted :=
          Serves.not_admits_of_review_error lawful unused papers run failed
        rw [failed] at status left
        rw [left]
        constructor
        · refine .refused ?_
          rintro _ _ ⟨⟩
          exact unadmitted
        · refine iff_of_false ?_ ?_
          · cases halt with
            | refused error =>
                refine StepResult.not_isSuccess status ?_
                cases error <;> simp [ApiError.ofAttempt, ApiError.status]
            | outOfRange =>
                rintro ⟨_, same, -⟩
                cases status.symm.trans same
          · rintro ⟨_, _, attemptId, mark, ⟨⟩, admits⟩
            exact unadmitted attemptId mark admits
      · rw [ended] at status left
        rw [left]
        refine ⟨.marked admits sums, iff_of_true ?_ ?_⟩
        · exact ⟨200, status, Nat.le_refl _, by decide⟩
        · exact ⟨reviewer, review, attemptId, mark, rfl, admits⟩

/-- Scores of two answers of an attempt leave the same in either order. -/
theorem Serves.run_scored_comm {left right : SavedAnswer (Stored Answer)}
    {first second : Step} (leftListed : left ∈ session.store.answers)
    (rightListed : right ∈ session.store.answers)
    (same : left.attemptId = right.attemptId) (apart : left.id ≠ right.id)
    (asksLeft : session.scoredAnswer? first = some left.id)
    (asksRight : session.scoredAnswer? second = some right.id) :
    ((session.run second).2.run first).2 =
      ((session.run first).2.run second).2 := by
  have lawful' :=
    (Serves.sound run (isSound_of_no_attempts lawful unused)).1.lawful
  have afterFirst : Serves true opening (session.run first).2 :=
    .tail run ⟨first, isService_of_scoredAnswer? asksLeft, rfl⟩
  have afterSecond : Serves true opening (session.run second).2 :=
    .tail run ⟨second, isService_of_scoredAnswer? asksRight, rfl⟩
  have scoresLeft := (Serves.run_scored lawful unused papers run asksLeft).1
  have scoresRight := (Serves.run_scored lawful unused papers run asksRight).1
  have left := run_of_scoredAnswer? asksLeft
  have right := run_of_scoredAnswer? asksRight
  generalize (session.run first).2.store = leftStore at left scoresLeft
  generalize (session.run second).2.store = rightStore at right scoresRight
  rw [left] at afterFirst ⊢
  rw [right] at afterSecond ⊢
  have asksRight' :=
    (scoredAnswer?_store session leftStore second).trans asksRight
  have asksLeft' :=
    (scoredAnswer?_store session rightStore first).trans asksLeft
  have scoresRight' :=
    (Serves.run_scored lawful unused papers afterFirst asksRight').1
  have scoresLeft' :=
    (Serves.run_scored lawful unused papers afterSecond asksLeft').1
  rw [scoreGiven?_store] at scoresRight' scoresLeft'
  rw [run_of_scoredAnswer? asksRight', run_of_scoredAnswer? asksLeft']
  rw [scoresLeft.comm lawful' leftListed rightListed same apart scoresRight'
    scoresRight scoresLeft']

/-- After a score the rest of the steps want the same scored, and what has been
admitted before still is. -/
theorem Serves.run_scored_isAlike
    (asked : session.scoredAnswer? step = some answerId) :
    session.store.IsAlike (session.run step).2.store :=
  (Serves.run_scored lawful unused papers run asked).1.isAlike (Serves.sound run
      (isSound_of_no_attempts lawful unused)).1.lawful.sittings.ids

/-- Scores of different answers of an attempt leave the same in any order. -/
theorem Serves.after_scored_perm {steps others : List Step}
    (reordered : others.Perm steps)
    (apart : session.ScoresApart attemptId steps) :
    session.after others = session.after steps := by
  induction reordered generalizing session with
  | nil => rfl
  | cons step rest ih =>
      obtain ⟨row, -, -, asked⟩ := apart.own step List.mem_cons_self
      have alike := Serves.run_scored_isAlike lawful unused papers run asked
      apply ih (.tail run ⟨step, isService_of_scoredAnswer? asked, rfl⟩)
      rw [run_of_scoredAnswer? asked]
      exact apart.of_cons.congr alike
  | swap first second rest =>
      obtain ⟨left, leftListed, leftOwn, asksLeft⟩ :=
        apart.own first List.mem_cons_self
      obtain ⟨right, rightListed, rightOwn, asksRight⟩ :=
        apart.own second (List.mem_cons_of_mem _ List.mem_cons_self)
      have differ : left.id ≠ right.id := by
        intro same
        have twice := (List.nodup_cons.mp apart.apart).1
        rw [List.map_cons, asksLeft, asksRight, same] at twice
        exact twice List.mem_cons_self
      simp only [after]
      rw [Serves.run_scored_comm lawful unused papers run leftListed rightListed
        (leftOwn.trans rightOwn.symm) differ asksLeft asksRight]
  | trans _ late ihEarly ihLate =>
      exact (ihEarly run (apart.of_perm late)).trans (ihLate run apart)

/-- Scores that would succeed each for itself all succeed one after another. -/
theorem Serves.all_scored_succeed {steps : List Step}
    (apart : session.ScoresApart attemptId steps)
    (each : ∀ step ∈ steps, (session.run step).1.result.IsSuccess) :
    ∀ outcome ∈ session.runAll steps, outcome.result.IsSuccess := by
  induction steps generalizing session with
  | nil => exact List.forall_mem_nil _
  | cons step rest ih =>
      obtain ⟨row, -, -, asked⟩ := apart.own step List.mem_cons_self
      have alike := Serves.run_scored_isAlike lawful unused papers run asked
      have next : Serves true opening (session.run step).2 :=
        .tail run ⟨step, isService_of_scoredAnswer? asked, rfl⟩
      rw [runAll_cons]
      refine List.forall_mem_cons.mpr ⟨each step List.mem_cons_self,
        ih next ?_ ?_⟩
      · rw [run_of_scoredAnswer? asked]
        exact apart.of_cons.congr alike
      · intro later inside
        obtain ⟨_, -, -, asked'⟩ :=
          apart.own later (List.mem_cons_of_mem _ inside)
        obtain ⟨reviewer, review, attemptId, mark, given, admits⟩ :=
          (Serves.run_scored lawful unused papers run asked').2.mp
            (each later (List.mem_cons_of_mem _ inside))
        rw [run_of_scoredAnswer? asked] at next ⊢
        have asks :=
          (scoredAnswer?_store session (session.run step).2.store later).trans
            asked'
        apply (Serves.run_scored lawful unused papers next asks).2.mpr
        exact ⟨reviewer, review, attemptId, mark,
          (scoreGiven?_store _ _ _).trans given, admits.congr alike⟩

/-- A score that fits its answer, from who manages the assignment, succeeds if
the tables can be reached. -/
theorem Serves.run_scored_succeeds (reach : session.store.outages = [])
    (listed : attempt ∈ session.store.attempts)
    (scored : attempt.status.isScored = true)
    (inside : row ∈ session.store.answers) (own : row.attemptId = attempt.id)
    (brings : session.BringsScore attempt row step reviewer review) :
    (session.run step).1.result.IsSuccess := by
  have lawful' :=
    (Serves.sound run (isSound_of_no_attempts lawful unused)).1.lawful
  obtain ⟨questions, paper, sitting⟩ :=
    Serves.exists_sitting lawful unused papers run listed
  have shown := sitting.rows row (mem_rowsOf.mpr ⟨inside, own⟩)
  obtain ⟨question, asked, -, points⟩ := shown.question
  have small : row.maxPoints.toRat < Column.pointsBound := by
    rw [points]
    exact (points_le_totalPoints paper asked).trans_lt sitting.fits
  obtain ⟨outcome, granted⟩ :
      ∃ outcome, manualOutcome row.maxPoints review.score = .ok outcome := by
    have fair : ¬(roundPoints review.score < Decimal.zero ∨
        roundPoints row.maxPoints < roundPoints review.score) := by
      rw [not_or, Decimal.lt_iff_toRat, Decimal.lt_iff_toRat, not_lt, not_lt,
        Decimal.toRat_zero, (shown.max paper).toRat_roundPoints]
      exact ⟨brings.nonneg, brings.less⟩
    exact ⟨_, if_neg fair⟩
  have within := (manualOutcome_within (shown.max paper) granted).1
  obtain ⟨earned, stored, -⟩ :=
    Column.exists_points within.earned (within.less.trans_lt small)
  apply (Serves.run_scored lawful unused papers run brings.asked).2.mpr
  refine ⟨reviewer, review, attempt.id, _, brings.given,
    .intro ?_ ?_ listed scored brings.manages inside rfl own granted stored
      brings.reviewer.id_eq_ok⟩
  · intro text written
    simp only [List.cons_append, List.nil_append, List.mem_cons,
      Option.mem_toList] at written
    rcases written with rfl | rfl | feedback
    · exact lawful'.sittings.answerKeys row inside
    · exact brings.reviewer.plain
    · exact brings.feedback text feedback
  · intro table _ lost
    rw [reach] at lost
    cases lost

/-- Of two scores of an answer the second one stays. -/
theorem Serves.run_scored_again {earlier : Step}
    (inside : row ∈ session.store.answers)
    (asked : session.scoredAnswer? step = some row.id)
    (succeeds : (session.run step).1.result.IsSuccess)
    (askedBefore : session.scoredAnswer? earlier = some row.id) :
    ((session.run earlier).2.run step).2 = (session.run step).2 := by
  have lawful' :=
    (Serves.sound run (isSound_of_no_attempts lawful unused)).1.lawful
  have next : Serves true opening (session.run earlier).2 :=
    .tail run ⟨earlier, isService_of_scoredAnswer? askedBefore, rfl⟩
  have first := (Serves.run_scored lawful unused papers run askedBefore).1
  obtain ⟨alone, accepted⟩ := Serves.run_scored lawful unused papers run asked
  obtain ⟨reviewer, review, attemptId, mark, given, admits⟩ :=
    accepted.mp succeeds
  have between := run_of_scoredAnswer? askedBefore
  generalize (session.run earlier).2.store = middle at between first
  rw [between] at next ⊢
  have asked' := (scoredAnswer?_store session middle step).trans asked
  have second := (Serves.run_scored lawful unused papers next asked').1
  rw [scoreGiven?_store, given] at second
  rw [given] at alone
  rw [run_of_scoredAnswer? asked', run_of_scoredAnswer? asked]
  rw [first.again lawful' inside admits second alone]

/-- A score that succeeds goes into its row, and the attempt gets the sums of
its rows. -/
theorem Serves.run_scored_rescores (listed : attempt ∈ session.store.attempts)
    (inside : row ∈ session.store.answers) (own : row.attemptId = attempt.id)
    (asked : session.scoredAnswer? step = some row.id)
    (succeeds : (session.run step).1.result.IsSuccess) :
    ∃ reviewer review marked summed,
      session.scoreGiven? step = some (reviewer, review) ∧
      session.store.Rescores attempt row review.score (session.run step).2.store
        marked summed := by
  have lawful' :=
    (Serves.sound run (isSound_of_no_attempts lawful unused)).1.lawful
  obtain ⟨questions, paper, sitting⟩ :=
    Serves.exists_sitting lawful unused papers run listed
  obtain ⟨scores, accepted⟩ := Serves.run_scored lawful unused papers run asked
  obtain ⟨reviewer, review, attemptId, mark, given, admits⟩ :=
    accepted.mp succeeds
  obtain ⟨rfl, -⟩ := admits.attemptId_eq lawful' inside
  rw [given] at scores
  rw [own] at admits
  have sums := ScoredBy.eq_marked lawful' ⟨rfl, rfl, rfl, rfl⟩ admits scores
  obtain ⟨summed, rescores⟩ :=
    admits.exists_rescores sums lawful' paper sitting listed inside
  exact ⟨reviewer, review, _, summed, given, rescores⟩

/-- A score that does not succeed changes nothing. -/
theorem Serves.run_unscored (asked : session.scoredAnswer? step = some answerId)
    (fails : ¬(session.run step).1.result.IsSuccess) :
    (session.run step).2 = session := by
  obtain ⟨scores, accepted⟩ := Serves.run_scored lawful unused papers run asked
  have refused := ScoredBy.eq_self ⟨rfl, rfl, rfl, rfl⟩
    (fun reviewer review given attemptId mark admits => fails
      (accepted.mpr ⟨reviewer, review, attemptId, mark, given, admits⟩)) scores
  rw [run_of_scoredAnswer? asked, refused]

end Reached

/-- In every state that a service reaches, scores of different answers of an
attempt leave the same in any order, and those that would succeed each for
itself succeed in any order.  A score that fits its answer succeeds.  One that
succeeds goes into the row of its answer and into no other row, needs no review
any more, and changes the score of the attempt by the new minus the old points;
the attempt is graded if and only if no row needs a review then.  One that does
not succeed changes nothing.  Of two scores of an answer the second one
stays. -/
theorem hand_scores_are_recomputed (lawful : opening.store.Lawful)
    (unused : opening.store.attempts = [])
    (papers : ∀ variant ∈ opening.store.variants, ∃ questions,
      variant.questions.value? = some questions ∧ IsPaper questions)
    (run : Serves true opening session)
    (listed : attempt ∈ session.store.attempts)
    (scored : attempt.status.isScored = true) :
    (∀ steps others, others.Perm steps → session.ScoresApart attempt.id steps →
      session.after others = session.after steps ∧
      ((∀ step ∈ steps, (session.run step).1.result.IsSuccess) →
        ∀ outcome ∈ session.runAll others, outcome.result.IsSuccess)) ∧
    ∀ row ∈ session.store.answers, row.attemptId = attempt.id → ∀ step,
        session.scoredAnswer? step = some row.id →
        (∀ reviewer review, session.store.outages = [] →
          session.BringsScore attempt row step reviewer review →
          (session.run step).1.result.IsSuccess) ∧
        (¬(session.run step).1.result.IsSuccess →
          (session.run step).2 = session) ∧
        ((session.run step).1.result.IsSuccess →
          (∃ reviewer review marked summed, session.scoreGiven? step =
            some (reviewer, review) ∧ session.store.Rescores attempt row
              review.score (session.run step).2.store marked summed) ∧
          ∀ earlier, session.scoredAnswer? earlier = some row.id →
            ((session.run earlier).2.run step).2 = (session.run step).2) := by
  constructor
  · intro steps others reordered apart
    refine ⟨Serves.after_scored_perm lawful unused papers run reordered apart,
      fun each => ?_⟩
    apply Serves.all_scored_succeed lawful unused papers run
      (apart.of_perm reordered)
    intro step inside
    exact each step (reordered.mem_iff.mp inside)
  · intro row inside own step asked
    refine ⟨fun reviewer review reach brings => ?_, fun fails => ?_,
      fun succeeds => ⟨?_, ?_⟩⟩
    · exact Serves.run_scored_succeeds lawful unused papers run reach listed
        scored inside own brings
    · exact Serves.run_unscored lawful unused papers run asked fails
    · exact Serves.run_scored_rescores lawful unused papers run listed inside
        own asked succeeds
    · intro earlier askedBefore
      exact Serves.run_scored_again lawful unused papers run inside asked
        succeeds askedBefore

/-! ## A score for an essay -/

/-- The session once the student has handed in the test. -/
def afterHandIn : Session :=
  { listening "q" false with store := (handedIn "q" false).store }

theorem afterHandIn_serves :
    Serves true (withListener "q" false) afterHandIn := by
  have starts : Serves true (withListener "q" false) (listening "q" false) :=
    .single ⟨startsTest, trivial, (withListener_starts "q" false).2.symm⟩
  exact starts.tail ⟨.call submitRequest student, trivial,
    (listening_submits "q" false).2.symm⟩

/-- The request of the owner of the test to give the essay one point. -/
def scoringRequest : HttpRequest :=
  ⟨.post, "/answers/answer-1/grade", "", [("content-type", "application/json")],
    "\x7b\"score\":1\x7d"⟩

theorem handedIn_rows :
    ((handedIn "q" false).store.attempts.any fun attempt =>
      decide (attempt.id = "attempt-1" ∧ attempt.assignmentId = "a" ∧
        attempt.status.isScored = true)) = true ∧
      ((handedIn "q" false).store.answers.any fun row =>
        decide (row.id = "answer-1" ∧ row.attemptId = "attempt-1" ∧
          roundPoints .one ≤ row.maxPoints)) = true ∧
      (handedIn "q" false).store.outages = [] ∧
      ((handedIn "q" false).store.assignments.any fun assignment =>
        decide (assignment.id = "a" ∧ assignment.ownerId = "o")) = true := by
  decide +kernel

theorem afterHandIn_given :
    afterHandIn.scoredAnswer? (.call scoringRequest owner) = some "answer-1" ∧
    afterHandIn.scoreGiven? (.call scoringRequest owner) =
      some (⟨"o", .teacher⟩, ⟨.one, none⟩) := by
  have called : Server.called? afterHandIn.settings scoringRequest =
      some (.reviewAnswer "answer-1") := by
    decide +kernel
  have known : Access.caller? afterHandIn.settings afterHandIn.now
      (afterHandIn.signed scoringRequest owner) = some (.ok ⟨"o", .teacher⟩) :=
    withListener_owner "q" false scoringRequest
  have read : Review.form.readLeading (Text.utf8 scoringRequest.body) =
      .ok ⟨.one, none⟩ := by
    decide +kernel
  have taken : Handle.taken? (afterHandIn.signed scoringRequest owner)
      Review.form Review.faults = some ⟨.one, none⟩ := by
    rw [Handle.taken?, read_of_readLeading afterHandIn owner rfl read]
    rfl
  constructor
  · simp only [scoredAnswer?, called?_signed, called]
  · rw [scoreGiven?, Handle.scoreGiven?]
    rw [show Access.caller? afterHandIn.context.settings afterHandIn.context.now
      (afterHandIn.signed scoringRequest owner) =
      some (.ok ⟨"o", .teacher⟩) from known, taken]
    rfl

/-- The owner of the test gives one point for the essay, and so the attempt gets
a point. -/
theorem afterHandIn_hand_scores :
    ∃ attempt row, (withListener "q" false).store.Lawful ∧
      (withListener "q" false).store.attempts = [] ∧
      Serves true (withListener "q" false) afterHandIn ∧
      attempt ∈ afterHandIn.store.attempts ∧ attempt.status.isScored = true ∧
      row ∈ afterHandIn.store.answers ∧
      afterHandIn.BringsScore attempt row (.call scoringRequest owner)
        ⟨"o", .teacher⟩ ⟨.one, none⟩ ∧
      (afterHandIn.run (.call scoringRequest owner)).1.result.IsSuccess ∧
      ∃ marked summed, afterHandIn.store.Rescores attempt row .one
          (afterHandIn.run (.call scoringRequest owner)).2.store marked
          summed := by
  obtain ⟨attempts, answers, reach, assignments⟩ := handedIn_rows
  obtain ⟨attempt, listed, facts⟩ := List.any_eq_true.mp attempts
  obtain ⟨id, assigned, scored⟩ := of_decide_eq_true facts
  obtain ⟨row, inside, facts⟩ := List.any_eq_true.mp answers
  obtain ⟨rowId, own, points⟩ := of_decide_eq_true facts
  obtain ⟨assignment, given, facts⟩ := List.any_eq_true.mp assignments
  obtain ⟨assignmentId, ownerId⟩ := of_decide_eq_true facts
  obtain ⟨asked, brought⟩ := afterHandIn_given
  rw [← rowId] at asked
  have may : (⟨"o", .teacher⟩ : Caller).mayManage assignment.ownerId =
      true := by
    rw [ownerId]
    decide
  have brings : afterHandIn.BringsScore attempt row (.call scoringRequest owner)
      ⟨"o", .teacher⟩ ⟨.one, none⟩ :=
    { asked
      given := brought
      manages := ⟨assignment, given, assignmentId.trans assigned.symm, may⟩
      reviewer := ⟨by decide +kernel, by decide⟩
      feedback := nofun
      nonneg := by decide +kernel
      less := Decimal.le_iff_toRat.mp points }
  obtain ⟨-, each⟩ := hand_scores_are_recomputed (withListener_lawful "q" false)
    rfl (withListener_papers false) afterHandIn_serves listed scored
  obtain ⟨succeeds, -, changes⟩ := each row inside (own.trans id.symm) _ asked
  have success := succeeds _ _ reach brings
  obtain ⟨reviewer, review, marked, summed, same, rescores⟩ :=
    (changes success).1
  cases brought.symm.trans same
  exact ⟨attempt, row, withListener_lawful "q" false, rfl, afterHandIn_serves,
    listed, scored, inside, brings, success, marked, summed, rescores⟩

end Session

end ExamHall
