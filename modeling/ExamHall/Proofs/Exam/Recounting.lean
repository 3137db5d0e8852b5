import ExamHall.Proofs.Attempt.Trace
import ExamHall.Proofs.Exam.Batching
import ExamHall.Proofs.Exam.Sweeping
import ExamHall.Proofs.Exam.Violating

/-!
# Events recount what happens

Where nothing stands in the way, the events that an operation tells recount what
it does to the attempts.  Whichever way an attempt is closed, its submission is
told first, and then its grading.

Each event shows its attempt as it was when the event was told.  What it shows
can be read off the tables when the operation has ended: closing an attempt
keeps its marks and the values of its answers.
-/

namespace ExamHall

open Store ExamHall.Action

/-- Whether an event of a kind may show an attempt with a status. -/
def ProgressKind.fits : ProgressKind → AttemptStatus → Bool
  | .started, .inProgress | .answerSaved, .inProgress => true
  | .violation, .inProgress => true
  | .violation, .submitted | .submitted, .submitted => true
  | .graded, status => status.isScored
  | _, _ => false

/-- The status in which an event of a kind shows an attempt that is left in some
status when all is done. -/
def ProgressKind.shown : ProgressKind → AttemptStatus → AttemptStatus
  | .started, _ | .answerSaved, _ => .inProgress
  | .violation, .inProgress => .inProgress
  | .violation, _ | .submitted, _ => .submitted
  | .graded, left => left

/-- The number of the answers to an attempt that have a value. -/
def Store.valued (store : Store) (attemptId : String) : Nat :=
  store.answers.countP fun answer =>
    answer.attemptId == attemptId && answer.value.isSome

/-- An event of now shows an attempt as the tables have it, and counts its
answers that have a value. -/
structure ProgressEvent.IsOf (now : Instant) (store : Store)
    (event : ProgressEvent) : Prop where
  listed : event.attempt ∈ store.attempts
  fits : event.kind.fits event.attempt.status = true
  answered : event.answeredCount = store.valued event.attempt.id
  occurredAt : event.occurredAt = now

/-- An event shows what is left of its attempt when all is done: the same row,
with the same number of violations, and with the status that its kind shows; and
it counts the answers that have a value. -/
structure ProgressEvent.Shows (after : Store) (event : ProgressEvent) :
    Prop where
  left : ∃ row ∈ after.attempts, event.attempt.KeepsMarks row ∧
    event.attempt.status = event.kind.shown row.status
  answered : event.answeredCount = after.valued event.attempt.id

/-- Some events are told one after another while a store becomes another one,
each of them of an attempt as it is at that point. -/
inductive Told (now : Instant) : Store → List ProgressEvent → Store → Prop where
  | quiet {before after : Store} (reached : Reaches now before after) :
      Told now before [] after
  | tell {before middle after : Store} {event : ProgressEvent}
      {rest : List ProgressEvent} (reached : Reaches now before middle)
      (is : event.IsOf now middle) (told : Told now middle rest after) :
      Told now before (event :: rest) after

/-- Some events recount how a store has become another one.  Each of them shows
what is left of its attempt.  Together they tell on which attempts answers have
been saved, and on which violations have been reported. -/
structure Recounts (now : Instant) (before : Store)
    (saved reported : List String) (events : List ProgressEvent)
    (after : Store) : Prop where
  told : Told now before events after
  shows : ∀ event ∈ events, event.Shows after
  traces : Traces before.phase events after.phase
  saved : toldOf .answerSaved events = saved
  reported : toldOf .violation events = reported

variable {now : Instant} {before middle after store : Store}
  {attempt submitted graded : Attempt} {event : ProgressEvent}
  {events more : List ProgressEvent}

/-! ## What an event shows -/

theorem Store.valued_eq_countP_rowsOf (store : Store) (attemptId : String) :
    store.valued attemptId =
      (rowsOf attemptId store.answers).countP fun answer =>
        answer.value.isSome := by
  rw [rowsOf, List.countP_filter, Store.valued]
  exact congrArg (List.countP · _) (funext fun answer => Bool.and_comm _ _)

/-- Where nothing is saved, the same answers have values. -/
theorem Store.SavesNothing.valued (nothing : before.SavesNothing after)
    (attemptId : String) :
    after.valued attemptId = before.valued attemptId := by
  obtain ⟨answers, -⟩ := nothing
  unfold Store.valued
  generalize after.answers = rows at answers
  generalize before.answers = olds at answers
  induction answers with
  | new blank =>
      refine List.countP_eq_zero.mpr fun row inside => ?_
      simp [(blank row inside).1.value]
  | cons step _ ih =>
      rw [List.countP_cons, List.countP_cons, ih]
      rcases step with rfl | kept
      · rfl
      · rw [kept.attemptId, kept.value]

namespace ProgressEvent

theorem IsOf.shows (isOf : event.IsOf now store) : event.Shows store where
  left := by
    refine ⟨_, isOf.listed, .refl _, ?_⟩
    have fits := isOf.fits
    cases kind : event.kind <;> cases status : event.attempt.status <;>
      rw [kind, status] at fits <;> first | rfl | cases fits
  answered := isOf.answered

/-- What is shown of an attempt stays so where its row keeps its marks and shows
the same status, and its answers keep their values. -/
theorem Shows.later (shows : event.Shows before)
    (kept : ∀ row ∈ before.attempts, row.id = event.attempt.id →
      ∃ left ∈ after.attempts, row.KeepsMarks left ∧
        event.kind.shown left.status = event.kind.shown row.status)
    (same : after.valued event.attempt.id = before.valued event.attempt.id) :
    event.Shows after where
  left := by
    obtain ⟨row, listed, marks, status⟩ := shows.left
    obtain ⟨left, present, later, alike⟩ := kept row listed marks.kept.id
    exact ⟨left, present, marks.trans later, status.trans alike.symm⟩
  answered := shows.answered.trans (congrArg _ same.symm)

/-- What is shown of one attempt stays so where only another one is touched. -/
theorem Shows.of_ne {attemptId : String} (shows : event.Shows before)
    (touches : Touches attemptId before after)
    (other : event.attempt.id ≠ attemptId) : event.Shows after := by
  refine shows.later (fun row listed id => ?_) ?_
  · exact ⟨row, touches.mem_of_ne listed (id ▸ other), .refl _, rfl⟩
  · rw [valued_eq_countP_rowsOf, touches.rowsOf_eq other,
      ← valued_eq_countP_rowsOf]

/-- What is shown of an attempt that has been submitted stays so when it is
graded. -/
theorem Shows.of_gradesInto (shows : event.Shows store)
    (into : GradesInto now store submitted graded after)
    (ids : (store.attempts.map (·.id)).Nodup)
    (of : event.attempt.id = submitted.id)
    (early : event.kind = .violation ∨ event.kind = .submitted) :
    event.Shows after := by
  refine shows.later (fun row listed id => ?_) (into.savesNothing.valued _)
  obtain rfl := eq_of_key ids listed into.mem (id.trans of)
  obtain ⟨present, -, -, scored⟩ := into.listed
  obtain ⟨_, _, totals, _, _, _, _, grades, -, same, -⟩ := into
  refine ⟨graded, present, ?_, ?_⟩
  · rw [same]
    exact .scored _ _ _ totals.isScored_statusAfterAuto
  · rw [grades.submitted]
    rcases early with kind | kind <;> rw [kind] <;>
      cases status : graded.status <;> rw [status] at scored <;>
      first | rfl | cases scored

end ProgressEvent

/-! ## Events one after another -/

namespace Told

theorem reached (told : Told now before events after) :
    Reaches now before after := by
  induction told with
  | quiet reached => exact reached
  | tell reached _ _ ih => exact reached.trans ih

/-- What is told from a point on is told from before it on. -/
theorem since (reached : Reaches now before middle)
    (told : Told now middle events after) : Told now before events after := by
  cases told with
  | quiet reached' => exact .quiet (reached.trans reached')
  | tell reached' is rest => exact .tell (reached.trans reached') is rest

theorem append (early : Told now before events middle)
    (late : Told now middle more after) :
    Told now before (events ++ more) after := by
  induction early with
  | quiet reached => exact late.since reached
  | tell reached is _ ih => exact .tell reached is (ih late)

/-- An event that is told of what has just been reached. -/
theorem single {event : ProgressEvent} (reached : Reaches now before after)
    (is : event.IsOf now after) : Told now before [event] after :=
  .tell reached is (.quiet .refl)

end Told

namespace Recounts

theorem reached {saved reported : List String}
    (recounts : Recounts now before saved reported events after) :
    Reaches now before after :=
  recounts.told.reached

/-- Where nothing is told, no attempt has got on. -/
theorem quiet (reached : Reaches now before after)
    (same : after.phase = before.phase) :
    Recounts now before [] [] [] after where
  told := .quiet reached
  shows := List.forall_mem_nil _
  traces := same ▸ .refl _
  saved := rfl
  reported := rfl

theorem refl (store : Store) : Recounts now store [] [] [] store :=
  .quiet .refl rfl

/-- What has been told stays shown if what is done next is done to other
attempts. -/
theorem trans {saved saved' reported reported' : List String}
    (early : Recounts now before saved reported events middle)
    (late : Recounts now middle saved' reported' more after)
    (stays : ∀ event ∈ events, event.Shows middle → event.Shows after) :
    Recounts now before
      (saved ++ saved') (reported ++ reported') (events ++ more) after where
  told := early.told.append late.told
  shows := List.forall_mem_append.mpr ⟨fun event inside =>
      stays event inside (early.shows event inside), late.shows⟩
  traces := early.traces.append late.traces
  saved := by rw [toldOf_append, early.saved, late.saved]
  reported := by rw [toldOf_append, early.reported, late.reported]

end Recounts

theorem Store.answeredCount_eq (plain : Column.hasNul attempt.id = false)
    (reach : store.outages = []) :
    store.answeredCount attempt.id = store.valued attempt.id := by
  have counted : countAnswered attempt.id store =
      .ok (store.valued attempt.id, store) := by
    simp only [countAnswered, bind_eq_ok, Statement.plain_eq_ok,
      Statement.reach_eq_ok, get_eq_ok, pure_eq_ok]
    exact ⟨(), store, ⟨by simp [plain], rfl⟩, (), store,
      ⟨canReach_of_noOutages reach _, rfl⟩, store, store, ⟨rfl, rfl⟩, rfl, rfl⟩
  rw [answeredCount, counted]

namespace Exam

/-- What is told about an attempt that is there shows that attempt. -/
theorem eventOf_isOf {kind : ProgressKind}
    {variant : Variant (List VariantQuestion)} (reliable : store.IsReliable)
    (listed : attempt ∈ store.attempts)
    (fits : kind.fits attempt.status = true) :
    (eventOf kind attempt variant now store).IsOf now store where
  listed := listed
  fits := fits
  answered := congrArg Nat.cast (answeredCount_eq
      (reliable.lawful.sittings.keys attempt listed).plain reliable.reach)
  occurredAt := rfl

/-! ## Closing an attempt -/

/-- What is told when a submitted attempt is completed: that it has been
submitted, and that it has been graded. -/
structure TellsClosing (now : Instant) (store : Store)
    (submitted graded : Attempt) (events : List ProgressEvent) (after : Store) :
    Prop where
  into : GradesInto now store submitted graded after
  events : ∃ variant shown, events =
    [eventOf .submitted submitted variant now store,
      eventOf .graded graded shown now after]

theorem complete_tells {context : Context} (tells : context.tells = true)
    (reliable : store.IsReliable) (listed : submitted ∈ store.attempts)
    (waits : submitted.status = .submitted) (told : List ProgressEvent) :
    ∃ graded after events, complete submitted context ⟨store, told⟩ =
        (.ok graded, ⟨after, told ++ events⟩) ∧
      TellsClosing context.now store submitted graded events after := by
  have sittings := reliable.lawful.sittings
  obtain ⟨variant, read⟩ :=
    reliable.exists_variant (sittings.variants submitted listed)
  obtain ⟨result, after, ended⟩ := @exists_gradeTransaction_of_reliable
    context.now _ reliable _ (sittings.keys submitted listed).plain
  rcases gradeTransaction_gradesInto reliable.lawful ended with
    ⟨-, -, idle⟩ | ⟨row, graded, shown, same, rfl, into⟩
  · cases (idle submitted listed).symm.trans
      (hasStatus_eq_true.mpr ⟨rfl, waits⟩)
  · obtain rfl := eq_of_key sittings.ids into.mem listed same
    refine ⟨graded, after, _, ?_, into, variant, shown, rfl⟩
    rw [complete_apply, ended]
    simp only [announced, read, World.telling, tells, if_true,
      List.append_assoc, List.singleton_append]

namespace TellsClosing

variable (closing : TellsClosing now store submitted graded events after)

include closing

theorem traces {phases : String → Attempt.Phase}
    (running : phases submitted.id = .running) :
    Traces phases events (Function.update phases submitted.id .scored) := by
  obtain ⟨-, id, -, -⟩ := closing.into.listed
  obtain ⟨variant, shown, rfl⟩ := closing.events
  have submits :
      Traces phases [eventOf .submitted submitted variant now store] _ :=
    @Traces.single _ (eventOf .submitted submitted variant now store) .submitted
      (by rw [eventOf, running]; rfl)
  have grades : Traces (Function.update phases submitted.id .submitted)
      [eventOf .graded graded shown now after] _ :=
    @Traces.single _ (eventOf .graded graded shown now after) .scored (by
      rw [eventOf, id, Function.update_self]
      rfl)
  have traces := submits.append grades
  rwa [show (eventOf .graded graded shown now after).attempt.id = submitted.id
    from id, Function.update_idem] at traces

theorem toldOf_work {kind : ProgressKind} (isWork : kind.IsWork) :
    toldOf kind events = [] := by
  obtain ⟨variant, shown, rfl⟩ := closing.events
  rcases isWork with rfl | rfl <;> rfl

theorem told (reliable : store.IsReliable) (listed : submitted ∈ store.attempts)
    (waits : submitted.status = .submitted) : Told now store events after := by
  have change : Reaches now store after := .single closing.into.change
  obtain ⟨present, -, -, scored⟩ := closing.into.listed
  obtain ⟨variant, shown, rfl⟩ := closing.events
  exact .tell .refl (eventOf_isOf reliable listed (by rw [waits]; rfl))
    (.single change (eventOf_isOf (change.reliable reliable) present scored))

theorem id_eq : ∀ event ∈ events, event.attempt.id = submitted.id := by
  obtain ⟨-, id, -, -⟩ := closing.into.listed
  obtain ⟨variant, shown, rfl⟩ := closing.events
  exact List.forall_mem_cons.mpr ⟨rfl, List.forall_mem_singleton.mpr id⟩

/-- Both events show what is left: grading keeps what the submission has
shown. -/
theorem shows (reliable : store.IsReliable)
    (listed : submitted ∈ store.attempts)
    (waits : submitted.status = .submitted) :
    ∀ event ∈ events, event.Shows after := by
  have change : Reaches now store after := .single closing.into.change
  have ids := reliable.lawful.sittings.ids
  obtain ⟨present, -, -, scored⟩ := closing.into.listed
  obtain ⟨variant, shown, rfl⟩ := closing.events
  have submits :
      (eventOf .submitted submitted variant now store).IsOf now store :=
    eventOf_isOf reliable listed (by rw [waits]; rfl)
  have grades : (eventOf .graded graded shown now after).IsOf now after :=
    eventOf_isOf (change.reliable reliable) present scored
  exact List.forall_mem_cons.mpr
    ⟨submits.shows.of_gradesInto closing.into ids rfl (.inr rfl),
      List.forall_mem_singleton.mpr grades.shows⟩

/-- The closing of an attempt that was in progress is recounted. -/
theorem recounts {before : Store} (reached : Reaches now before store)
    (reliable : before.IsReliable) (listed : submitted ∈ store.attempts)
    (waits : submitted.status = .submitted)
    (touches : Touches submitted.id before store)
    (running : before.phase submitted.id = .running) :
    Recounts now before [] [] events after := by
  obtain ⟨present, id, -, scored⟩ := closing.into.listed
  have phases : after.phase = _ :=
    phase_of_touches (id.symm ▸ touches.trans closing.into.touches)
      reliable.lawful.sittings.ids present
  rw [id, Attempt.Phase.ofStatus_of_isScored scored] at phases
  exact
    { told :=
        (closing.told (reached.reliable reliable) listed waits).since reached
      shows := closing.shows (reached.reliable reliable) listed waits
      traces := phases ▸ closing.traces running
      saved := closing.toldOf_work (.inl rfl)
      reported := closing.toldOf_work (.inr rfl) }

end TellsClosing

section

variable {context : Context} {submittedAt : Instant}
  (tells : context.tells = true) (reliable : store.IsReliable)

include tells reliable

/-- Completing an attempt that has just been submitted recounts that it has been
closed. -/
theorem complete_recounts
    (closes : Closes context.now store attempt submittedAt)
    (told : List ProgressEvent) :
    ∃ graded after events,
      complete (Store.submitted submittedAt context.now attempt) context
        ⟨store.submitting attempt.id submittedAt context.now, told⟩ =
        (.ok graded, ⟨after, told ++ events⟩) ∧ Touches attempt.id store after ∧
      (∀ event ∈ events, event.attempt.id = attempt.id) ∧
      Recounts context.now store [] [] events after := by
  have reached : Reaches context.now store _ := .single closes.submitting
  have here : Store.submitted submittedAt context.now attempt ∈
      (store.submitting attempt.id submittedAt context.now).attempts :=
    mem_submitting closes.listed closes.running _ _
  have touches := Touches.submitting store attempt.id submittedAt context.now
  obtain ⟨graded, after, events, ended, closing⟩ :=
    complete_tells tells (reached.reliable reliable) here rfl told
  refine ⟨graded, after, events, ended, touches.trans closing.into.touches,
    closing.id_eq, closing.recounts reached reliable here rfl touches ?_⟩
  rw [show (Store.submitted submittedAt context.now attempt).id = attempt.id
    from rfl, phase_of_mem reliable.lawful.sittings.ids closes.listed,
    closes.running]
  rfl

theorem finalize_recounts
    (closes : Closes context.now store attempt submittedAt)
    (told : List ProgressEvent) :
    ∃ graded after events, finalize attempt.id submittedAt context
        ⟨store, told⟩ = (.ok (some graded), ⟨after, told ++ events⟩) ∧
      Touches attempt.id store after ∧
      (∀ event ∈ events, event.attempt.id = attempt.id) ∧
      Recounts context.now store [] [] events after := by
  obtain ⟨graded, after, events, completed, rest⟩ :=
    complete_recounts tells reliable closes told
  refine ⟨graded, after, events, ?_, rest⟩
  rw [finalize_of_closes reliable closes]
  exact map_apply_of_ok completed

/-! ## Upkeep -/

/-- A sweep recounts each attempt that it closes, and leaves what is shown of
any other one. -/
theorem sweepEach_recounts {attempts : List Attempt}
    (distinct : (attempts.map (·.id)).Nodup)
    (due : ∀ attempt ∈ attempts,
      attempt ∈ store.attempts ∧ attempt.isDue context.now = true)
    (report : SweepReport) (told : List ProgressEvent) :
    ∃ report' after events,
      sweepEach attempts report context ⟨store, told⟩ =
        (.ok report', ⟨after, told ++ events⟩) ∧
      (∀ event : ProgressEvent, event.attempt.id ∉ attempts.map (·.id) →
        event.Shows store → event.Shows after) ∧
      Recounts context.now store [] [] events after := by
  induction attempts generalizing store report told with
  | nil =>
      refine ⟨report, store, [], ?_, fun _ _ shows => shows, .refl store⟩
      rw [List.append_nil]
      rfl
  | cons attempt rest ih =>
      obtain ⟨fresh, distinct⟩ := List.nodup_cons.mp distinct
      obtain ⟨listed, passed⟩ := due attempt List.mem_cons_self
      obtain ⟨given, middle, events, ended, touches, of, recounts⟩ :=
        finalize_recounts tells reliable (closes_of_isDue listed passed) told
      have due' : ∀ other ∈ rest,
          other ∈ middle.attempts ∧ other.isDue context.now = true := by
        intro other inside
        obtain ⟨listed, passed⟩ := due other (List.mem_cons_of_mem _ inside)
        have apart : other.id ≠ attempt.id := fun same =>
          fresh (List.mem_map.mpr ⟨other, inside, same⟩)
        exact ⟨touches.mem_of_ne listed apart, passed⟩
      obtain ⟨report', after, more, swept, stays, recounts'⟩ :=
        ih (recounts.reached.reliable reliable) distinct due'
          { report with closed := report.closed + 1 } (told ++ events)
      refine ⟨report', after, events ++ more, ?_, ?_,
        recounts.trans recounts' ?_⟩
      · rw [sweepEach, bind_apply_of_ok (outcome_of_ok ended),
          ← List.append_assoc]
        exact swept
      · intro event missing shows
        obtain ⟨other, missing⟩ := not_or.mp (mt List.mem_cons.mpr missing)
        exact stays event missing (shows.of_ne touches other)
      · exact fun event inside => stays event (of event inside ▸ fresh)

theorem sweep_recounts :
    Recounts context.now store [] [] (sweep context ⟨store, []⟩).2.published
      (sweep context ⟨store, []⟩).2.store := by
  obtain ⟨report, after, events, swept, -, recounts⟩ :=
    sweepEach_recounts tells reliable (@nodup_toClose_ids context _ reliable)
      (fun _ => mem_toClose) ⟨(toClose context store).length, 0, 0, 0⟩ []
  rw [sweep_apply context (canReach_of_noOutages reliable.reach _)]
  unfold Action.mapError
  rw [swept]
  exact recounts

end

variable {context : Context} {caller : Caller} {attemptId : String}
  {told : List ProgressEvent}

/-- Where no attempt waits for its scores, none is graded. -/
theorem gradeSubmitted_keeps (lawful : store.Lawful)
    (settled : store.AwaitsOnly none) :
    Keeps context (· = ⟨store, told⟩) (gradeSubmitted attemptId) := by
  rintro _ rfl
  rw [gradeSubmitted_apply]
  cases ended : gradeTransaction attemptId context.now store with
  | error halt => rfl
  | ok step =>
      obtain ⟨result, after⟩ := step
      rcases gradeTransaction_gradesInto lawful ended with
        ⟨rfl, rfl, -⟩ | ⟨row, graded, variant, -, rfl, into⟩
      · rfl
      · obtain ⟨_, _, _, _, _, _, _, grades, -⟩ := into
        obtain ⟨_, none, -⟩ := settled row grades.listed grades.submitted
        cases none

theorem recoverStalled_keeps (lawful : store.Lawful)
    (settled : store.AwaitsOnly none) :
    Keeps context (· = ⟨store, told⟩) recoverStalled := by
  have each : ∀ attempts recovered,
      Keeps context (· = ⟨store, told⟩) (recoverEach attempts recovered) := by
    intro attempts
    induction attempts with
    | nil => exact fun recovered => Keeps.pure _
    | cons attempt rest ih =>
        refine fun recovered => Keeps.bind
          (.outcome (gradeSubmitted_keeps lawful settled)) fun ended => ?_
        split
        · exact ih _
        · exact ih _
  unfold recoverStalled
  exact Keeps.reading (.bind (.inRange _) fun cutoff =>
      .bind (.commit (.run (isRead_stalledAttempts _ _))) fun stalled =>
      .mapError (each stalled 0))

theorem grade_keeps (lawful : store.Lawful) (settled : store.AwaitsOnly none) :
    Keeps context (· = ⟨store, told⟩) (grade caller attemptId) := by
  unfold grade
  refine .bind (.query (isRead_attempt? attemptId)) fun _ =>
    .bind (.demand _ _) fun attempt =>
    .bind (.commit (isRead_managedAssignment _ _)) fun _ => ?_
  split
  · exact Keeps.refuse _
  · refine Keeps.bind (.mapError (gradeSubmitted_keeps lawful settled))
      fun graded => ?_
    cases graded with
    | some graded => exact Keeps.pure _
    | none =>
        exact Keeps.bind (.query (isRead_attempt? _)) fun _ => Keeps.demand _ _
  · exact Keeps.pure _

end Exam

end ExamHall
