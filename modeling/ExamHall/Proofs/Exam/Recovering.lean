import ExamHall.Proofs.Exam.Locality
import ExamHall.Proofs.Exam.Settling
import ExamHall.Proofs.Exam.Upkeep

/-!
# Attempts that wait for their scores

An attempt that has been submitted waits until it is graded.  Until then nothing
that is done to other attempts touches it.  The recovery grades attempts one
after another, and grading an attempt late gives what grading it at once would
have given.
-/

namespace ExamHall

open Store ExamHall.Action

/-! ## What tables hold of an attempt -/

/-- The tables hold an attempt, with the rows of its answers. -/
structure Store.HoldsAttempt (store : Store) (attempt : Attempt)
    (rows : List (SavedAnswer (Stored Answer))) : Prop where
  listed : attempt ∈ store.attempts
  rows : rowsOf attempt.id store.answers = rows

/-- An attempt has been graded as another grading has graded it.  It may have
been graded at another time; then the rows that it did not have while it waited
may also have other ids and times of saving. -/
structure Store.GradesAlike (waiting : Store) (graded : Attempt)
    (other after : Store) : Prop where
  attempt : ∃ gradedAt updatedAt,
    { graded with gradedAt, updatedAt } ∈ after.attempts
  rows : ((rowsOf graded.id after.answers).map (SavedAnswer.withoutTimes
      ((rowsOf graded.id waiting.answers).map (·.id)))).Perm
    ((rowsOf graded.id other.answers).map (SavedAnswer.withoutTimes
      ((rowsOf graded.id waiting.answers).map (·.id))))

/-- Whether an attempt has waited for its scores for at least as long as is
configured, as the tables tell the time. -/
def Attempt.HasStalled (settings : Settings) (now : Instant)
    (attempt : Attempt) : Prop :=
  ∃ cutoff, Exam.stalledBefore? settings now = some cutoff ∧
    isSubmittedBy cutoff attempt = true

/-- An attempt that some tables held has been graded since then, and has not
changed after that. -/
inductive Store.GradedSince (now : Instant) (start : Store) (attempt : Attempt)
    (rows : List (SavedAnswer (Stored Answer))) (after : Store) : Prop where
  | intro {before middle : Store} {graded : Attempt} (lawful : before.Lawful)
      (variants : before.variants = start.variants)
      (sorts : before.collation = start.collation)
      (holds : before.HoldsAttempt attempt rows)
      (into : GradesInto now before attempt graded middle)
      (held : after.HoldsAttempt graded (rowsOf attempt.id middle.answers))

variable {now later submittedAt : Instant} {store after : Store}
  {attempt other graded : Attempt} {attempts : List Attempt}
  {attemptId otherId : String} {rows : List (SavedAnswer (Stored Answer))}

theorem GradesInto.submitted
    (into : GradesInto now store attempt graded after) :
    attempt.status = .submitted := by
  obtain ⟨_, _, _, _, _, _, _, grades, -⟩ := into
  exact grades.submitted

theorem GradesInto.holds (into : GradesInto now store attempt graded after) :
    after.HoldsAttempt graded (rowsOf attempt.id after.answers) := by
  obtain ⟨listed, same, -⟩ := into.listed
  exact ⟨listed, by rw [same]⟩

namespace Store.HoldsAttempt

theorem of_touches (holds : store.HoldsAttempt attempt rows)
    (touches : Touches otherId store after) (apart : attempt.id ≠ otherId) :
    after.HoldsAttempt attempt rows :=
  ⟨touches.mem_of_ne holds.listed apart,
    (touches.rowsOf_eq apart).trans holds.rows⟩

/-- An attempt is another one than any with another status. -/
theorem id_ne (holds : store.HoldsAttempt attempt rows) (lawful : store.Lawful)
    (listed : other ∈ store.attempts) (differ : attempt.status ≠ other.status) :
    attempt.id ≠ other.id := by
  intro same
  exact differ (congrArg Attempt.status
      (eq_of_key lawful.sittings.ids holds.listed listed same))

/-- What is submitted and completed is in progress until then. -/
theorem of_finishes (holds : store.HoldsAttempt attempt rows)
    (lawful : store.Lawful) (left : attempt.status ≠ .inProgress)
    (listed : other ∈ store.attempts) (running : other.status = .inProgress)
    (finishes : Finishes now store other submittedAt after) :
    after.HoldsAttempt attempt rows :=
  holds.of_touches finishes.touches (holds.id_ne lawful listed (running ▸ left))

theorem of_finalizes {result : Except (Halt AttemptError) (Option Attempt)}
    (holds : store.HoldsAttempt attempt rows)
    (lawful : store.Lawful) (left : attempt.status ≠ .inProgress)
    (finalizes : Exam.Finalizes now store attemptId submittedAt result after) :
    after.HoldsAttempt attempt rows := by
  cases finalizes with
  | nothing => exact holds
  | completed _ closes finishes =>
      exact holds.of_finishes lawful left closes.listed closes.running finishes
  | broken _ closes finishes =>
      exact holds.of_finishes lawful left closes.listed closes.running finishes

/-- Grading leaves all attempts but one as they are. -/
theorem of_gradesInto (holds : store.HoldsAttempt attempt rows)
    (lawful : store.Lawful) (into : GradesInto now store other graded after) :
    after.HoldsAttempt attempt rows ∨ other = attempt := by
  by_cases same : other.id = attempt.id
  · exact .inr (eq_of_key lawful.sittings.ids into.mem holds.listed same)
  · exact .inl (holds.of_touches into.touches (Ne.symm same))

/-- An attempt stays as it is when another one is completed, or it is graded. -/
theorem of_completes (holds : store.HoldsAttempt attempt rows)
    (lawful : store.Lawful)
    (completes : Exam.Completes now attemptId store after) :
    after.HoldsAttempt attempt rows ∨ attempt.id = attemptId ∧
    ∃ graded, GradesInto now store attempt graded after := by
  cases completes with
  | passed => exact .inl holds
  | graded same into =>
      rcases holds.of_gradesInto lawful into with left | rfl
      · exact .inl left
      · exact .inr ⟨same, _, into⟩

end Store.HoldsAttempt

/-- Where an attempt has the same rows, it is graded alike whenever that
happens. -/
theorem GradesInto.gradesAlike {first second firstAfter secondAfter : Store}
    {graded graded' : Attempt} {questions : List VariantQuestion}
    (into : GradesInto now first attempt graded firstAfter)
    (into' : GradesInto later second attempt graded' secondAfter)
    (holds : second.HoldsAttempt attempt (rowsOf attempt.id first.answers))
    (sorts : second.collation = first.collation) (lawful : first.Lawful)
    (lawful' : second.Lawful)
    (shown : HasVariant first attempt.variantId questions)
    (shown' : HasVariant second attempt.variantId questions)
    (paper : IsPaper questions)
    (held :
      after.HoldsAttempt graded' (rowsOf attempt.id secondAfter.answers)) :
    first.GradesAlike graded firstAfter after := by
  have only : ∀ asked, HasVariant first
    attempt.variantId asked → questions = asked := fun _ =>
      shown.unique lawful.tests.variantIds
  have hides : HidesGrading _ now later
    (SavedAnswer.withoutTimes ((rowsOf attempt.id first.answers).map (·.id))) :=
    .withoutTimes _ now later
  obtain ⟨same, alike⟩ := into.looksAlike hides into' holds.rows sorts
    (fun asked dealt => only asked dealt ▸ shown') lawful'.tests.variantIds
    fun asked dealt => only asked dealt ▸ paper
  have distinct :=
    @nodup_rowsOf _ attempt.id (into.change.lawful lawful).sittings.answersApart
  have distinct' := @nodup_rowsOf _ attempt.id
    (into'.change.lawful lawful').sittings.answersApart
  have sameId : graded.id = attempt.id := into.listed.2.1
  have sameId' : graded'.id = attempt.id := into'.listed.2.1
  constructor
  · exact ⟨_, _, same ▸ held.listed⟩
  · rw [sameId, ← sameId', held.rows, sameId']
    exact (alike.perm hides.questionId distinct distinct').symm

namespace Exam

/-! ## The recovery -/

/-- Attempts have been completed one after another. -/
inductive CompletesEach (now : Instant) :
    List Attempt → Store → Store → Prop where
  | nil {store : Store} : CompletesEach now [] store store
  | cons {attempt : Attempt} {rest : List Attempt} {store middle after : Store}
      (here : Completes now attempt.id store middle)
      (later : CompletesEach now rest middle after) :
      CompletesEach now (attempt :: rest) store after

namespace CompletesEach

/-- Nothing is done to an attempt that does not wait for its scores. -/
theorem holds_of_ne (completes : CompletesEach now attempts store after)
    (lawful : store.Lawful) (holds : store.HoldsAttempt attempt rows)
    (idle : attempt.status ≠ .submitted) : after.HoldsAttempt attempt rows := by
  induction completes with
  | nil => exact holds
  | cons here _ ih =>
      rcases holds.of_completes lawful here with left | ⟨-, _, into⟩
      · exact ih (here.handsOver.reached.lawful lawful) left
      · exact (idle into.submitted).elim

/-- An attempt that waits for its scores stays as it is, or is one of those that
are completed and is graded.  Where nothing stands in the way, it is graded if
it is one of them. -/
theorem holds_or_graded (completes : CompletesEach now attempts store after)
    (lawful : store.Lawful) (holds : store.HoldsAttempt attempt rows)
    (waits : attempt.status = .submitted) :
    (after.HoldsAttempt attempt rows ∧
      (store.IsReliable → attempt.id ∉ attempts.map (·.id))) ∨
    (attempt.id ∈ attempts.map (·.id) ∧
      store.GradedSince now attempt rows after) := by
  induction completes with
  | nil => exact .inl ⟨holds, fun _ => List.not_mem_nil⟩
  | @cons head rest store middle after here others ih =>
      have lawful' := here.handsOver.reached.lawful lawful
      rcases holds.of_completes lawful here with left | ⟨same, graded, into⟩
      · rcases ih lawful' left with ⟨kept, missed⟩
          | ⟨inside, ⟨legal, variants, sorts, held, into, later⟩⟩
        · refine .inl ⟨kept, fun reliable listed => ?_⟩
          have reliable' := here.handsOver.reached.reliable reliable
          rcases List.mem_cons.mp listed with same | listed
          · cases here with
            | passed idle =>
                have quiet := idle reliable attempt holds.listed
                rw [hasStatus_eq_true.mpr ⟨same, waits⟩] at quiet
                cases quiet
            | graded same' into =>
                obtain rfl := eq_of_key lawful.sittings.ids into.mem
                  holds.listed (same'.trans same.symm)
                have twice := eq_of_key lawful'.sittings.ids left.listed
                  into.listed.1 into.listed.2.1.symm
                have scored := into.listed.2.2.2
                rw [← twice, waits] at scored
                cases scored
          · exact missed reliable' listed
        · exact .inr ⟨List.mem_cons_of_mem _ inside,
            ⟨legal, variants.trans here.touches.variants,
              sorts.trans here.touches.collation, held, into, later⟩⟩
      · have scored : graded.status ≠ .submitted :=
          AttemptStatus.ne_submitted_of_isScored into.listed.2.2.2
        exact .inr ⟨same ▸ List.mem_cons_self, ⟨lawful, rfl, rfl, holds, into,
          others.holds_of_ne lawful' into.holds scored⟩⟩

end CompletesEach

variable {context : Context}

/-- The recovery completes what it has listed, in order, and gets to the end of
it where nothing stands in the way. -/
theorem recoverEach_ends {recovered : Nat} (lawful : store.Lawful)
    (plain : ∀ attempt ∈ attempts, Column.hasNul attempt.id = false) :
    Ends context (fun world => world.store = store)
      (recoverEach attempts recovered) fun _ world => ∃ done,
      done <+: attempts ∧ CompletesEach context.now done store world.store ∧
      (store.IsReliable → done = attempts) := by
  induction attempts generalizing store recovered with
  | nil =>
      exact .pure fun world same =>
      ⟨[], List.prefix_rfl, same ▸ .nil, fun _ => rfl⟩
  | cons attempt rest ih =>
      obtain ⟨here, others⟩ := List.forall_mem_cons.mp plain
      have goesOn : ∀ recovered, Ends context
          (fun world => Completes context.now attempt.id store world.store)
          (recoverEach rest recovered) fun _ world =>
            ∃ done, done <+: attempt :: rest ∧
              CompletesEach context.now done store world.store ∧
              (store.IsReliable → done = attempt :: rest) := by
        intro recovered world completes
        have reached := completes.handsOver.reached
        obtain ⟨done, first, each, whole⟩ :=
          ih (reached.lawful lawful) others world rfl
        exact ⟨attempt :: done, List.cons_prefix_cons.mpr ⟨rfl, first⟩,
          .cons completes each,
          fun reliable => congrArg _ (whole (reached.reliable reliable))⟩
      unfold recoverEach
      refine .bind (fun result world => Completes context.now attempt.id store
          world.store ∧ (store.IsReliable → ∃ ended, result = .ok ended))
        (.outcome ?_) (fun ended => ?_) ?_
      · refine (gradeSubmitted_ends lawful).weaken (fun _ same => same) ?_
        rintro ((error | _) | graded) world ⟨completes, ended⟩
        · exact ⟨completes, fun _ => ⟨_, rfl⟩⟩
        · refine ⟨completes, fun reliable => ?_⟩
          obtain ⟨_, _, same⟩ :=
            @exists_gradeTransaction_of_reliable context.now _ reliable _ here
          cases ended.2.symm.trans same
        · exact ⟨completes, fun _ => ⟨_, rfl⟩⟩
      · split
        · exact (goesOn _).weaken (fun _ reached => reached.1) fun _ _ ended =>
            ended
        · exact (goesOn _).weaken (fun _ reached => reached.1) fun _ _ ended =>
            ended
      · rintro halt world ⟨completes, ends⟩
        refine ⟨[attempt], List.cons_prefix_cons.mpr ⟨rfl, List.nil_prefix⟩,
          .cons completes .nil, fun reliable => ?_⟩
        obtain ⟨_, same⟩ := ends reliable
        cases same

/-- A recovery lists submitted attempts: those whose grading has stalled, the
oldest submission first, as many as it may. -/
def Lists (context : Context) (store : Store) (stalled : List Attempt) : Prop :=
  ∃ cutoff, stalledBefore? context.settings context.now = some cutoff ∧
    stalledAttempts cutoff context.settings.sweepBatchSize store =
      .ok (stalled, store)

theorem Lists.unique {stalled others : List Attempt}
    (lists : Lists context store stalled)
    (lists' : Lists context store others) : stalled = others := by
  obtain ⟨cutoff, bounded, ended⟩ := lists
  obtain ⟨cutoff', bounded', ended'⟩ := lists'
  cases bounded.symm.trans bounded'
  cases ended.symm.trans ended'
  rfl

/-- What a recovery lists is there and has stalled. -/
theorem Lists.mem {stalled : List Attempt} (lists : Lists context store stalled)
    (inside : attempt ∈ stalled) :
    attempt ∈ store.attempts ∧
    attempt.HasStalled context.settings context.now := by
  obtain ⟨cutoff, bounded, ended⟩ := lists
  simp only [stalledAttempts, bind_eq_ok, Statement.reach_eq_ok, get_eq_ok,
    pure_eq_ok] at ended
  obtain ⟨_, _, ⟨-, rfl⟩, _, _, ⟨rfl, rfl⟩, rfl, -⟩ := ended
  have listed := List.mem_of_mem_take inside
  rw [List.mem_mergeSort, List.mem_filter] at listed
  exact ⟨listed.1, cutoff, bounded, listed.2⟩

theorem recoverStalled_ends (lawful : store.Lawful) :
    Ends context (fun world => world.store = store) recoverStalled
      fun _ world =>
        (world.store = store ∧ ∀ stalled, ¬Lists context store stalled) ∨
        ∃ stalled done, Lists context store stalled ∧
          done <+: stalled ∧ CompletesEach context.now done store world.store ∧
          (store.IsReliable → done = stalled) := by
  unfold recoverStalled
  apply Ends.reading
  cases bounded : stalledBefore? context.settings context.now with
  | none =>
      rintro world rfl
      refine .inl ⟨rfl, ?_⟩
      rintro stalled ⟨cutoff, same, -⟩
      cases bounded.symm.trans same
  | some cutoff =>
      change Ends context _ (Action.commit _ >>= _) _
      cases listing :
          stalledAttempts cutoff context.settings.sweepBatchSize store with
      | error fault =>
          have failed : Transaction.run (fun _ => UpkeepError.stalledNotListed)
              (stalledAttempts cutoff context.settings.sweepBatchSize) store =
                .error (.refused .stalledNotListed) := by
            unfold Transaction.run
            rw [listing]
          refine .bind_commit_error failed fun world same => .inl ⟨same, ?_⟩
          rintro stalled ⟨other, bounded', ended⟩
          cases bounded.symm.trans bounded'
          cases listing.symm.trans ended
      | ok step =>
          obtain ⟨stalled, left⟩ := step
          obtain rfl := isRead_stalledAttempts _ _ _ _ _ listing
          have lists : Lists context left stalled := ⟨cutoff, bounded, listing⟩
          refine .bind_commit (Transaction.run_eq_ok.mpr listing) (.mapError ?_)
          refine (recoverEach_ends lawful fun attempt inside => ?_).weaken
            (fun _ same => same) ?_
          · exact (lawful.sittings.keys attempt (lists.mem inside).1).plain
          · rintro ((error | _) | recovered) world
              ⟨done, first, each, whole⟩ <;>
              exact .inr ⟨stalled, done, lists, first, each, whole⟩

/-! ## Grading on request -/

/-- An attempt that waits is graded where nothing stands in the way. -/
theorem exists_gradeSubmitted (context : Context) (reliable : store.IsReliable)
    (listed : attempt ∈ store.attempts) (waits : attempt.status = .submitted)
    (told : List ProgressEvent) :
    ∃ graded left, gradeSubmitted attempt.id context ⟨store, told⟩ =
        (.ok (some graded), left) ∧
      GradesInto context.now store attempt graded left.store := by
  obtain ⟨questions, shown, paper, sitting⟩ := reliable.exists_sitting listed
  obtain ⟨graded, variant, after, ended⟩ := exists_gradeTransaction context.now
    reliable.lawful reliable.reach listed waits shown paper sitting
  rcases gradeTransaction_gradesInto reliable.lawful ended with
    ⟨none, -⟩ | ⟨row, graded, variant, same, given, into⟩
  · cases none
  · cases given
    obtain rfl := eq_of_key reliable.lawful.sittings.ids into.mem listed same
    refine ⟨graded, _, by rw [gradeSubmitted_apply, ended], ?_⟩
    rw [World.store_telling]
    exact into

/-- Who manages the assignment has an attempt graded that waits, where nothing
stands in the way. -/
theorem exists_grade (context : Context) {caller : Caller}
    (reliable : store.IsReliable)
    (listed : attempt ∈ store.attempts) (waits : attempt.status = .submitted)
    (manages : Manages store caller attempt.assignmentId) :
    ∃ graded left,
      grade caller attempt.id context ⟨store, []⟩ = (.ok graded, left) ∧
      GradesInto context.now store attempt graded left.store := by
  obtain ⟨graded, left, ended, into⟩ :=
    exists_gradeSubmitted context reliable listed waits []
  obtain ⟨assignment, given, same, may⟩ := manages
  have lawful := reliable.lawful
  have found : attempt? attempt.id store = .ok (some attempt, store) :=
    attempt?_eq_ok.mpr ⟨(lawful.sittings.keys attempt listed).plain,
      canReach_of_noOutages reliable.reach _, rfl,
      (find?_key_eq_some lawful.sittings.ids listed).symm⟩
  have managed : managedAssignment caller attempt.assignmentId store =
      .ok (assignment, store) :=
    same ▸ (managedAssignment_of_listed lawful given).mpr
      ⟨canReach_of_noOutages reliable.reach _, rfl, rfl, may⟩
  have scored :
      ((gradeSubmitted attempt.id).mapError fun _ => AttemptError.grading)
        context ⟨store, []⟩ = (.ok (some graded), left) := by
    unfold Action.mapError
    rw [ended]
  refine ⟨graded, left, ?_, into⟩
  unfold grade
  rw [bind_apply_of_ok (query_of_ok found), demand_bind_apply,
    bind_apply_of_ok (commit_of_ok managed)]
  simp only [waits]
  exact bind_apply_of_ok scored

end Exam

end ExamHall
