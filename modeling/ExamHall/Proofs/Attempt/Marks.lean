import ExamHall.Proofs.Exam.Interleaving
import ExamHall.Proofs.Exam.StartOutcome
import ExamHall.Proofs.Exam.Upkeep

/-!
# Marks of attempts

Violations leave marks on the row of an attempt: their count, and a flag with
its reason.  Whatever else is done keeps the marks, and an attempt that starts
has none.
-/

namespace ExamHall

open Store ExamHall.Action

/-- An attempt after something that has left no mark on it.  Once it is not in
progress any more, it stays so, with its time of submission. -/
structure Attempt.KeepsMarks (before after : Attempt) : Prop where
  kept : Attempt.Kept before after
  violationCount : after.violationCount = before.violationCount
  flagged : after.flagged = before.flagged
  flagReason : after.flagReason = before.flagReason
  left : before.status ≠ .inProgress → after.status ≠ .inProgress
  submittedAt : before.status ≠ .inProgress →
    after.submittedAt = before.submittedAt

/-- An attempt without marks. -/
structure Attempt.IsUnmarked (attempt : Attempt) : Prop where
  violationCount : attempt.violationCount = 0
  flagged : attempt.flagged = false
  flagReason : attempt.flagReason = none

namespace Attempt

variable {first second third attempt : Attempt}

theorem KeepsMarks.trans (early : KeepsMarks first second)
    (late : KeepsMarks second third) : KeepsMarks first third :=
  ⟨early.kept.trans late.kept, late.violationCount.trans early.violationCount,
    late.flagged.trans early.flagged,
    late.flagReason.trans early.flagReason, late.left ∘ early.left, fun left =>
      (late.submittedAt (early.left left)).trans (early.submittedAt left)⟩

theorem IsUnmarked.keepsMarks (unmarked : first.IsUnmarked)
    (keeps : KeepsMarks first second) :
    second.IsUnmarked :=
  ⟨keeps.violationCount.trans unmarked.violationCount,
    keeps.flagged.trans unmarked.flagged,
    keeps.flagReason.trans unmarked.flagReason⟩

theorem KeepsMarks.refl (attempt : Attempt) : KeepsMarks attempt attempt :=
  ⟨.refl _, rfl, rfl, rfl, fun left => left, fun _ => rfl⟩

theorem KeepsMarks.submitted (submittedAt now : Instant)
    (running : attempt.status = .inProgress) :
    KeepsMarks attempt (Store.submitted submittedAt now attempt) :=
  ⟨.submitted _ _ _, rfl, rfl, rfl, fun _ => nofun,
    fun left => (left running).elim⟩

theorem KeepsMarks.scored (rawScore maxScore percentage : Decimal)
    {update : ScoreUpdate} (isScored : update.status.isScored = true) :
    KeepsMarks attempt
      (Store.scored rawScore maxScore percentage update attempt) :=
  ⟨.scored _ _ _ _ _, rfl, rfl, rfl, fun _ same => Bool.false_ne_true
    ((congrArg AttemptStatus.isScored same).symm.trans isScored), fun _ => rfl⟩

end Attempt

/-- Attempts keep their marks, and those that have been added have none. -/
def Store.KeepsMarks (before after : Store) : Prop :=
  Grows Attempt.KeepsMarks Attempt.IsUnmarked before.attempts after.attempts

variable {now : Instant} {before middle after store : Store} {attempt : Attempt}
  {attemptId : String}

namespace Store.KeepsMarks

theorem of_eq (same : after.attempts = before.attempts) :
    before.KeepsMarks after := by
  rw [Store.KeepsMarks, same]
  exact .refl _

theorem refl (store : Store) : store.KeepsMarks store :=
  .of_eq rfl

theorem trans (early : before.KeepsMarks middle)
    (late : middle.KeepsMarks after) : before.KeepsMarks after :=
  Grows.trans early late (fun _ _ _ => Attempt.KeepsMarks.trans)
    (fun _ unmarked => unmarked) fun _ _ => Attempt.IsUnmarked.keepsMarks

/-- An attempt that has been opened has no marks. -/
theorem opened {assignment : Assignment}
    {variant : Variant (Stored (List VariantQuestion))} {issued : Issued}
    (opens : Opens now store assignment variant attempt) :
    store.KeepsMarks
      { store with attempts := store.attempts ++ [attempt], issued } := by
  refine Grows.append _ fun row inside => ?_
  obtain rfl := List.mem_singleton.mp inside
  obtain ⟨_, _, _, _, -, -, -, -, begun⟩ := opens.begun
  rw [begun]
  exact ⟨rfl, rfl, rfl⟩

theorem exists_later (keeps : before.KeepsMarks after)
    (listed : attempt ∈ before.attempts) :
    ∃ later ∈ after.attempts, Attempt.KeepsMarks attempt later := by
  obtain ⟨later, inside, rfl | kept⟩ := Grows.exists_later keeps listed
  · exact ⟨later, inside, .refl later⟩
  · exact ⟨later, inside, kept⟩

/-- Each attempt was there before, with the same marks, or has come anew,
without any. -/
theorem old_or_new (keeps : before.KeepsMarks after)
    (ids : (after.attempts.map (·.id)).Nodup)
    (listed : attempt ∈ after.attempts) :
    (∃ old ∈ before.attempts, Attempt.KeepsMarks old attempt) ∨
    attempt.id ∉ before.attempts.map (·.id) ∧ attempt.IsUnmarked := by
  by_cases known : attempt.id ∈ before.attempts.map (·.id)
  · obtain ⟨old, inside, same⟩ := List.mem_map.mp known
    obtain ⟨later, present, kept⟩ := keeps.exists_later inside
    obtain rfl := eq_of_key ids present listed (kept.kept.id.trans same)
    exact .inl ⟨old, inside, kept⟩
  · rcases Grows.old_or_new keeps listed with ⟨old, inside, rfl | kept⟩
      | unmarked
    · exact (known (List.mem_map_of_mem inside)).elim
    · exact .inl ⟨old, inside, kept⟩
    · exact .inr ⟨known, unmarked⟩

end Store.KeepsMarks

/-! ## Submitting, grading and reviewing -/

theorem keepsMarks_submitting (store : Store) (attemptId : String)
    (submittedAt now : Instant) :
    store.KeepsMarks (store.submitting attemptId submittedAt now) :=
  Grows.updateWhere fun _ _ selected =>
    .submitted _ _ (hasStatus_eq_true.mp selected).2

theorem GradesInto.keepsMarks {graded : Attempt}
    (into : GradesInto now before attempt graded after) :
    before.KeepsMarks after := by
  obtain ⟨_, _, totals, _, _, _, _, -, -, -, rfl⟩ := into
  exact Grows.updateWhere fun _ _ _ =>
    .scored _ _ _ totals.isScored_statusAfterAuto

theorem ReviewsInto.keepsMarks (into : ReviewsInto now before attempt after) :
    before.KeepsMarks after := by
  obtain ⟨_, _, _, _, totals, _, _, _, -, -, rfl⟩ := into
  exact Grows.updateWhere fun _ _ _ =>
    .scored _ _ _ totals.isScored_statusAfterManual

theorem Exam.Completes.keepsMarks
    (completes : Exam.Completes now attemptId before after) :
    before.KeepsMarks after := by
  cases completes with
  | passed => exact .refl _
  | graded _ into => exact into.keepsMarks

theorem Finishes.keepsMarks {submittedAt : Instant}
    (finishes : Finishes now store attempt submittedAt after) :
    store.KeepsMarks after :=
  (keepsMarks_submitting _ _ _ _).trans (Exam.Completes.keepsMarks finishes)

theorem Expires.keepsMarks {assignmentId studentId : String}
    {pending : Option Attempt}
    (expires : Expires now before assignmentId studentId pending after) :
    before.KeepsMarks after := by
  cases expires with
  | vacant => exact .refl _
  | expired => exact keepsMarks_submitting _ _ _ _

/-! ## Operations -/

/-- A lawful world in which the attempts of a store have kept their marks. -/
structure World.KeepsMarks (start : Store) (world : World) : Prop where
  lawful : world.store.Lawful
  kept : start.KeepsMarks world.store

namespace Exam

variable {context : Context} {start : Store} {caller : Caller}

theorem complete_keepsMarks {submitted : Attempt} :
    Keeps context (World.KeepsMarks start) (complete submitted) := by
  rintro world ⟨lawful, kept⟩
  obtain ⟨completes, -⟩ := complete_ends lawful world rfl
  exact ⟨completes.handsOver.reached.lawful lawful,
    kept.trans completes.keepsMarks⟩

theorem gradeSubmitted_keepsMarks :
    Keeps context (World.KeepsMarks start) (gradeSubmitted attemptId) := by
  rintro world ⟨lawful, kept⟩
  obtain ⟨completes, -⟩ := gradeSubmitted_ends lawful world rfl
  exact ⟨completes.handsOver.reached.lawful lawful,
    kept.trans completes.keepsMarks⟩

theorem finalize_keepsMarks {submittedAt : Instant} :
    Keeps context (World.KeepsMarks start)
      (finalize attemptId submittedAt) := by
  unfold finalize
  refine Keeps.reading
    (Keeps.bind (Ends.query ?_ fun _ begun _ _ => begun) fun found => ?_)
  · rintro world ⟨lawful, kept⟩ found after ended
    obtain ⟨-, -, -, rfl⟩ := markSubmitted_eq_ok.mp ended
    exact ⟨lawful_markSubmitted lawful _ _,
      kept.trans (keepsMarks_submitting _ _ _ _)⟩
  · cases found with
    | none => exact Keeps.pure _
    | some submitted => exact Ends.map (complete_keepsMarks.weaken
        (fun _ begun => begun) fun _ _ kept => kept)

theorem completeTimedOut_keepsMarks {pending : Option Attempt} :
    Keeps context (World.KeepsMarks start) (completeTimedOut pending) := by
  cases pending with
  | none => exact Keeps.pure _
  | some submitted => exact Keeps.bind complete_keepsMarks fun _ => Keeps.pure _

theorem concludeStart_keepsMarks {step : StartStep} :
    Keeps context (World.KeepsMarks start) (concludeStart step) := by
  cases step with
  | resumed attempt => exact Keeps.bind snapshotOf_keeps fun _ => Keeps.pure _
  | exhausted timedOut =>
      exact Keeps.bind completeTimedOut_keepsMarks fun _ => Keeps.refuse _
  | started timedOut attempt variant =>
      exact Keeps.bind completeTimedOut_keepsMarks fun _ => Keeps.reading
        (Keeps.bind (.publish fun _ _ kept => ⟨kept.lawful, kept.kept⟩) fun _ =>
          Keeps.pure _)

/-- A start leaves no marks on any attempt. -/
theorem start_keepsMarks {assignmentId : String} {accessCode : Option String} :
    Keeps context (World.KeepsMarks start)
      (Exam.start caller assignmentId accessCode) := by
  rintro world ⟨lawful, kept⟩
  rcases start_cases lawful with ⟨halt, denied⟩
    | ⟨assignment, step, after, -, -, starts, goesOn⟩
  · rw [denied]
    exact ⟨lawful, kept⟩
  rw [goesOn]
  refine concludeStart_keepsMarks _ ?_
  cases starts with
  | resumed => exact ⟨lawful, kept⟩
  | exhausted expires =>
      exact ⟨expires.reached.lawful lawful, kept.trans expires.keepsMarks⟩
  | @started pending middle attempt issued row variant expires opens =>
      have opened : Change context.now middle { middle with
          attempts := middle.attempts ++ [attempt], issued } := .opened opens
      exact ⟨opened.lawful (expires.reached.lawful lawful),
        kept.trans (expires.keepsMarks.trans (.opened opens))⟩

/-! ## Upkeep -/

theorem sweepEach_keepsMarks {attempts : List Attempt} {report : SweepReport} :
    Keeps context (World.KeepsMarks start) (sweepEach attempts report) := by
  induction attempts generalizing report with
  | nil => exact Keeps.pure _
  | cons attempt rest ih =>
      unfold sweepEach
      refine Keeps.bind (.outcome finalize_keepsMarks) fun ended => ?_
      split
      · exact ih
      · exact ih
      · exact ih

theorem sweep_keepsMarks : Keeps context (World.KeepsMarks start) sweep :=
  Keeps.reading (Keeps.bind (.commit (.run (isRead_expiredAttempts _ _)))
      fun _ => Keeps.mapError sweepEach_keepsMarks)

theorem recoverEach_keepsMarks {attempts : List Attempt} {recovered : Nat} :
    Keeps context (World.KeepsMarks start)
      (recoverEach attempts recovered) := by
  induction attempts generalizing recovered with
  | nil => exact Keeps.pure _
  | cons attempt rest ih =>
      unfold recoverEach
      refine Keeps.bind (.outcome gradeSubmitted_keepsMarks) fun ended => ?_
      split
      · exact ih
      · exact ih

theorem recoverStalled_keepsMarks :
    Keeps context (World.KeepsMarks start) recoverStalled :=
  Keeps.reading (Keeps.bind (.inRange _) fun _ =>
      Keeps.bind (.commit (.run (isRead_stalledAttempts _ _))) fun _ =>
      Keeps.mapError recoverEach_keepsMarks)

end Exam

end ExamHall
