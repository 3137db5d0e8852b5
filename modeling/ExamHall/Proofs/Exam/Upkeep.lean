import ExamHall.Exam.Upkeep
import ExamHall.Proofs.Attempt.Order
import ExamHall.Proofs.Exam.Sitting
import ExamHall.Proofs.Exam.Working

/-!
# Upkeep

The sweep closes attempts after their deadline and the recovery grades those
whose grading has stalled.  Neither of them leaves an attempt without its
scores, and neither saves anything: whatever students have saved by then stays
as it is.
-/

namespace ExamHall

open Store ExamHall.Action

/-- A world that has been reached from a store at a time without any save. -/
def World.IsSettledUnsaved (now : Instant) (start : Store)
    (world : World) : Prop :=
  World.IsSettled now start world ∧ start.SavesNothing world.store

theorem World.IsSettledUnsaved.refl {now : Instant} {world : World} :
    world.IsSettledUnsaved now world.store :=
  ⟨.refl, .refl _⟩

namespace Exam

variable {context : Context} {start : Store}

/-! ## The sweep -/

/-- Attempts whose deadline has passed when they are listed. -/
def AreExpired (now : Instant) (store : Store)
    (attempts : List Attempt) : Prop :=
  ∀ attempt ∈ attempts, attempt ∈ store.attempts ∧
    attempt.deadlineAt ≤ Column.time now

theorem expiredAttempts_areExpired {now : Instant} {limit : Nat}
    {store after : Store} {expired : List Attempt}
    (ended : expiredAttempts now limit store = .ok (expired, after)) :
    AreExpired now store expired := by
  simp only [expiredAttempts, bind_eq_ok, Statement.reach_eq_ok, get_eq_ok,
    pure_eq_ok] at ended
  obtain ⟨_, _, ⟨-, rfl⟩, _, _, ⟨rfl, rfl⟩, rfl, rfl⟩ := ended
  intro attempt inside
  have listed := List.mem_of_mem_take inside
  rw [List.mem_mergeSort, List.mem_filter, Bool.and_eq_true, decide_eq_true_eq,
    decide_eq_true_eq] at listed
  exact ⟨listed.1, listed.2.2⟩

/-- An expired attempt keeps its deadline whatever happens to others, so it is
submitted as of it. -/
theorem closes_of_expired {now : Instant} {store : Store}
    {attempt other : Attempt}
    (lawful : start.Lawful) (orderly : start.IsOrderly now)
    (reached : Reaches now start store) (listed : attempt ∈ start.attempts)
    (passed : attempt.deadlineAt ≤ Column.time now)
    (inside : other ∈ store.attempts)
    (selected : hasStatus attempt.id .inProgress other = true) :
    Closes now store other attempt.deadlineAt := by
  obtain ⟨later, present, evolves⟩ :=
    (reached.orderly lawful orderly).2 attempt listed
  obtain ⟨sameId, running⟩ := hasStatus_eq_true.mp selected
  obtain rfl := eq_of_key (reached.lawful lawful).sittings.ids inside present
    (sameId.trans evolves.kept.id.symm)
  rw [← evolves.kept.deadlineAt] at passed ⊢
  exact ⟨inside, running, .inl ⟨rfl, .inr passed⟩⟩

/-- What each submission keeps, the whole sweep of a list keeps. -/
theorem sweepEach_keeps {kept : Store → Prop} {attempts : List Attempt}
    {report : SweepReport}
    (lawful : start.Lawful) (orderly : start.IsOrderly context.now)
    (expired : AreExpired context.now start attempts)
    (each : ∀ {store after attemptId submittedAt result}, store.Lawful →
      Finalizes context.now store attemptId submittedAt result after →
      kept store → kept after) :
    Keeps context
      (fun world => World.IsSettled context.now start world ∧ kept world.store)
      (sweepEach attempts report) := by
  induction attempts generalizing report with
  | nil => exact Keeps.pure _
  | cons attempt rest ih =>
      obtain ⟨⟨listed, passed⟩, others⟩ := List.forall_mem_cons.mp expired
      unfold sweepEach
      refine Keeps.bind (.outcome ?_) fun ended => ?_
      · rintro world ⟨settled, holds⟩
        have closes : ∀ other ∈ world.store.attempts,
          hasStatus attempt.id .inProgress other = true →
          Closes context.now world.store other attempt.deadlineAt := fun _ =>
            closes_of_expired lawful orderly settled.reached listed passed
        have settles : Ends context
            (· = world) (finalize attempt.id attempt.deadlineAt) _ :=
          finalize_settles lawful (fun _ same => same ▸ settled) fun _ same =>
            same ▸ closes
        have lawful' := settled.reached.lawful lawful
        exact ⟨settles world rfl,
          each lawful' (finalize_ends lawful' closes world rfl) holds⟩
      · split
        · exact ih others
        · exact ih others
        · exact ih others

theorem sweep_keeps {kept : Store → Prop} (lawful : start.Lawful)
    (orderly : start.IsOrderly context.now)
    (each : ∀ {store after attemptId submittedAt result}, store.Lawful →
      Finalizes context.now store attemptId submittedAt result after →
      kept store → kept after) : Keeps context (fun world =>
        World.IsSettled context.now start world ∧ kept world.store) sweep := by
  unfold sweep
  apply Keeps.reading
  refine Gives.bind (.commit (.run (isRead_expiredAttempts _ _)))
    (fun expired => ?_) fun _ _ settled => settled
  rintro world ⟨⟨settled, holds⟩, ended⟩
  have listed := expiredAttempts_areExpired (Transaction.run_eq_ok.mp ended)
  have orderly' := (settled.reached.orderly lawful orderly).1
  refine And.imp_left settled.trans ?_
  exact Keeps.mapError (sweepEach_keeps (settled.reached.lawful lawful) orderly'
      listed each) world ⟨.refl, holds⟩

theorem sweep_settles (lawful : start.Lawful)
    (orderly : start.IsOrderly context.now) :
    Keeps context (World.IsSettledUnsaved context.now start) sweep :=
  sweep_keeps lawful orderly fun _ finalizes unsaved =>
    unsaved.trans finalizes.savesNothing

/-! ## The recovery -/

theorem recoverEach_settles {attempts : List Attempt} {recovered : Nat}
    (lawful : start.Lawful) :
    Keeps context (World.IsSettledUnsaved context.now start)
      (recoverEach attempts recovered) := by
  induction attempts generalizing recovered with
  | nil => exact Keeps.pure _
  | cons attempt rest ih =>
      unfold recoverEach
      refine Keeps.bind (.outcome ?_) fun ended => ?_
      · rintro world ⟨settled, unsaved⟩
        exact ⟨gradeSubmitted_settles lawful world settled,
          unsaved.trans (gradeSubmitted_ends (settled.reached.lawful lawful)
            world rfl).1.savesNothing⟩
      · split
        · exact ih
        · exact ih

theorem recoverStalled_settles (lawful : start.Lawful) :
    Keeps context (World.IsSettledUnsaved context.now start)
      recoverStalled := by
  unfold recoverStalled
  apply Keeps.reading
  exact Keeps.bind (.inRange _) fun cutoff =>
    Keeps.bind (.commit (.run (isRead_stalledAttempts _ _))) fun stalled =>
    Keeps.mapError (recoverEach_settles lawful)

end Exam

end ExamHall
