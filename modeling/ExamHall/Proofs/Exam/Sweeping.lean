import ExamHall.Proofs.Exam.Deadline
import ExamHall.Proofs.Exam.Locality
import ExamHall.Proofs.Exam.Settling
import ExamHall.Proofs.Exam.Upkeep

/-!
# What a sweep closes

A sweep lists the attempts that are due, the oldest deadline first, and closes
as many of them as it may.  Closing one of them leaves the others as they are,
so each is closed as if it were the only one.
-/

namespace ExamHall

open Store

variable {now : Instant} {context : Context} {store middle after : Store}
  {attempt other : Attempt}

/-! ## Attempts that are due -/

/-- Whether an attempt is in progress and its deadline has passed, as the tables
tell the time. -/
def Attempt.isDue (now : Instant) (attempt : Attempt) : Bool :=
  decide (attempt.status = .inProgress) &&
    decide (attempt.deadlineAt ≤ Column.time now)

/-- The attempts that are due. -/
def Store.due (store : Store) (now : Instant) : List Attempt :=
  store.attempts.filter (·.isDue now)

/-- The attempts that are due, the oldest deadline first. -/
def Store.dueInOrder (store : Store) (now : Instant) : List Attempt :=
  (store.due now).mergeSort fun left right =>
    decide (left.deadlineAt ≤ right.deadlineAt)

theorem Attempt.isDue_eq_true :
    attempt.isDue now = true ↔ attempt.status = .inProgress ∧
    attempt.deadlineAt ≤ Column.time now := by
  rw [isDue, Bool.and_eq_true, decide_eq_true_eq, decide_eq_true_eq]

theorem mem_due :
    attempt ∈ store.due now ↔ attempt ∈ store.attempts ∧
    attempt.isDue now = true :=
  List.mem_filter

theorem dueInOrder_perm (store : Store) (now : Instant) :
    (store.dueInOrder now).Perm (store.due now) :=
  List.mergeSort_perm _ _

theorem pairwise_dueInOrder (store : Store) (now : Instant) :
    (store.dueInOrder now).Pairwise fun left right =>
      left.deadlineAt ≤ right.deadlineAt :=
  pairwise_mergeSort_key Attempt.deadlineAt _ Int.le_trans fun left right =>
    Int.le_total left.nanos right.nanos

theorem expiredAttempts_eq (limit : Nat) (reach : store.CanReach [.attempts]) :
    expiredAttempts now limit store =
      .ok ((store.dueInOrder now).take limit, store) := by
  simp only [expiredAttempts, bind_eq_ok, Statement.reach_eq_ok, get_eq_ok,
    pure_eq_ok]
  exact ⟨(), store, ⟨reach, rfl⟩, store, store, ⟨rfl, rfl⟩, rfl, rfl⟩

theorem closes_of_isDue (listed : attempt ∈ store.attempts)
    (due : attempt.isDue now = true) :
    Closes now store attempt attempt.deadlineAt := by
  obtain ⟨running, passed⟩ := Attempt.isDue_eq_true.mp due
  exact ⟨listed, running, .inl ⟨rfl, .inr passed⟩⟩

namespace Exam

/-! ## Closing one attempt -/

theorem exists_closing (context : Context) (reliable : store.IsReliable)
    (listed : attempt ∈ store.attempts)
    (due : attempt.isDue context.now = true) :
    ∃ graded, GradesInto context.now
        (store.submitting attempt.id attempt.deadlineAt context.now)
        (Store.submitted attempt.deadlineAt context.now attempt) graded
        (closing context store attempt attempt.deadlineAt) ∧
      Finishes context.now store attempt attempt.deadlineAt
        (closing context store attempt attempt.deadlineAt) := by
  have closes := closes_of_isDue listed due
  obtain ⟨_, _, _, _, finishes⟩ := exists_completed context reliable closes
  obtain ⟨graded, into⟩ := finishes.gradesInto closes reliable
  exact ⟨graded, into, finishes⟩

/-- An attempt that is due is closed alike in stores that agree on it. -/
theorem closing_alike {first second : Store} (context : Context)
    (reliable : first.IsReliable) (reliable' : second.IsReliable)
    (listed : attempt ∈ first.attempts) (listed' : attempt ∈ second.attempts)
    (due : attempt.isDue context.now = true)
    (agrees : first.AgreesOn attempt.id second) :
    ∃ graded ∈ (closing context first attempt attempt.deadlineAt).attempts,
      graded ∈ (closing context second attempt attempt.deadlineAt).attempts ∧
      graded.id = attempt.id ∧
      graded.submittedAt = some (Column.time attempt.deadlineAt) ∧
      graded.status.isScored = true ∧
      RowsAlike attempt.id
        (closing context first attempt attempt.deadlineAt).answers
        (closing context second attempt attempt.deadlineAt).answers := by
  obtain ⟨graded, into, -⟩ := exists_closing context reliable listed due
  obtain ⟨graded', into', -⟩ := exists_closing context reliable' listed' due
  have papers : ∀ questions,
      HasVariant (first.submitting attempt.id attempt.deadlineAt context.now)
        attempt.variantId questions → IsPaper questions := by
    rintro questions ⟨variant, dealt, -, read⟩
    obtain ⟨asked, read', paper⟩ := reliable.papers variant dealt
    obtain rfl := Option.some.inj (read.symm.trans read')
    exact paper
  obtain ⟨rfl, alike⟩ := into.alike into' ⟨agrees.variants, agrees.rows,
    agrees.collation⟩ reliable.lawful.tests.variantIds papers
  obtain ⟨present, same, submittedAt, scored⟩ := into.listed
  exact ⟨_, present, into'.listed.1, same, submittedAt, scored, alike⟩

/-! ## Closing one attempt after another -/

/-- Attempts that are due have been closed one after another. -/
inductive ClosesEach (context : Context) :
    List Attempt → Store → Store → Prop where
  | nil {store : Store} : ClosesEach context [] store store
  | cons {attempt : Attempt} {rest : List Attempt}
      {store after : Store} (listed : attempt ∈ store.attempts)
      (due : attempt.isDue context.now = true) (later : ClosesEach context rest
        (closing context store attempt attempt.deadlineAt) after) :
      ClosesEach context (attempt :: rest) store after

variable {attempts : List Attempt}

theorem closing_touches (context : Context) (reliable : store.IsReliable)
    (listed : attempt ∈ store.attempts)
    (due : attempt.isDue context.now = true) :
    Touches attempt.id
      store (closing context store attempt attempt.deadlineAt) ∧
    (closing context store attempt attempt.deadlineAt).IsReliable := by
  obtain ⟨_, -, finishes⟩ := exists_closing context reliable listed due
  exact ⟨finishes.touches,
    (finishes.reaches (closes_of_isDue listed due)).reliable reliable⟩

/-- Nothing but the closed attempts and their answers has changed. -/
theorem ClosesEach.leaves (closes : ClosesEach context attempts store after)
    (reliable : store.IsReliable) :
    after.IsReliable ∧ after.variants = store.variants ∧
    after.attempts.map (·.id) = store.attempts.map (·.id) ∧
    (∃ issued, after = { store with attempts := after.attempts,
                                    answers := after.answers, issued }) ∧
    ∀ id ∉ attempts.map (·.id),
      (∀ other ∈ store.attempts, other.id = id → other ∈ after.attempts) ∧
      rowsOf id after.answers = rowsOf id store.answers := by
  induction closes with
  | @nil store =>
      exact ⟨reliable, rfl, rfl, ⟨store.issued, rfl⟩,
        fun id _ => ⟨fun other listed _ => listed, rfl⟩⟩
  | cons listed due _ ih =>
      obtain ⟨touches, reliable'⟩ := closing_touches context reliable listed due
      obtain ⟨reliable'', variants, ids, ⟨issued, rest⟩, others⟩ := ih reliable'
      refine ⟨reliable'', variants.trans touches.variants,
        ids.trans touches.ids, ?_, fun id apart => ?_⟩
      · obtain ⟨_, same⟩ := touches.rest
        rw [same] at rest
        exact ⟨issued, rest⟩
      · obtain ⟨here, apart⟩ := not_or.mp (mt List.mem_cons.mpr apart)
        obtain ⟨stay, rows⟩ := others id apart
        exact ⟨fun other inside same =>
            stay other (touches.mem_of_ne inside (same ▸ here)) same,
            rows.trans (touches.rowsOf_eq here)⟩

/-- Each attempt that has been closed among others is as if it had been closed
alone. -/
theorem ClosesEach.alike {start : Store}
    (closes : ClosesEach context attempts store after)
    (reliable : store.IsReliable) (distinct : (attempts.map (·.id)).Nodup)
    (inside : attempt ∈ attempts) (begins : start.IsReliable)
    (listed : attempt ∈ start.attempts)
    (agrees : start.AgreesOn attempt.id store) :
    ∃ graded ∈ (closing context start attempt attempt.deadlineAt).attempts,
      graded ∈ after.attempts ∧ graded.id = attempt.id ∧
      graded.submittedAt = some (Column.time attempt.deadlineAt) ∧
      graded.status.isScored = true ∧
      RowsAlike attempt.id
        (closing context start attempt attempt.deadlineAt).answers
        after.answers := by
  induction closes with
  | nil => cases inside
  | @cons head rest store after present due later ih =>
      obtain ⟨fresh, distinct⟩ := List.nodup_cons.mp distinct
      obtain ⟨touches, reliable'⟩ :=
        closing_touches context reliable present due
      rcases List.mem_cons.mp inside with rfl | inside
      · obtain ⟨graded, alone, among, same, submittedAt, scored, alike⟩ :=
          closing_alike context begins reliable listed present due agrees
        obtain ⟨stay, rows⟩ := (later.leaves reliable').2.2.2.2 attempt.id fresh
        refine ⟨graded, alone, stay graded among same, same, submittedAt,
          scored, ?_⟩
        rw [RowsAlike, rows]
        exact alike
      · have other : attempt.id ≠ head.id := fun same =>
          fresh (List.mem_map.mpr ⟨attempt, inside, same⟩)
        exact ih reliable' distinct inside
          ⟨touches.variants.trans agrees.variants,
            (touches.rowsOf_eq other).trans agrees.rows,
            touches.collation.trans agrees.collation⟩

/-! ## A sweep -/

/-- An attempt that is due is closed as of its deadline, whatever has been told
before. -/
theorem finalize_of_isDue (context : Context) (published : List ProgressEvent)
    (reliable : store.IsReliable) (listed : attempt ∈ store.attempts)
    (due : attempt.isDue context.now = true) :
    ∃ given published',
      finalize attempt.id attempt.deadlineAt context ⟨store, published⟩ =
        (.ok (some given),
          ⟨closing context store attempt attempt.deadlineAt, published'⟩) := by
  have closes := closes_of_isDue listed due
  obtain ⟨given, _, alone, -⟩ := exists_completed context reliable closes
  obtain ⟨told, completed⟩ := complete_congr alone published
  rw [finalize_of_closes reliable closes]
  exact ⟨given, told, Action.map_apply_of_ok completed⟩

/-- Attempts that are due are all closed, one after another. -/
theorem sweepEach_of_isDue (context : Context) (reliable : store.IsReliable)
    (distinct : (attempts.map (·.id)).Nodup)
    (due : ∀ attempt ∈ attempts, attempt ∈ store.attempts ∧
      attempt.isDue context.now = true) (report : SweepReport)
    (published : List ProgressEvent) :
    ∃ after published', ClosesEach context attempts store after ∧
      sweepEach attempts report context ⟨store, published⟩ =
        (.ok { report with closed := report.closed + attempts.length },
          ⟨after, published'⟩) := by
  induction attempts generalizing store report published with
  | nil => exact ⟨store, published, .nil, rfl⟩
  | cons attempt rest ih =>
      obtain ⟨fresh, distinct⟩ := List.nodup_cons.mp distinct
      obtain ⟨listed, passed⟩ := due attempt List.mem_cons_self
      obtain ⟨touches, reliable'⟩ :=
        closing_touches context reliable listed passed
      obtain ⟨given, told, ended⟩ :=
        finalize_of_isDue context published reliable listed passed
      obtain ⟨after, told', closes, swept⟩ :=
        ih reliable' distinct (fun other inside =>
          ⟨touches.mem_of_ne (due other (List.mem_cons_of_mem _ inside)).1
            fun same => fresh (List.mem_map.mpr ⟨other, inside, same⟩),
            (due other (List.mem_cons_of_mem _ inside)).2⟩)
        { report with closed := report.closed + 1 } told
      refine ⟨after, told', .cons listed passed closes, ?_⟩
      rw [sweepEach, Action.bind_apply_of_ok (Action.outcome_of_ok ended)]
      refine swept.trans ?_
      rw [List.length_cons, Nat.add_right_comm, Nat.add_assoc]

/-- The attempts that a sweep closes. -/
def toClose (context : Context) (store : Store) : List Attempt :=
  (store.dueInOrder context.now).take context.settings.sweepBatchSize

theorem mem_toClose (inside : attempt ∈ toClose context store) :
    attempt ∈ store.attempts ∧ attempt.isDue context.now = true :=
  mem_due.mp ((dueInOrder_perm _ _).mem_iff.mp (List.mem_of_mem_take inside))

theorem nodup_dueInOrder_ids (ids : (store.attempts.map (·.id)).Nodup)
    (now : Instant) : ((store.dueInOrder now).map (·.id)).Nodup :=
  (((dueInOrder_perm store now).map _).nodup_iff).mpr
    (ids.sublist (List.filter_sublist.map _))

theorem nodup_toClose_ids (reliable : store.IsReliable) :
    ((toClose context store).map (·.id)).Nodup :=
  (nodup_dueInOrder_ids reliable.lawful.sittings.ids context.now).sublist
    ((List.take_sublist _ _).map _)

/-- A sweep closes what it has listed. -/
theorem sweep_apply (context : Context) (reach : store.CanReach [.attempts]) :
    sweep context ⟨store, []⟩ =
      ((sweepEach (toClose context store) ⟨(toClose context store).length, 0, 0,
        0⟩).mapError fun _ => UpkeepError.expiredNotListed) context
        ⟨store, []⟩ := by
  have listing :
      (Action.commit (Transaction.run (fun _ => UpkeepError.expiredNotListed)
        (expiredAttempts context.now context.settings.sweepBatchSize))) context
        ⟨store, []⟩ = (.ok (toClose context store), ⟨store, []⟩) :=
    Action.commit_of_ok (by
        unfold Transaction.run; rw [expiredAttempts_eq _ reach]; rfl)
  unfold sweep
  rw [Action.read_bind_apply, Action.bind_apply_of_ok listing]

/-- Nothing happens while nothing is due. -/
theorem sweep_of_none_due (context : Context)
    (reach : store.CanReach [.attempts]) (idle : store.due context.now = []) :
    sweep context ⟨store, []⟩ = (.ok ⟨0, 0, 0, 0⟩, ⟨store, []⟩) := by
  have none : toClose context store = [] := by
    rw [toClose, dueInOrder, idle]
    simp
  rw [sweep_apply context reach, none]
  rfl

/-- A sweep closes as many of the attempts that are due as it may, and reports
just that. -/
theorem exists_sweep (context : Context) (reliable : store.IsReliable) :
    ∃ after published, ClosesEach context (toClose context store) store after ∧
      sweep context ⟨store, []⟩ = (.ok ⟨(toClose context store).length,
        (toClose context store).length, 0, 0⟩, ⟨after, published⟩) := by
  obtain ⟨after, published, closes, swept⟩ :=
    sweepEach_of_isDue context reliable (nodup_toClose_ids reliable)
      (fun _ => mem_toClose) ⟨(toClose context store).length, 0, 0, 0⟩ []
  refine ⟨after, published, closes, ?_⟩
  rw [sweep_apply context (canReach_of_noOutages reliable.reach _)]
  unfold Action.mapError
  rw [swept, Nat.zero_add]

/-- What is due after a sweep is what was due and has not been closed. -/
theorem ClosesEach.due_perm
    (closes : ClosesEach context (toClose context store) store after)
    (reliable : store.IsReliable) :
    (after.due context.now).Perm ((store.dueInOrder context.now).drop
      context.settings.sweepBatchSize) := by
  obtain ⟨reliable', -, ids, -, others⟩ := closes.leaves reliable
  have distinct := nodup_dueInOrder_ids reliable.lawful.sittings.ids context.now
  have apart : ∀ attempt ∈
      (store.dueInOrder context.now).drop context.settings.sweepBatchSize,
      attempt.id ∉ (toClose context store).map (·.id) := by
    rw [← List.take_append_drop context.settings.sweepBatchSize
      (store.dueInOrder context.now), List.map_append, List.nodup_append]
      at distinct
    exact fun attempt left closed =>
      distinct.2.2 _ closed _ (List.mem_map_of_mem left) rfl
  refine (List.perm_ext_iff_of_nodup ?_ ?_).mpr fun attempt =>
    ⟨fun inside => ?_, fun left => ?_⟩
  · exact List.Nodup.of_map _
      (reliable'.lawful.sittings.ids.sublist (List.filter_sublist.map _))
  · exact (List.Nodup.of_map _ distinct).sublist (List.drop_sublist _ _)
  · obtain ⟨listed, due⟩ := mem_due.mp inside
    by_cases closed : attempt.id ∈ (toClose context store).map (·.id)
    · obtain ⟨former, chosen, same⟩ := List.mem_map.mp closed
      obtain ⟨graded, -, present, same', -, scored, -⟩ := closes.alike reliable
        (nodup_toClose_ids reliable) chosen reliable (mem_toClose chosen).1
        ⟨rfl, rfl, rfl⟩
      obtain rfl := eq_of_key reliable'.lawful.sittings.ids present listed
        (same'.trans same)
      rw [(Attempt.isDue_eq_true.mp due).1] at scored
      cases scored
    · have known : attempt.id ∈ store.attempts.map (·.id) :=
        ids ▸ List.mem_map_of_mem listed
      obtain ⟨former, before, same⟩ := List.mem_map.mp known
      obtain rfl := eq_of_key reliable'.lawful.sittings.ids
        ((others attempt.id closed).1 former before same) listed same
      have queued := (dueInOrder_perm store context.now).mem_iff.mpr
        (mem_due.mpr ⟨before, due⟩)
      exact mem_drop_of_not_mem_take queued fun chosen =>
        closed (List.mem_map_of_mem chosen)
  · obtain ⟨listed, due⟩ :=
      mem_due.mp ((dueInOrder_perm _ _).mem_iff.mp (List.mem_of_mem_drop left))
    exact mem_due.mpr
      ⟨(others attempt.id (apart attempt left)).1 attempt listed rfl, due⟩

end Exam

end ExamHall
