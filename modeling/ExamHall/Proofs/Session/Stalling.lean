import ExamHall.Proofs.Exam.Recovering
import ExamHall.Proofs.Exam.Registering
import ExamHall.Proofs.Session.StoredTests
import ExamHall.Proofs.Settings.Loading

/-!
# A recovery counts back within the calendar

A recovery looks for attempts that have waited for their scores for as many
seconds as is configured, and settings are loaded whatever that number is.  It
counts back from the present with a signed number of 64 bits.  So it finds the
right time as long as that time lies in the calendar.  For longer waits it
breaks off, and the longest of them lead into the future, where what has just
been submitted is old enough.
-/

namespace ExamHall

open Store

variable {settings : Settings} {now cutoff : Instant}
  {store after middle : Store} {attempt other : Attempt}

/-! ## The time to look for -/

/-- The time that lies as many seconds back as is configured. -/
def Settings.waitingSince (settings : Settings) (now : Instant) : Instant :=
  ⟨now.nanos - settings.stalledGradingAfterSeconds * Instant.second⟩

/-- The time that lies as many seconds ahead as the configured number is short
of 2^64. -/
def Settings.wrappedAround (settings : Settings) (now : Instant) : Instant :=
  ⟨now.nanos + (2 ^ 64 - settings.stalledGradingAfterSeconds) * Instant.second⟩

namespace Exam

theorem stalledBefore?_of_signed
    (signed : settings.stalledGradingAfterSeconds < 2 ^ 63) :
    stalledBefore? settings now = if Calendar.holds (settings.waitingSince now)
    then some (settings.waitingSince now) else none := by
  have age : (settings.stalledGradingAfterSeconds : Int).bmod (twoTo 64) =
      settings.stalledGradingAfterSeconds := by
    have size : twoTo 64 = 2 ^ 64 := rfl
    apply Int.bmod_eq_of_le <;> omega
  simp only [stalledBefore?, Calendar.shift?, Settings.waitingSince, age,
    Int.neg_mul, Int.sub_eq_add_neg]
  rfl

theorem stalledBefore?_of_unsigned
    (large : 2 ^ 63 ≤ settings.stalledGradingAfterSeconds)
    (small : settings.stalledGradingAfterSeconds < twoTo 64) :
    stalledBefore? settings now = if Calendar.holds (settings.wrappedAround now)
    then some (settings.wrappedAround now) else none := by
  have age : -(settings.stalledGradingAfterSeconds : Int).bmod (twoTo 64) =
      2 ^ 64 - settings.stalledGradingAfterSeconds := by
    have size : twoTo 64 = 2 ^ 64 := rfl
    have wrapped : (settings.stalledGradingAfterSeconds : Int).bmod (twoTo 64) =
        settings.stalledGradingAfterSeconds - 2 ^ 64 := by
      rw [Int.bmod_def, Int.emod_eq_of_lt (by omega) (by omega),
        if_neg (by omega)]
      omega
    omega
  simp only [stalledBefore?, Calendar.shift?, Settings.wrappedAround, age]
  rfl

/-- Where a recovery arrives when it counts back from the present. -/
inductive CountsBack (settings : Settings) (now : Instant) :
    Option Instant → Prop where
  /-- The time that is looked for lies in the calendar. -/
  | back (inside : Calendar.start ≤ settings.waitingSince now) :
      CountsBack settings now (some (settings.waitingSince now))
  /-- It lies before the calendar. -/
  | beforeCalendar (early : settings.waitingSince now < Calendar.start)
      (signed : settings.stalledGradingAfterSeconds < 2 ^ 63) :
      CountsBack settings now none
  /-- The seconds are not a signed number, and lead into the future. -/
  | ahead (large : 2 ^ 63 ≤ settings.stalledGradingAfterSeconds)
      (future : now < settings.wrappedAround now)
      (inside : settings.wrappedAround now < Calendar.stop) :
      CountsBack settings now (some (settings.wrappedAround now))
  /-- They lead beyond the calendar. -/
  | afterCalendar (large : 2 ^ 63 ≤ settings.stalledGradingAfterSeconds)
      (late : Calendar.stop ≤ settings.wrappedAround now) :
      CountsBack settings now none

theorem stalledBefore?_countsBack
    (small : settings.stalledGradingAfterSeconds < twoTo 64)
    (since : Calendar.start ≤ now) (present : now < Calendar.stop) :
    CountsBack settings now (stalledBefore? settings now) := by
  have size : twoTo 64 = 2 ^ 64 := rfl
  have second : Instant.second = 1000000000 := rfl
  simp only [Instant.le_def, Instant.lt_def] at since present
  by_cases signed : settings.stalledGradingAfterSeconds < 2 ^ 63
  · have past : settings.waitingSince now < Calendar.stop := by
      simp only [Instant.lt_def, Settings.waitingSince, second]
      omega
    rw [stalledBefore?_of_signed signed]
    simp only [Calendar.holds, past, decide_true, Bool.and_true,
      decide_eq_true_eq]
    split
    next inside => exact .back inside
    next early => exact .beforeCalendar (Int.not_le.mp early) signed
  · have large := Nat.not_lt.mp signed
    have future : now < settings.wrappedAround now := by
      simp only [Instant.lt_def, Settings.wrappedAround, second]
      omega
    have begun : Calendar.start ≤ settings.wrappedAround now :=
      Int.le_trans since (Int.le_of_lt future)
    rw [stalledBefore?_of_unsigned large small]
    simp only [Calendar.holds, begun, decide_true, Bool.true_and,
      decide_eq_true_eq]
    split
    next inside => exact .ahead large future inside
    next late => exact .afterCalendar large (Int.not_lt.mp late)

end Exam

/-! ## What has waited -/

/-- An attempt has been waiting for its scores since a time or longer, as the
tables tell the time. -/
def Attempt.WaitsSince (cutoff : Instant) (attempt : Attempt) : Prop :=
  attempt.status = .submitted ∧ ∃ submittedAt,
    attempt.submittedAt = some submittedAt ∧ submittedAt ≤ Column.time cutoff

/-- One attempt has been submitted no later than another. -/
def Attempt.SubmittedNoLater (former latter : Attempt) : Prop :=
  ∀ first
    second, former.submittedAt = some first
      → latter.submittedAt = some second → first ≤ second

theorem isSubmittedBy_iff :
    isSubmittedBy cutoff attempt = true ↔ attempt.WaitsSince cutoff := by
  simp only [isSubmittedBy, Attempt.WaitsSince, Bool.and_eq_true,
    Option.any_eq_true, decide_eq_true_eq]

/-- What has waited since the time that is looked for has waited for as many
seconds as is configured.  Before the year 2000 less than a microsecond may be
missing. -/
theorem Attempt.WaitsSince.elapsed
    (waits : attempt.WaitsSince (settings.waitingSince now)) :
    ∃ submittedAt, attempt.submittedAt = some submittedAt ∧
      submittedAt.nanos + settings.stalledGradingAfterSeconds * Instant.second <
        now.nanos + 1000 ∧
      (Column.origin ≤ settings.waitingSince now → submittedAt.nanos +
        settings.stalledGradingAfterSeconds * Instant.second ≤ now.nanos) := by
  obtain ⟨-, submittedAt, submitted, early⟩ := waits
  refine ⟨submittedAt, submitted, ?_, fun since => ?_⟩
  · have near := Column.time_lt (settings.waitingSince now)
    simp only [Instant.le_def, Settings.waitingSince] at early near
    omega
  · have cut := Int.le_trans early (Column.time_le since)
    simp only [Settings.waitingSince] at cut
    omega

/-- Since the year 2000, what has stalled has been submitted at least as many
seconds ago as is configured. -/
theorem Attempt.HasStalled.elapsed (stalled : attempt.HasStalled settings now)
    (signed : settings.stalledGradingAfterSeconds < 2 ^ 63)
    (since : Column.origin ≤ settings.waitingSince now) :
    ∃ submittedAt, attempt.submittedAt = some submittedAt ∧
      submittedAt.nanos + settings.stalledGradingAfterSeconds * Instant.second ≤
        now.nanos := by
  obtain ⟨cutoff, counted, early⟩ := stalled
  rw [Exam.stalledBefore?_of_signed signed, Option.ite_none_right_eq_some,
    Option.some.injEq] at counted
  obtain ⟨-, rfl⟩ := counted
  obtain ⟨submittedAt, submitted, -, elapsed⟩ :=
    (isSubmittedBy_iff.mp early).elapsed
  exact ⟨submittedAt, submitted, elapsed since⟩

/-- The attempts that have been waiting since a time or longer, the oldest
submission first. -/
def Store.waitingInOrder (store : Store) (cutoff : Instant) : List Attempt :=
  (store.attempts.filter (isSubmittedBy cutoff)).mergeSort fun left right =>
    decide (left.submittedAt.getD default ≤ right.submittedAt.getD default)

theorem mem_waitingInOrder :
    attempt ∈ store.waitingInOrder cutoff ↔ attempt ∈ store.attempts ∧
    attempt.WaitsSince cutoff := by
  rw [Store.waitingInOrder, List.mem_mergeSort, List.mem_filter,
    isSubmittedBy_iff]

theorem pairwise_waitingInOrder (store : Store) (cutoff : Instant) :
    (store.waitingInOrder cutoff).Pairwise Attempt.SubmittedNoLater := by
  refine (pairwise_mergeSort_key
      (fun attempt : Attempt => attempt.submittedAt.getD default) _
      Int.le_trans fun left right => Int.le_total left.nanos right.nanos).imp ?_
  intro former latter order first second early late
  simpa only [early, late, Option.getD_some] using order

theorem nodup_waitingInOrder (ids : (store.attempts.map (·.id)).Nodup)
    (cutoff : Instant) : (store.waitingInOrder cutoff).Nodup :=
  (List.mergeSort_perm _ _).nodup_iff.mpr ((List.Nodup.of_map _ ids).filter _)

theorem stalledAttempts_eq_ok {limit : Nat} {found : List Attempt} :
    stalledAttempts cutoff limit store = .ok (found, after) ↔
      store.CanReach [.attempts] ∧
    after = store ∧ found = (store.waitingInOrder cutoff).take limit := by
  simp [stalledAttempts, Store.waitingInOrder]

namespace Exam

variable {context : Context} {attempts taken : List Attempt}
  {rows : List (SavedAnswer (Stored Answer))}

/-! ## What is taken up -/

/-- A recovery takes up attempts that have been waiting since a time or longer,
the oldest submissions first and as many as it may, and leaves none out that it
has room for.  It leaves all others and everything else as it is. -/
structure TakesUp (context : Context) (cutoff : Instant) (store : Store)
    (taken : List Attempt) (after : Store) : Prop where
  waiting : ∀ attempt ∈ taken, attempt ∈ store.attempts ∧
    attempt.WaitsSince cutoff
  once : taken.Nodup
  length : taken.length ≤ context.settings.sweepBatchSize
  ordered : taken.Pairwise Attempt.SubmittedNoLater
  oldest : ∀ attempt ∈ taken, ∀ other ∈ store.attempts,
    other.WaitsSince cutoff → other ∉ taken → attempt.SubmittedNoLater other
  complete : Column.earliest ≤ cutoff → store.CanReach [.attempts] →
    taken.length < context.settings.sweepBatchSize →
    ∀ other ∈ store.attempts, other.WaitsSince cutoff → other ∈ taken
  others : ∀ attempt ∈ store.attempts, attempt ∉ taken →
    after.HoldsAttempt attempt (rowsOf attempt.id store.answers)
  rest : ∃ issued, after =
    { store with attempts := after.attempts, answers := after.answers, issued }

/-- Completing attempts changes nothing but attempts and answers. -/
theorem CompletesEach.rest
    (completes : CompletesEach now attempts store after) :
    ∃ issued, after =
        { store with
          attempts := after.attempts, answers := after.answers, issued } := by
  induction completes with
  | @nil store => exact ⟨store.issued, rfl⟩
  | cons here _ ih =>
      obtain ⟨_, middle⟩ := here.touches.rest
      obtain ⟨issued, after⟩ := ih
      rw [middle] at after
      exact ⟨issued, after⟩

/-- An attempt that is not completed stays as it is. -/
theorem CompletesEach.holds_of_not_mem
    (completes : CompletesEach now attempts store after) (lawful : store.Lawful)
    (holds : store.HoldsAttempt attempt rows)
    (apart : attempt.id ∉ attempts.map (·.id)) :
    after.HoldsAttempt attempt rows := by
  by_cases waits : attempt.status = .submitted
  · rcases completes.holds_or_graded lawful holds waits with ⟨kept, -⟩
      | ⟨inside, -⟩
    · exact kept
    · exact (apart inside).elim
  · exact completes.holds_of_ne lawful holds waits

/-- A recovery takes up what it has listed, in order. -/
theorem takesUp_of_completes {done : List Attempt} (lawful : store.Lawful)
    (listed : taken =
      (store.waitingInOrder cutoff).take context.settings.sweepBatchSize)
    (begun : done <+: taken) (completes : CompletesEach now done store after) :
    TakesUp context cutoff store taken after := by
  subst listed
  have left : ∀ other ∈ store.attempts, other.WaitsSince cutoff →
      other ∉
        (store.waitingInOrder cutoff).take context.settings.sweepBatchSize →
      other ∈
        (store.waitingInOrder cutoff).drop context.settings.sweepBatchSize :=
    fun other present waits missed =>
      mem_drop_of_not_mem_take (mem_waitingInOrder.mpr ⟨present, waits⟩) missed
  exact
    { waiting := fun attempt inside =>
        mem_waitingInOrder.mp (List.mem_of_mem_take inside)
      once := (nodup_waitingInOrder lawful.sittings.ids cutoff).sublist
        (List.take_sublist _ _)
      length := List.length_take_le _ _
      ordered :=
        (pairwise_waitingInOrder store cutoff).sublist (List.take_sublist _ _)
      oldest := fun attempt inside other present waits missed =>
        rel_of_mem_take_of_mem_drop (pairwise_waitingInOrder store cutoff)
          inside (left other present waits missed)
      complete := by
        intro _ _ room other present waits
        by_contra missed
        have behind := List.length_pos_of_mem (left other present waits missed)
        rw [List.length_take] at room
        rw [List.length_drop] at behind
        omega
      others := by
        intro attempt present missed
        refine completes.holds_of_not_mem lawful ⟨present, rfl⟩ fun inside => ?_
        obtain ⟨closed, chosen, same⟩ := List.mem_map.mp inside
        have chosen := begun.subset chosen
        have listed := (mem_waitingInOrder.mp (List.mem_of_mem_take chosen)).1
        obtain rfl := eq_of_key lawful.sittings.ids listed present same
        exact missed chosen
      rest := completes.rest }

/-- A recovery that has arrived at a time takes up what has been waiting since
then. -/
theorem recoverStalled_takesUp (lawful : store.Lawful)
    (counted : stalledBefore? context.settings context.now = some cutoff) :
    ∃ taken, TakesUp context cutoff store taken
        (recoverStalled context ⟨store, []⟩).2.store := by
  rcases @recoverStalled_ends _ context lawful ⟨store, []⟩ rfl with
    ⟨same, none⟩
      | ⟨stalled, done, ⟨cutoff', counted', ended⟩, begun, completes, -⟩
  · rw [same]
    have lost : ¬store.CanReach [.attempts] := fun reach =>
      none _ ⟨cutoff, counted, stalledAttempts_eq_ok.mpr ⟨reach, rfl, rfl⟩⟩
    exact ⟨[],
      { waiting := List.forall_mem_nil _
        once := List.nodup_nil
        length := Nat.zero_le _
        ordered := .nil
        oldest := List.forall_mem_nil _
        complete := fun _ reach => (lost reach).elim
        others := fun _ present _ => ⟨present, rfl⟩
        rest := ⟨store.issued, rfl⟩ }⟩
  · obtain rfl := Option.some.inj (counted.symm.trans counted')
    exact ⟨stalled, takesUp_of_completes lawful
      (stalledAttempts_eq_ok.mp ended).2.2 begun completes⟩

/-- A recovery that arrives nowhere breaks off at once. -/
theorem recoverStalled_of_none {world : World}
    (lost : stalledBefore? context.settings context.now = none) :
    recoverStalled context world = (.error .outOfRange, world) := by
  unfold recoverStalled
  rw [Action.read_bind_apply, lost]
  rfl

end Exam

namespace Session

open Store

variable {values : Variables} {session : Session}

theorem run_recover_of_none
    (lost : Exam.stalledBefore? session.settings session.now = none) :
    session.run .recover = (quietly .outOfRange, session) := by
  unfold run act
  rw [@Exam.recoverStalled_of_none session.context ⟨session.store, []⟩ lost]
  rfl

/-- With settings that have been loaded, a recovery counts back the configured
seconds if it stays in the calendar.  Then it takes up only attempts that have
waited for so long: those that have waited longest, in order, and as many as it
may.  If it leaves the calendar, it breaks off and changes nothing.  But a
number of seconds that is not a signed number of 64 bits makes it count forward,
and it takes up whatever has been submitted. -/
theorem recovery_counts_back_within_the_calendar
    (loaded : Settings.load values = .ok session.settings)
    (lawful : session.store.Lawful) (since : Calendar.start ≤ session.now)
    (present : session.now < Calendar.stop) :
    let settings := session.settings
    let counted := Exam.stalledBefore? settings session.now
    let ran := session.run .recover
    Exam.CountsBack settings session.now counted ∧
      ran.2 = { session with store := ran.2.store } ∧
      (counted = none → ran = (quietly .outOfRange, session)) ∧
      ∀ cutoff, counted = some cutoff → ∃ taken,
          Exam.TakesUp session.context cutoff session.store taken ran.2.store ∧
          (cutoff = settings.waitingSince session.now → ∀ attempt ∈ taken,
            ∃ submittedAt, attempt.submittedAt = some submittedAt ∧
              submittedAt.nanos + settings.stalledGradingAfterSeconds *
                Instant.second < session.now.nanos + 1000 ∧
              (Column.origin ≤ cutoff →
                submittedAt.nanos + settings.stalledGradingAfterSeconds *
                  Instant.second ≤ session.now.nanos)) := by
  intro settings counted ran
  have bounds := Settings.keepsBounds_of_load loaded
  refine ⟨Exam.stalledBefore?_countsBack bounds.stalledGrading since present,
    rfl, run_recover_of_none, fun cutoff same => ?_⟩
  obtain ⟨taken, takes⟩ :=
    @Exam.recoverStalled_takesUp _ _ session.context lawful same
  refine ⟨taken, takes, ?_⟩
  rintro rfl attempt inside
  exact (takes.waiting attempt inside).2.elapsed

/-! ## Waiting for two minutes, and for no time at all -/

/-- An attempt that has been submitted at the start of the year 2000, and has no
scores. -/
def waitingAttempt : Attempt :=
  { id := "attempt-1", assignmentId := "a", studentId := "s", number := 1,
    variantId := "v"
    variantIndex := 0, status := .submitted, startedAt := Column.origin
    deadlineAt := ⟨Column.origin.nanos + Instant.minute⟩,
    submittedAt := some Column.origin
    gradedAt := none, rawScore := none, maxScore := .one, percentage := none,
    violationCount := 0
    flagged := false, flagReason := none, createdAt := Column.origin,
    updatedAt := Column.origin }

/-- The small service, with that attempt. -/
def withWaiting (settings : Settings) (now : Instant) : Session :=
  { withOneStudent Column.origin with
    settings, now
    store := { (withOneStudent Column.origin).store with
        attempts := [waitingAttempt] } }

theorem withWaiting_lawful (settings : Settings) (now : Instant) :
    (withWaiting settings now).store.Lawful := by
  have service := withOneStudent_lawful Column.origin
  have attempt : FitsId "attempt-1" := ⟨by decide +kernel, by decide⟩
  exact ⟨service.bank, service.tests, service.assignments,
    { ids := List.nodup_singleton _
      keys := List.forall_mem_singleton.mpr attempt.isKey
      assignments := List.forall_mem_singleton.mpr List.mem_cons_self
      variants := List.forall_mem_singleton.mpr List.mem_cons_self
      apart := List.pairwise_singleton _ _
      answerIds := List.nodup_nil
      answerKeys := List.forall_mem_nil _
      answered := List.forall_mem_nil _
      answersApart := .nil }⟩

/-- The variables of an installation that only says how long grading has to have
stalled. -/
def waitingFor (seconds : String) : Variables :=
  [("STALLED_GRADING_AFTER_SECONDS", seconds)]

/-- What an installation that waits for two minutes loads. -/
theorem exists_load_waitingFor_120 :
    ∃ settings, Settings.load (waitingFor "120") = .ok settings ∧
      settings.stalledGradingAfterSeconds = 120 ∧
      1 < settings.sweepBatchSize := by
  have found : ((Settings.load (waitingFor "120")).toOption.any fun settings =>
        decide (settings.stalledGradingAfterSeconds = 120 ∧
          1 < settings.sweepBatchSize)) = true := by
    decide +kernel
  obtain ⟨settings, loaded, is⟩ := exists_ok_of_any found
  exact ⟨settings, loaded, of_decide_eq_true is⟩

/-- An installation that waits for two minutes has the attempt taken up two
minutes after it was submitted. -/
theorem withWaiting_takes_up_after_two_minutes :
    ∃ settings, Settings.load (waitingFor "120") = .ok settings ∧
      let session :=
        withWaiting settings ⟨Column.origin.nanos + 120 * Instant.second⟩
      session.store.Lawful ∧ Calendar.start ≤ session.now ∧
        session.now < Calendar.stop ∧
        Exam.stalledBefore? settings session.now = some Column.origin ∧
        ∃ taken, Exam.TakesUp session.context Column.origin session.store taken
            (session.run .recover).2.store ∧ waitingAttempt ∈ taken := by
  obtain ⟨settings, loaded, age, room⟩ := exists_load_waitingFor_120
  have lawful :=
    withWaiting_lawful settings ⟨Column.origin.nanos + 120 * Instant.second⟩
  have since :
    Calendar.start ≤ ⟨Column.origin.nanos + 120 * Instant.second⟩ := by decide
  have present : ⟨Column.origin.nanos + 120 * Instant.second⟩ <
    Calendar.stop := by decide
  have counted : Exam.stalledBefore? settings
      ⟨Column.origin.nanos + 120 * Instant.second⟩ = some Column.origin := by
    rw [Exam.stalledBefore?, age]
    decide
  obtain ⟨-, -, -, takesUp⟩ := @recovery_counts_back_within_the_calendar _
    (withWaiting settings ⟨Column.origin.nanos + 120 * Instant.second⟩) loaded
    lawful since present
  obtain ⟨taken, takes, -⟩ := takesUp _ counted
  refine ⟨settings, loaded, lawful, since, present, counted, taken, takes, ?_⟩
  have only : taken.length ≤ [waitingAttempt].length :=
    (takes.once.subperm fun attempt inside =>
        (takes.waiting attempt inside).1).length_le
  exact takes.complete (by decide)
    (fun _ _ => List.not_mem_nil) (Nat.lt_of_le_of_lt only room) waitingAttempt
    List.mem_cons_self ⟨rfl, Column.origin, rfl, by decide⟩

/-- What an installation loads that waits for almost as many seconds as can be
counted. -/
theorem exists_load_waitingFor_most :
    (∃ settings,
      Settings.load (waitingFor "9223372036854775807") = .ok settings ∧
      Exam.stalledBefore? settings Column.origin = none) ∧ ∃ settings,
      Settings.load (waitingFor "18446744073709551615") = .ok settings ∧
      settings.stalledGradingAfterSeconds = 2 ^ 64 - 1 ∧
      ((withWaiting settings Column.origin).run .recover).2.store.attempts.all
        (fun attempt => decide (attempt.status ≠ .submitted)) = true := by
  have lost : ((Settings.load (waitingFor "9223372036854775807")).toOption.any
        fun settings =>
          decide (Exam.stalledBefore? settings Column.origin = none)) =
      true := by
    decide +kernel
  have graded :
      ((Settings.load (waitingFor "18446744073709551615")).toOption.any
        fun settings => decide (settings.stalledGradingAfterSeconds =
          2 ^ 64 - 1 ∧ ((withWaiting settings Column.origin).run
            .recover).2.store.attempts.all
            (fun attempt => decide (attempt.status ≠ .submitted)) = true)) =
        true := by
    decide +kernel
  obtain ⟨settings, loaded, none⟩ := exists_ok_of_any lost
  obtain ⟨settings', loaded', is⟩ := exists_ok_of_any graded
  exact ⟨⟨settings, loaded, of_decide_eq_true none⟩, settings', loaded',
    of_decide_eq_true is⟩

/-- With settings that have been loaded, a recovery may break off, and may take
up an attempt that has just been submitted. -/
theorem loaded_wait_may_leave_the_calendar_or_lead_ahead :
    (¬∀ (values : Variables) (session : Session),
      Settings.load values = .ok session.settings → session.store.Lawful →
      Column.origin ≤ session.now → session.now < Calendar.stop →
      (session.run .recover).1.result ≠ .outOfRange) ∧
    ¬∀ (values : Variables) (session : Session) (attempt : Attempt),
      Settings.load values = .ok session.settings → session.store.Lawful →
      Column.origin ≤ session.now →
      session.now < Calendar.stop → attempt ∈ session.store.attempts →
      attempt ∉ (session.run .recover).2.store.attempts → ∃ submittedAt,
        attempt.submittedAt = some submittedAt ∧
        submittedAt.nanos + session.settings.stalledGradingAfterSeconds *
          Instant.second ≤
            session.now.nanos := by
  obtain ⟨⟨settings, loaded, none⟩, settings', loaded', age, graded⟩ :=
    exists_load_waitingFor_most
  have since : Column.origin ≤ Column.origin := Int.le_refl _
  have present : Column.origin < Calendar.stop := by decide
  constructor
  · intro claimed
    apply claimed _ (withWaiting settings Column.origin) loaded
      (withWaiting_lawful _ _) since present
    rw [@run_recover_of_none (withWaiting settings Column.origin) none]
    rfl
  · intro claimed
    obtain ⟨submittedAt, submitted, elapsed⟩ :=
      claimed _ (withWaiting settings' Column.origin) waitingAttempt loaded'
        (withWaiting_lawful _ _) since present List.mem_cons_self fun left =>
          of_decide_eq_true (List.all_eq_true.mp graded _ left) rfl
    cases submitted
    change Column.origin.nanos + settings'.stalledGradingAfterSeconds *
      Instant.second ≤ Column.origin.nanos at elapsed
    rw [age] at elapsed
    exact absurd elapsed (by decide)

end Session

end ExamHall
