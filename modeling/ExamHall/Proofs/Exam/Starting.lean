import ExamHall.Exam.Starting
import ExamHall.Proofs.Attempt.Dealt
import ExamHall.Proofs.Exam.Answering

/-!
# Starting an attempt

The transaction of a start resumes the attempt in progress, or submits it when
its deadline has passed and deals the next one.  What it deals is an attempt on
a variant of the assignment's test, numbered after those that are there.
-/

namespace ExamHall

open Store

/-- What lets a student start an assignment now. -/
structure Admits (now : Instant) (store : Store) (studentId : String)
    (accessCode : Option String) (assignment : Assignment) : Prop where
  listed : assignment ∈ store.assignments
  active : assignment.status = .active
  begun : assignment.startsAt ≤ now
  unfinished : now ≤ assignment.endsAt
  enrolled : ⟨assignment.id, studentId⟩ ∈ store.roster
  accessCode : AccessCode.admits assignment.accessCodeHash accessCode = true

theorem window_eq_open_iff {now : Instant} {assignment : Assignment} :
    assignment.window now = .open ↔ assignment.status = .active ∧
    assignment.startsAt ≤ now ∧ now ≤ assignment.endsAt := by
  simp only [Assignment.window, Instant.lt_def, Instant.le_def]
  grind

theorem Admits.window {now : Instant} {store : Store} {studentId : String}
    {accessCode : Option String} {assignment : Assignment}
    (admits : Admits now store studentId accessCode assignment) :
    assignment.window now = .open :=
  window_eq_open_iff.mpr ⟨admits.active, admits.begun, admits.unfinished⟩

/-- Whether an attempt is one that a student has in progress on an
assignment. -/
def IsRunning (assignmentId studentId : String) (attempt : Attempt) : Prop :=
  isOf assignmentId studentId attempt = true ∧ attempt.status = .inProgress

/-- What the transaction of a start does to the attempt in progress when its
time is up: it submits it, if there is one. -/
inductive Expires (now : Instant) (store : Store)
    (assignmentId studentId : String) : Option Attempt → Store → Prop where
  | vacant (idle : ∀ attempt ∈ store.attempts,
        ¬IsRunning assignmentId studentId attempt) :
      Expires now store assignmentId studentId none store
  | expired {attempt : Attempt} (listed : attempt ∈ store.attempts)
      (running : IsRunning assignmentId studentId attempt)
      (passed : attempt.deadlineAt ≤ now) : Expires now store assignmentId
      studentId (some (Store.submitted attempt.deadlineAt now attempt))
        { store with
          attempts := updateWhere (hasStatus attempt.id .inProgress)
            (Store.submitted attempt.deadlineAt now) store.attempts }

/-- What the transaction of a start has done: nothing but finding the attempt to
resume, or letting the attempt in progress expire and perhaps opening the next
one. -/
inductive StartsAs (now : Instant) (store : Store) (assignment : Assignment)
    (studentId : String) : Exam.StartStep → Store → Prop where
  | resumed {attempt : Attempt} (listed : attempt ∈ store.attempts)
      (running : IsRunning assignment.id studentId attempt)
      (inTime : now < attempt.deadlineAt) :
      StartsAs now store assignment studentId (.resumed attempt) store
  | exhausted {pending : Option Attempt} {middle : Store}
      (expires : Expires now store assignment.id studentId pending middle)
      (spent : assignment.maxAttempts ≤
        store.attempts.countP (isOf assignment.id studentId)) :
      StartsAs now store assignment studentId (.exhausted pending) middle
  | started {pending : Option Attempt} {middle : Store} {attempt : Attempt}
      {issued : Issued} {row : Variant (Stored (List VariantQuestion))}
      {variant : Variant (List VariantQuestion)}
      (expires : Expires now store assignment.id studentId pending middle)
      (opens : Opens now middle assignment row attempt)
      (read : row.read? = some variant)
      (student : attempt.studentId = studentId) :
      StartsAs now store assignment studentId (.started pending attempt variant)
        { middle with attempts := middle.attempts ++ [attempt], issued }

namespace Expires

variable {now : Instant} {store after : Store} {assignmentId studentId : String}
  {pending : Option Attempt}

theorem variants
    (expires : Expires now store assignmentId studentId pending after) :
    after.variants = store.variants := by
  cases expires <;> rfl

theorem reached
    (expires : Expires now store assignmentId studentId pending after) :
    Reaches now store after := by
  cases expires with
  | vacant => exact .refl
  | expired listed running passed =>
      exact .single (.submitted ⟨listed, running.2, .inl ⟨rfl, .inl passed⟩⟩)

theorem count
    (expires : Expires now store assignmentId studentId pending after) :
    after.attempts.countP (isOf assignmentId studentId) =
      store.attempts.countP (isOf assignmentId studentId) := by
  cases expires with
  | vacant => rfl
  | expired => exact countP_isOf_updateWhere (.submitted _ now) _ _ _

/-- The attempt that has been submitted is handed over. -/
theorem handsOver
    (expires : Expires now store assignmentId studentId pending after)
    (lawful : store.Lawful) : HandsOver now pending store after := by
  cases expires with
  | vacant => exact .refl store
  | @expired attempt listed running passed =>
      refine .single (.submitted ⟨listed, running.2, .inl ⟨rfl, .inl passed⟩⟩)
        ?_
      have submitted :=
        @AddsOnly.markSubmitted now store attempt.id attempt.deadlineAt
      rwa [find?_hasStatus lawful.sittings.ids listed running.2] at submitted

end Expires

namespace Exam

variable {now : Instant} {before after : Store} {assignment : Assignment}
  {studentId : String}

theorem deal_eq_ok {ordinal : Nat} {variant : Variant (List VariantQuestion)} :
    deal assignment studentId ordinal before = .ok (variant, after) ↔
      Column.hasNul assignment.testId = false ∧
    before.CanReach [.variants] ∧ after = before ∧ 0 <
      before.variants.countP (fun other => other.testId == assignment.testId) ∧
    ∃ row, row.read? = some variant ∧ before.variants.find?
        (fun other => other.testId == assignment.testId && other.position ==
          (variantIndex studentId assignment.id ordinal
            (before.variants.countP fun other => other.testId ==
              assignment.testId) assignment.shufflePerStudent : Int)) =
        some row := by
  simp only [deal, bind_eq_ok, Transaction.lift_eq_ok,
    Transaction.require_eq_ok, Transaction.demand_eq_ok, countVariants_eq_ok,
    variantAt?_eq_ok, decide_eq_true_eq]
  constructor
  · rintro ⟨_, _, ⟨plain, reached, rfl, rfl⟩, _, _, ⟨positive, rfl⟩, _, _,
      ⟨-, -, rfl, read⟩, rfl,
      rfl⟩
    refine ⟨plain, reached, rfl, positive, ?_⟩
    rcases read with ⟨missing, -⟩ | ⟨row, _, same, read, present⟩
    · cases missing
    · cases same
      exact ⟨row, read, present⟩
  · rintro ⟨plain, reached, rfl, positive, row, read, present⟩
    exact ⟨_, after, ⟨plain, reached, rfl, rfl⟩, ⟨⟩, after, ⟨positive, rfl⟩,
      some variant, after,
      ⟨plain, reached, rfl, .inr ⟨row, variant, rfl, read, present⟩⟩, rfl, rfl⟩

/-- The attempt that is dealt next and the row of its variant. -/
theorem dealNext_opens {attempt : Attempt}
    {variant : Variant (List VariantQuestion)} (lawful : before.Lawful)
    (listed : assignment ∈ before.assignments)
    (window : assignment.window now = .open)
    (enrolled : ⟨assignment.id, studentId⟩ ∈ before.roster)
    (left : (before.attempts.countP (isOf assignment.id studentId) : Int) <
      assignment.maxAttempts)
    (ended : dealNext assignment studentId
      (before.attempts.countP (isOf assignment.id studentId) + 1) now before =
      .ok ((attempt, variant), after)) :
    ∃ row issued, Opens now before assignment row attempt ∧
      row.read? = some variant ∧ attempt.studentId = studentId ∧
      after =
        { before with attempts := before.attempts ++ [attempt], issued } := by
  simp only [dealNext, bind_eq_ok, Transaction.lift_eq_ok,
    Transaction.inRange_eq_ok, Transaction.demand_eq_ok, deal_eq_ok,
    createAttempt_eq_ok, pure_eq_ok] at ended
  obtain ⟨shown, _, ⟨-, -, rfl, -, row, read, present⟩, most, _, ⟨scored, rfl⟩,
    deadlineAt, store, ⟨due, rfl⟩, created, _, ⟨-, -, new, made, -, written⟩, _,
    _, ⟨rfl, rfl⟩, same, rfl⟩ := ended
  obtain ⟨rfl, rfl⟩ := Prod.mk.inj same
  split at written
  · cases written.2
  next apart =>
    obtain ⟨-, -, rfl, same⟩ := written
    cases same
    obtain ⟨questions, value, rfl⟩ := Option.map_eq_some_iff.mp read
    have dealt := List.mem_of_find?_eq_some present
    have place := List.find?_some present
    simp only [Bool.and_eq_true, beq_iff_eq] at place
    obtain ⟨assignmentId, student, variantId, maxScore, keptAssignment,
      keptStudent, keptVariant, keptScore, same⟩ := attemptRow_eq_ok.mp made
    obtain rfl :=
      (lawful.assignments.keys assignment listed).kept _ keptAssignment
    obtain rfl : student = studentId := by
      rw [(lawful.assignments.students _ enrolled).id_eq_ok] at keptStudent
      exact (Except.ok.inj keptStudent).symm
    obtain rfl := (lawful.tests.variantKeys row dealt).kept _ keptVariant
    have sameId : attempt.id = idOf "attempt" (nextAttemptNumber store) := by
      rw [same]
    have sameStudent : attempt.studentId = student := by rw [same]
    refine ⟨row, _, ?_, read, sameStudent, rfl⟩
    rw [← sameStudent] at enrolled left place
    exact
      { listed, window, enrolled, dealt, left
        fresh := sameId ▸ idOf_freshNumber_not_mem _ _ _
        key := sameId ▸ isKey_idOf (by decide +kernel) _
        apart := fun other inside => by
          rw [Bool.eq_false_iff]
          intro conflict
          exact apart (List.any_eq_true.mpr ⟨other, inside, conflict⟩)
        test := place.1
        position := place.2
        begun := ⟨questions, most, maxScore, deadlineAt, value, scored,
          keptScore, due, by
          rw [same]
          rfl⟩ }

/-- The attempt that a start has submitted. -/
def StartStep.pending : StartStep → Option Attempt
  | .resumed _ => none
  | .exhausted timedOut => timedOut
  | .started timedOut _ _ => timedOut

/-- What the transaction of a start does after the attempt in progress has run
out of time, if there was one. -/
theorem openNext_startsAs {pending : Option Attempt} {middle : Store}
    {step : StartStep} (lawful : middle.Lawful)
    (expires : Expires now before assignment.id studentId pending middle)
    (listed : assignment ∈ middle.assignments)
    (window : assignment.window now = .open)
    (enrolled : ⟨assignment.id, studentId⟩ ∈ middle.roster)
    (ended : openNext assignment studentId pending now middle =
      .ok (step, after)) :
    StartsAs now before assignment studentId step after := by
  simp only [openNext, bind_eq_ok, Transaction.lift_eq_ok, countAttempts_eq_ok]
    at ended
  obtain ⟨used, store, ⟨-, -, rfl, rfl⟩, ended⟩ := ended
  split at ended
  · next spent =>
      obtain ⟨rfl, rfl⟩ := pure_eq_ok.mp ended
      exact .exhausted expires (expires.count ▸ spent)
  · next left =>
      simp only [bind_eq_ok, pure_eq_ok] at ended
      obtain ⟨⟨attempt, variant⟩, _, dealt, rfl, rfl⟩ := ended
      obtain ⟨row, issued, opens, read, same, rfl⟩ :=
        dealNext_opens lawful listed window enrolled (Int.not_le.mp left) dealt
      exact .started expires opens read same

/-- The transaction of a start makes no other changes than submitting the
expired attempt and opening the next one. -/
theorem startTransaction_startsAs {step : StartStep} (lawful : before.Lawful)
    (listed : assignment ∈ before.assignments)
    (window : assignment.window now = .open)
    (enrolled : ⟨assignment.id, studentId⟩ ∈ before.roster)
    (ended : startTransaction assignment studentId now before =
      .ok (step, after)) :
    StartsAs now before assignment studentId step after := by
  simp only [startTransaction, bind_eq_ok, Transaction.lift_eq_ok,
    attemptInProgress?_eq_ok] at ended
  obtain ⟨_, _, locked, _, store, ⟨-, -, rfl, rfl⟩, ended⟩ := ended
  obtain rfl := isRead_lockSitter _ _ _ _ _ locked
  cases found : store.attempts.find? fun attempt => isOf assignment.id studentId
      attempt && decide (attempt.status = .inProgress) with
  | none =>
      rw [found] at ended
      refine openNext_startsAs lawful
        (.vacant fun attempt present running => ?_) listed window enrolled ended
      have missed := List.find?_eq_none.mp found attempt present
      rw [running.1, decide_eq_true running.2] at missed
      exact missed rfl
  | some existing =>
      simp only [found] at ended
      have present := List.mem_of_find?_eq_some found
      have running : IsRunning assignment.id studentId existing := by
        have selected := List.find?_some found
        rwa [Bool.and_eq_true, decide_eq_true_eq] at selected
      split at ended
      · next passed =>
          simp only [bind_eq_ok, Transaction.lift_eq_ok, markSubmitted_eq_ok]
            at ended
          obtain ⟨_, middle, ⟨-, -, rfl, rfl⟩, ended⟩ := ended
          have expires :=
            Expires.expired present running (isExpired_eq_true.mp passed)
          rw [find?_hasStatus lawful.sittings.ids present running.2] at ended
          exact openNext_startsAs (expires.reached.lawful lawful) expires listed
            window enrolled ended
      · next left =>
          obtain ⟨rfl, rfl⟩ := pure_eq_ok.mp ended
          exact .resumed present running (lt_of_not_isExpired left)

theorem startTransaction_handsOver {step : StartStep} (lawful : before.Lawful)
    (listed : assignment ∈ before.assignments)
    (window : assignment.window now = .open)
    (enrolled : ⟨assignment.id, studentId⟩ ∈ before.roster)
    (ended : startTransaction assignment studentId now before =
      .ok (step, after)) : HandsOver now step.pending before after := by
  cases startTransaction_startsAs lawful listed window enrolled ended with
  | resumed => exact .refl _
  | exhausted expires => exact expires.handsOver lawful
  | started expires opens =>
      refine (expires.handsOver lawful).then_none
        (.single (.opened opens) (.append _ ?_))
      obtain ⟨_, _, _, _, -, -, -, -, begun⟩ := opens.begun
      rw [begun]
      rintro ⟨⟩

end Exam

end ExamHall
