import ExamHall.Proofs.Attempt.Dealt
import ExamHall.Proofs.Attempt.Order
import ExamHall.Proofs.Exam.Keeping
import ExamHall.Proofs.Exam.Settling
import ExamHall.Proofs.Exam.Starting

/-!
# Dealing and expiring

A start deals a new attempt, after it has submitted the one whose time is up.
-/

/-!
## Dealing attempts does not fail

The variants of a generated test stand at the positions from zero on without a
gap, so there is one for each index. An attempt on one of them is stored as long
as its points fit into the column and its deadline into the calendar.
-/

namespace ExamHall

open Store

/-- The variants of a test stand at the positions from zero on. -/
def Store.Deals (store : Store) (testId : String) : Prop :=
  let dealt := store.variants.filter (·.testId == testId)
  dealt ≠ [] ∧ dealt.map (·.position) = (List.range dealt.length).map Int.ofNat

variable {now : Instant} {before after store : Store}

/-- What is generated can be dealt, and other tests are not touched by it. -/
theorem Generates.deals {test : GeneratedTest}
    {variants : List (Variant (Stored (List VariantQuestion)))}
    {issued : Issued} {known : List String} (lawful : before.Lawful)
    (generates : Generates before test variants)
    (deals : ∀ id ∈ before.tests.map (·.id), id ∉ known → before.Deals id) :
    ∀ id ∈ (before.tests ++ [test]).map (·.id), id ∉ known →
      Store.Deals { before with
        tests := before.tests ++ [test],
        variants := before.variants ++ variants, issued } id := by
  intro id listed new
  rw [List.map_append, List.mem_append] at listed
  unfold Store.Deals
  rw [List.filter_append]
  rcases listed with old | fresh
  · have none : variants.filter (·.testId == id) = [] := by
      rw [List.filter_eq_nil_iff]
      intro variant inside same
      rw [beq_iff_eq, generates.variantTests variant inside] at same
      exact generates.fresh (same ▸ old)
    rw [none, List.append_nil]
    exact deals id old new
  · obtain rfl := List.mem_singleton.mp fresh
    have none : before.variants.filter (·.testId == test.id) = [] := by
      rw [List.filter_eq_nil_iff]
      intro variant inside same
      have used := lawful.tests.variantTests variant inside
      rw [beq_iff_eq.mp same] at used
      exact generates.fresh used
    have all : variants.filter (·.testId == test.id) = variants := by
      rw [List.filter_eq_self]
      intro variant inside
      exact beq_iff_eq.mpr (generates.variantTests variant inside)
    rw [none, all, List.nil_append]
    exact ⟨generates.nonempty, generates.positions⟩

theorem Change.deals {known : List String} (change : Change now before after)
    (lawful : before.Lawful)
    (deals : ∀ id ∈ before.tests.map (·.id), id ∉ known → before.Deals id) :
    ∀ id ∈ after.tests.map (·.id), id ∉ known → after.Deals id := by
  cases change with
  | generated generates => exact generates.deals lawful deals
  | _ => exact deals

/-- There is a variant at each position below the number of variants. -/
theorem Store.Deals.exists_at {testId : String} (deals : store.Deals testId)
    {index : Nat} (small : index < store.variants.countP (·.testId == testId)) :
    ∃ variant, store.variants.find? (fun other => other.testId ==
      testId && other.position == (index : Int)) = some variant := by
  obtain ⟨-, positions⟩ := deals
  rw [List.countP_eq_length_filter] at small
  have inside : (index : Int) ∈
      (store.variants.filter (·.testId == testId)).map (·.position) := by
    rw [positions]
    exact List.mem_map.mpr ⟨index, List.mem_range.mpr small, rfl⟩
  obtain ⟨variant, listed, place⟩ := List.mem_map.mp inside
  obtain ⟨dealt, same⟩ := List.mem_filter.mp listed
  rw [← Option.isSome_iff_exists, List.find?_isSome]
  exact ⟨variant, dealt, Bool.and_eq_true_iff.mpr ⟨same, beq_iff_eq.mpr place⟩⟩

theorem Store.Deals.positive {testId : String} (deals : store.Deals testId) :
    0 < store.variants.countP (·.testId == testId) := by
  rw [List.countP_eq_length_filter]
  exact List.length_pos_iff.mpr deals.1

/-- Nothing stands in the way of dealing an assignment to a student but what the
assignment itself says. -/
structure CanDeal (store : Store) (assignment : Assignment)
    (studentId : String) : Prop where
  reliable : store.IsReliable
  numbered : store.IsNumbered
  listed : assignment ∈ store.assignments
  enrolled : ⟨assignment.id, studentId⟩ ∈ store.roster
  deals : store.Deals assignment.testId
  short : FitsId assignment.id
  shortIds : ∀ variant ∈ store.variants, variant.testId = assignment.testId →
    FitsId variant.id
  fits : ∀ variant ∈ store.variants, variant.testId = assignment.testId →
    ∀ questions, variant.questions.value? = some questions →
      totalPoints questions < Column.pointsBound

namespace Exam

variable {assignment : Assignment} {studentId : String}

theorem exists_deal (can : CanDeal store assignment studentId) (ordinal : Nat) :
    ∃ row variant, row ∈ store.variants ∧ row.testId = assignment.testId ∧
      row.read? = some variant ∧ IsPaper variant.questions ∧
      deal assignment studentId ordinal store = .ok (variant, store) := by
  have lawful := can.reliable.lawful
  obtain ⟨test, known, same⟩ :=
    List.mem_map.mp (lawful.assignments.tests assignment can.listed)
  obtain ⟨row, found⟩ := can.deals.exists_at (variantIndex_lt can.deals.positive
      studentId assignment.id ordinal assignment.shufflePerStudent)
  have dealt := List.mem_of_find?_eq_some found
  have place := List.find?_some found
  rw [Bool.and_eq_true, beq_iff_eq, beq_iff_eq] at place
  obtain ⟨questions, read, paper⟩ := can.reliable.papers row dealt
  refine ⟨row, { row with questions }, dealt, place.1, ?_, paper, ?_⟩
  · rw [Variant.read?, read]
    rfl
  · rw [deal_eq_ok]
    refine ⟨same ▸ (lawful.tests.keys test known).plain,
      canReach_of_noOutages can.reliable.reach _,
      rfl, can.deals.positive, row, ?_, found⟩
    rw [Variant.read?, read]
    rfl

theorem exists_maxScore? {questions : List VariantQuestion}
    (paper : IsPaper questions)
    (fits : totalPoints questions < Column.pointsBound) :
    ∃ most stored, maxScore? questions = some most ∧
      Column.points most = .ok stored := by
  have amounts : ∀ points ∈ questions.map (·.points), points.IsAmount := by
    intro points inside
    obtain ⟨question, shown, rfl⟩ := List.mem_map.mp inside
    exact paper.points question shown
  have whole : ((questions.map (·.points)).map Decimal.toRat).sum =
      totalPoints questions := by
    rw [List.map_map]
    rfl
  obtain ⟨sum, added, amount, same, -⟩ := Decimal.exists_sum? amounts
    (fun points _ => points.scale_le) (whole ▸ (fits.le.trans pointsBound_le))
  rw [whole] at same
  obtain ⟨stored, kept, -⟩ :=
    Column.exists_points (amount.congr amount.toRat_roundPoints)
      (by rw [amount.toRat_roundPoints, same]; exact fits)
  exact ⟨_, stored, by rw [maxScore?, added]; rfl, kept⟩

/-- An attempt with a new id and the next number stands beside the others if
none of them is in progress. -/
theorem not_any_conflicts {attempt : Attempt} (numbered : store.IsNumbered)
    (idle : ∀ other ∈ store.attempts,
      isOf assignment.id studentId other = true → other.status ≠ .inProgress)
    (id : attempt.id = idOf "attempt" (nextAttemptNumber store))
    (assignmentId : attempt.assignmentId = assignment.id)
    (student : attempt.studentId = studentId)
    (number : attempt.number =
      (store.attempts.countP (isOf assignment.id studentId) + 1 : Nat)) :
    ¬store.attempts.any (conflicts attempt) := by
  rw [List.any_eq_true]
  rintro ⟨other, listed, conflict⟩
  have fresh : attempt.id ≠ other.id := by
    rw [id]
    exact fun same => idOf_freshNumber_not_mem _ _ _
      (List.mem_map.mpr ⟨other, listed, same.symm⟩)
  simp only [conflicts, isSameSitter, Bool.or_eq_true, Bool.and_eq_true,
    beq_iff_eq, decide_eq_true_eq, fresh, false_or] at conflict
  obtain ⟨⟨sameAssignment, sameStudent⟩, conflict⟩ := conflict
  have sitter : isOf assignment.id studentId other = true := by
    rw [isOf_eq_true, ← sameAssignment, ← sameStudent]
    exact ⟨assignmentId, student⟩
  rcases conflict with sameNumber | ⟨-, running⟩
  · exact numbered.free listed sitter (by rw [← sameNumber, number]; rfl)
  · exact idle other listed sitter running

/-- The next attempt is dealt if its deadline lies within the calendar. -/
theorem exists_dealNext (can : CanDeal store assignment studentId)
    (idle : ∀ other ∈ store.attempts,
      isOf assignment.id studentId other = true → other.status ≠ .inProgress)
    {due : Instant}
    (inTime : deadline? now assignment.durationMinutes = some due) :
    ∃ attempt variant after, dealNext assignment studentId
        (store.attempts.countP (isOf assignment.id studentId) + 1) now store =
        .ok ((attempt, variant), after) := by
  have lawful := can.reliable.lawful
  obtain ⟨row, variant, dealt, test, read, paper, ended⟩ :=
    exists_deal can (store.attempts.countP (isOf assignment.id studentId) + 1)
  obtain ⟨questions, document, rfl⟩ := Option.map_eq_some_iff.mp read
  have student := lawful.assignments.students _ can.enrolled
  have variantKey := can.shortIds row dealt test
  obtain ⟨most, stored, scored, kept⟩ :=
    exists_maxScore? paper (can.fits row dealt test _ document)
  obtain ⟨attempt, made, id, own, number⟩ : ∃ attempt,
      attemptRow (idOf "attempt" (nextAttemptNumber store))
        { assignmentId := assignment.id, studentId
          number :=
            (store.attempts.countP (isOf assignment.id studentId) + 1 : Nat)
          variantId := row.id, variantIndex := row.position, startedAt := now
          deadlineAt := due, maxScore := most } = .ok attempt ∧
        attempt.id = idOf "attempt" (nextAttemptNumber store) ∧
        (attempt.assignmentId = assignment.id ∧ attempt.studentId = studentId ∧
          attempt.variantId = row.id) ∧
        attempt.number =
          (store.attempts.countP (isOf assignment.id studentId) + 1 : Nat) :=
    ⟨_, attemptRow_eq_ok.mpr ⟨_, _, _, _, can.short.id_eq_ok, student.id_eq_ok,
      variantKey.id_eq_ok, kept, rfl⟩, rfl, ⟨rfl, rfl, rfl⟩, rfl⟩
  have apart := not_any_conflicts can.numbered idle id own.1 own.2.1 number
  refine ⟨attempt, { row with questions }, { store with
    attempts := store.attempts ++ [attempt]
    issued := { store.issued with attempts := nextAttemptNumber store } }, ?_⟩
  unfold dealNext
  rw [bind_of_ok ended,
    bind_of_ok (Transaction.inRange_eq_ok.mpr ⟨scored, rfl⟩),
    bind_of_ok (Transaction.inRange_eq_ok.mpr ⟨inTime, rfl⟩)]
  have plain : ∀ text ∈ [assignment.id, studentId, row.id],
      Column.hasNul text = false := by
    simp [can.short.plain, student.plain, variantKey.plain]
  have positive : 1 ≤ attempt.number := by
    rw [number]
    exact_mod_cast Nat.le_add_left 1 _
  have created := createAttempt_eq_ok.mpr ⟨plain,
      canReach_of_noOutages can.reliable.reach _, attempt, made, positive, by
      rw [if_neg apart]
      exact ⟨own.1 ▸ List.mem_map_of_mem can.listed,
        own.2.2 ▸ List.mem_map_of_mem dealt, rfl, rfl⟩⟩
  rw [bind_of_ok (Transaction.lift_eq_ok.mpr created)]
  rfl

theorem dealNext_outOfRange (can : CanDeal store assignment studentId)
    (late : deadline? now assignment.durationMinutes = none) (ordinal : Nat) :
    dealNext assignment studentId ordinal now store = .error .outOfRange := by
  obtain ⟨row, variant, dealt, test, read, paper, ended⟩ :=
    exists_deal can ordinal
  obtain ⟨questions, document, rfl⟩ := Option.map_eq_some_iff.mp read
  obtain ⟨most, stored, scored, -⟩ :=
    exists_maxScore? paper (can.fits row dealt test _ document)
  unfold dealNext
  rw [bind_of_ok ended,
    bind_of_ok (Transaction.inRange_eq_ok.mpr ⟨scored, rfl⟩), late]
  rfl

end Exam

end ExamHall

/-!
## Attempts whose time is up

When a student starts again after the deadline of an attempt in progress, the
transaction of the start submits that attempt as of its deadline, and it is
graded afterwards.  No other attempt is touched.
-/

namespace ExamHall

open Store

/-- An attempt has been submitted as of its deadline and graded. -/
structure IsTimedOut (before after : Attempt) : Prop where
  kept : Attempt.Kept before after
  submittedAt : after.submittedAt = some before.deadlineAt
  scored : after.status.isScored = true

open Classical in
/-- The attempts after the time of those that a student had in progress on an
assignment is up. -/
def TimesOut (assignmentId studentId : String) :
    List Attempt → List Attempt → Prop :=
  List.Forall₂ fun before after =>
    if IsRunning assignmentId studentId before then IsTimedOut before after
    else after = before

variable {now : Instant} {store after : Store} {assignmentId studentId : String}
  {attempt other : Attempt} {pending : Option Attempt}

/-- A student has at most one attempt in progress on an assignment. -/
theorem IsRunning.unique (lawful : store.Lawful)
    (listed : attempt ∈ store.attempts) (otherListed : other ∈ store.attempts)
    (running : IsRunning assignmentId studentId attempt)
    (otherRunning : IsRunning assignmentId studentId other) :
    other = attempt := by
  by_contra different
  have symmetric : Std.Symm fun left right : Attempt =>
    Store.conflicts left right = false :=
    ⟨fun left right apart => by
      rw [conflicts_comm]
      exact apart⟩
  have apart := lawful.sittings.apart.forall otherListed listed different
  obtain ⟨own, status⟩ := running
  obtain ⟨own', status'⟩ := otherRunning
  rw [isOf_eq_true] at own own'
  simp [conflicts, isSameSitter, own, own', status, status'] at apart

/-- Where a student has no attempt in progress, none runs out of time. -/
theorem timesOut_of_idle {attempts : List Attempt}
    (idle : ∀ attempt ∈ attempts, ¬IsRunning assignmentId studentId attempt) :
    TimesOut assignmentId studentId attempts attempts := by
  unfold TimesOut
  rw [List.forall₂_same]
  intro attempt listed
  rw [if_neg (idle attempt listed)]

namespace Expires

/-- What has been submitted is in the store. -/
theorem mem {submitted : Attempt}
    (expires : Expires now store assignmentId studentId (some submitted)
      after) : submitted ∈ after.attempts := by
  cases expires with
  | expired listed running passed =>
      exact mem_updateWhere_of_holds listed
        (hasStatus_eq_true.mpr ⟨rfl, running.2⟩)

/-- The student's attempts in progress are past their deadline. -/
theorem late (expires : Expires now store assignmentId studentId pending after)
    (lawful : store.Lawful) :
    ∀ attempt ∈ store.attempts, IsRunning assignmentId studentId attempt →
      attempt.deadlineAt ≤ now := by
  intro attempt listed running
  cases expires with
  | vacant idle => exact absurd running (idle attempt listed)
  | expired found own passed =>
      obtain rfl := own.unique lawful found listed running
      exact passed

theorem idle (expires : Expires now store assignmentId studentId pending after)
    (lawful : store.Lawful) :
    ∀ other ∈ after.attempts, ¬IsRunning assignmentId studentId other := by
  cases expires with
  | vacant idle => exact idle
  | @expired attempt listed running passed =>
      intro other membership otherRunning
      obtain ⟨old, inside, rfl⟩ := mem_updateWhere.mp membership
      cases selected : hasStatus attempt.id .inProgress old with
      | true =>
          rw [if_pos selected] at otherRunning
          exact absurd otherRunning.2 nofun
      | false =>
          rw [if_neg (by simp [selected])] at otherRunning
          obtain rfl := running.unique lawful listed inside otherRunning
          rw [hasStatus_eq_true.mpr ⟨rfl, running.2⟩] at selected
          cases selected

theorem canDeal {assignment : Assignment}
    (expires : Expires now store assignment.id studentId pending after)
    (can : CanDeal store assignment studentId) :
    CanDeal after assignment studentId := by
  cases expires with
  | vacant => exact can
  | expired listed running passed =>
      have change : Change now store _ :=
        .submitted ⟨listed, running.2, .inl ⟨rfl, .inl passed⟩⟩
      exact
        { can with
          reliable := change.reliable can.reliable
          numbered := change.numbered can.numbered }

/-- An attempt in progress that has been submitted as of its deadline and then
scored has timed out, alone. -/
theorem timesOut_scored {attempt : Attempt}
    {rawScore maxScore percentage : Decimal} {update : ScoreUpdate}
    (lawful : store.Lawful) (orderly : store.IsOrderly now)
    (listed : attempt ∈ store.attempts)
    (own : IsRunning assignmentId studentId attempt)
    (isScored : update.status.isScored = true) :
    TimesOut assignmentId studentId store.attempts
      (updateWhere (hasStatus attempt.id .submitted)
        (scored rawScore maxScore percentage update)
        (updateWhere (hasStatus attempt.id .inProgress)
          (Store.submitted attempt.deadlineAt now) store.attempts)) := by
  have due := (orderly.regular attempt listed).due
  unfold TimesOut updateWhere
  rw [List.forall₂_map_right_iff, List.forall₂_map_right_iff, List.forall₂_same]
  intro old inside
  by_cases runs : IsRunning assignmentId studentId old
  · obtain rfl := own.unique lawful listed inside runs
    have waits : hasStatus old.id .submitted
        (Store.submitted old.deadlineAt now old) = true :=
      hasStatus_eq_true.mpr ⟨rfl, rfl⟩
    rw [if_pos runs, if_pos (hasStatus_eq_true.mpr ⟨rfl, own.2⟩), if_pos waits]
    exact
      { kept := (Attempt.Kept.submitted _ now old).trans (.scored _ _ _ _ _)
        submittedAt := congrArg some due
        scored := isScored }
  · -- Another attempt has another id, so neither of the two updates selects it.
    have other : old.id ≠ attempt.id := by
      rintro sameId
      obtain rfl := eq_of_key lawful.sittings.ids inside listed sameId
      exact runs own
    rw [if_neg runs, if_neg (fun held => other (hasStatus_eq_true.mp held).1),
      if_neg (fun held => other (hasStatus_eq_true.mp held).1)]

/-- Grading the attempt that has been submitted leaves all others as they
were. -/
theorem completes {opened last : Store} {submitted : Attempt}
    {added : List Attempt}
    (expires : Expires now store assignmentId studentId (some submitted) after)
    (lawful : store.Lawful) (orderly : store.IsOrderly now)
    (attempts : opened.attempts = after.attempts ++ added)
    (running : ∀ attempt ∈ added, attempt.status = .inProgress)
    (reliable : opened.IsReliable)
    (completed : Exam.Completes now submitted.id opened last) :
    ∃ settled, TimesOut assignmentId studentId store.attempts settled ∧
      last.attempts = settled ++ added := by
  cases expires with
  | @expired attempt listed own passed =>
      cases completed with
      | passed idle =>
          have waits : Store.submitted attempt.deadlineAt now attempt ∈
              opened.attempts := by
            rw [attempts]
            refine List.mem_append_left added
              (mem_updateWhere_of_holds listed ?_)
            exact hasStatus_eq_true.mpr ⟨rfl, own.2⟩
          exact absurd (hasStatus_eq_true.mpr ⟨rfl, rfl⟩)
            (Bool.eq_false_iff.mp (idle reliable _ waits))
      | @graded graded _ _ same into =>
          obtain ⟨_, _, totals, raw, most, share, _, -, -, -, rfl⟩ := into
          have here : graded.id = attempt.id := same
          have quiet : ∀ other ∈ added,
              hasStatus attempt.id .submitted other = false := by
            intro other inside
            rw [Bool.eq_false_iff, Ne, hasStatus_eq_true, running other inside]
            exact fun waits => nomatch waits.2
          refine ⟨_, @timesOut_scored _ _ _ _ attempt raw most share
            (Exam.scoreUpdate totals totals.statusAfterAuto now) lawful orderly
            listed own totals.isScored_statusAfterAuto, ?_⟩
          change updateWhere (hasStatus graded.id _) _ opened.attempts = _
          rw [here, attempts]
          exact List.map_append.trans
            (congrArg _ (updateWhere_of_forall_not quiet))

end Expires

end ExamHall
