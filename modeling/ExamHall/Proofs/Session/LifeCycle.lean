import ExamHall.Proofs.Attempt.Dealt
import ExamHall.Proofs.Exam.Admission
import ExamHall.Proofs.Exam.Expiring
import ExamHall.Proofs.Session.Serving

/-!
# Where students and their attempts stand

A student is told what is left of an assignment, and every attempt follows the
life cycle.
-/

/-!
## Where a student stands

A student on the roster is told how many attempts are left and which one is the
latest.  As attempts are numbered from one on and never more than the assignment
allows, the number left is what their count leaves of the limit, and the latest
one is the one whose number is their count.
-/

namespace ExamHall

open Store ExamHall.Action

/-- What a student is told about an assignment. -/
structure IsStanding (store : Store) (assignment : Assignment)
    (studentId : String) (shown : StudentStatus) : Prop where
  assignmentId : shown.assignmentId = assignment.id
  remaining : shown.remainingAttempts =
    assignment.maxAttempts -
      store.attempts.countP (isOf assignment.id studentId)
  nonneg : 0 ≤ shown.remainingAttempts
  latest : match shown.latest with
    | none => store.attempts.countP (isOf assignment.id studentId) = 0
    | some latest =>
        latest ∈ store.attempts ∧ isOf assignment.id studentId latest = true ∧
        latest.number = store.attempts.countP (isOf assignment.id studentId)

variable {store : Store} {assignmentId studentId : String}

namespace Store

/-- The latest of some attempts is one of them, and none has a larger number. -/
theorem foldl_later (rest : List Attempt) (first : Attempt) :
    rest.foldl later first ∈ first :: rest ∧ ∀ attempt ∈ first :: rest,
      attempt.number ≤ (rest.foldl later first).number := by
  induction rest generalizing first with
  | nil => exact ⟨List.mem_singleton_self _,
    List.forall_mem_singleton.mpr (Int.le_refl _)⟩
  | cons second rest ih =>
      obtain ⟨inside, largest⟩ := ih (later first second)
      rw [List.foldl_cons]
      have here := largest _ List.mem_cons_self
      have older : later first
        second = first ∨ later first second = second := by
        unfold later
        split
        · exact .inr rfl
        · exact .inl rfl
      have bounds : first.number ≤ (later first second).number ∧
          second.number ≤ (later first second).number := by
        unfold later
        split <;> omega
      refine ⟨?_, ?_⟩
      · rcases List.mem_cons.mp inside with same | later
        · rw [same]
          rcases older with older | older <;> simp [older]
        · exact List.mem_cons_of_mem _ (List.mem_cons_of_mem _ later)
      · intro attempt listed
        rcases List.mem_cons.mp listed with rfl | listed
        · exact bounds.1.trans here
        rcases List.mem_cons.mp listed with rfl | listed
        · exact bounds.2.trans here
        · exact largest attempt (List.mem_cons_of_mem _ listed)

/-- The latest attempt has the number of all attempts. -/
theorem exists_latestAttempt? (numbered : store.IsNumbered)
    (reach : store.outages = [])
    (plainAssignment : Column.hasNul assignmentId = false)
    (plainStudent : Column.hasNul studentId = false) :
    ∃ found, latestAttempt? assignmentId studentId store = .ok (found, store) ∧
      match found with
      | none => store.attempts.countP (isOf assignmentId studentId) = 0
      | some latest =>
          latest ∈ store.attempts ∧ isOf assignmentId studentId latest = true ∧
          latest.number =
            store.attempts.countP (isOf assignmentId studentId) := by
  have ended := (@latestAttempt?_eq_ok store store assignmentId studentId _).mpr
    ⟨⟨plainAssignment, plainStudent⟩, canReach_of_noOutages reach _, rfl, rfl⟩
  refine ⟨_, ended, ?_⟩
  cases own : store.attempts.filter (isOf assignmentId studentId) with
  | nil => rw [List.countP_eq_length_filter, own, List.length_nil]
  | cons first rest =>
      obtain ⟨inside, largest⟩ := foldl_later rest first
      rw [← own] at inside largest
      obtain ⟨listed, same⟩ := List.mem_filter.mp inside
      refine ⟨listed, same, Int.le_antisymm (numbered.number_le listed same) ?_⟩
      -- The number of all attempts is one of the numbers, and none of them is
      -- larger than the latest.
      have numbers := numbered assignmentId studentId
      have top :
          Int.ofNat (store.attempts.countP (isOf assignmentId studentId)) ∈
            (store.attempts.filter (isOf assignmentId studentId)).map
              (·.number) := by
        rw [numbers]
        have positive :
            0 < store.attempts.countP (isOf assignmentId studentId) := by
          rw [List.countP_eq_length_filter, own]
          exact Nat.succ_pos _
        exact List.mem_map_of_mem (List.mem_range'_1.mpr (by omega))
      obtain ⟨attempt, counted, number⟩ := List.mem_map.mp top
      exact (Int.le_of_eq number.symm).trans (largest attempt counted)

end Store

/-- Students on the roster are told where they stand. -/
theorem Exam.status_ends {context : Context} {caller : Caller}
    {assignment : Assignment} (lawful : store.Lawful)
    (reach : store.outages = []) (numbered : store.IsNumbered)
    (capped : store.IsCapped) (listed : assignment ∈ store.assignments)
    (enrolled : ⟨assignment.id, caller.id⟩ ∈ store.roster) :
    Ends context (fun world => world.store = store)
      (Exam.status caller assignment.id) fun result world =>
        world.store = store ∧ ∃ shown, result = .ok shown ∧
          IsStanding store assignment caller.id shown := by
  have plain := (lawful.assignments.keys assignment listed).plain
  have student : Column.hasNul caller.id = false :=
    (lawful.assignments.students _ enrolled).plain
  have found := assignment?_eq_ok.mpr ⟨plain, canReach_of_noOutages reach _,
    rfl, (find?_key_eq_some lawful.assignments.ids listed).symm⟩
  have rostered :=
    isOnRoster_eq_ok.mpr ⟨⟨plain, student⟩, canReach_of_noOutages reach _, rfl,
      (List.contains_iff_mem.mpr enrolled).symm⟩
  have counted := countAttempts_eq_ok.mpr ⟨⟨plain, student⟩,
    canReach_of_noOutages reach _, rfl, rfl⟩
  obtain ⟨latest, searched, last⟩ :=
    exists_latestAttempt? numbered reach plain student
  have left := capped assignment listed caller.id
  refine .bind_query found ?_
  refine .bind_query rostered
    (.bind_query counted (.bind_query searched (.pure ?_)))
  rintro world same
  exact ⟨same, _, rfl, rfl, max_eq_left (by omega), Int.le_max_right _ _, last⟩

end ExamHall

/-!
## Every attempt follows the life cycle

Whoever calls a service, and in whatever order, tables that get out of reach
included: the attempts of a student on an assignment are numbered from one on,
there are never more than allowed and never two in progress, and each of them
sits the variant that its number asks for.  From the moment an attempt is
started until its last review it is regular, and what becomes of it moves along
the edges of the life cycle.
-/

namespace ExamHall

open Store

/-- The variant that an attempt sits is the one at its position among the
variants of the assignment's test.  The position follows the number of the
attempt in turn, or the digest of the student, the assignment and the number. -/
structure Attempt.SitsVariant
    (variants : List (Variant (Stored (List VariantQuestion))))
    (assignment : Assignment) (attempt : Attempt) : Prop where
  inside : 0 ≤ attempt.variantIndex ∧
    attempt.variantIndex < variantCount variants assignment.testId
  known : attempt.variantId ∈ variants.map (·.id)
  placed : ∀ row ∈ variants, row.id = attempt.variantId ↔
    row.testId = assignment.testId ∧ row.position = attempt.variantIndex
  dealt : ∃ ordinal : Nat, attempt.number = ordinal ∧
    attempt.variantIndex = ((if assignment.shufflePerStudent then
      numberOfBytes ((Sha256.hash (Text.utf8 (attempt.studentId ++ "|" ++
          assignment.id ++ "|" ++ Text.ofNat ordinal))).take 8)
      else ordinal - 1) % variantCount variants assignment.testId : Nat)

theorem Attempt.IsDealt.sitsVariant {tests : List GeneratedTest}
    {variants : List (Variant (Stored (List VariantQuestion)))}
    {assignment : Assignment} {attempt : Attempt}
    (dealt : attempt.IsDealt variants assignment)
    (lawful : LawfulTests tests variants) :
    attempt.SitsVariant variants assignment := by
  have inside := dealt.variantIndex_lt
  obtain ⟨dealtRow, listed, sameId, test, place⟩ := dealt.variant
  obtain ⟨ordinal, number, index⟩ := dealt.position
  refine ⟨inside, List.mem_map.mpr ⟨dealtRow, listed, sameId⟩,
    fun row present => ⟨?_, ?_⟩, ordinal, number, ?_⟩
  · intro same
    obtain rfl :=
      eq_of_key lawful.variantIds present listed (same.trans sameId.symm)
    exact ⟨test, place⟩
  · rintro ⟨sameTest, samePlace⟩
    by_contra different
    have symmetric :
        Std.Symm fun left right : Variant (Stored (List VariantQuestion)) =>
          clashes left right = false :=
      ⟨fun left right apart => by
        rw [clashes_comm]
        exact apart⟩
    have apart := lawful.places.forall present listed fun same =>
      different (same ▸ sameId)
    simp [clashes, sameTest, samePlace, test, place] at apart
  · rw [index, ExamHall.variantIndex, if_neg (by omega)]
    split <;> rfl

namespace Session

variable {failing : Bool} {opening session : Session}

theorem Serves.numbered (run : Serves failing opening session)
    (sound : opening.IsSound) (numbered : opening.store.IsNumbered) :
    session.store.IsNumbered :=
  Serves.keeps run sound
    (fun change _ => change.numbered) (fun holds => holds) numbered

theorem Serves.capped (run : Serves failing opening session)
    (sound : opening.IsSound) (capped : opening.store.IsCapped) :
    session.store.IsCapped :=
  Serves.keeps run sound Change.capped (fun holds => holds) capped

theorem Serves.dealt (run : Serves failing opening session)
    (sound : opening.IsSound) (dealt : opening.store.IsDealt) :
    session.store.IsDealt :=
  Serves.keeps run sound Change.dealt (fun holds => holds) dealt

theorem isNumbered_of_no_attempts {store : Store} (none : store.attempts = []) :
    store.IsNumbered := by
  intro assignmentId studentId
  rw [none]
  rfl

theorem isCapped_of_no_attempts {store : Store} (lawful : store.Lawful)
    (none : store.attempts = []) : store.IsCapped := by
  intro assignment listed studentId
  rw [none]
  exact Int.le_of_lt (lawful.assignments.maxAttempts assignment listed)

theorem isDealt_of_no_attempts {store : Store} (none : store.attempts = []) :
    store.IsDealt :=
  forall_mem_of_eq_nil none

/-- From a database without attempts on: one attempt in progress for each
student and assignment at most, numbers from one on and no more of them than
allowed, a true standing for each student on the roster, and the variant that is
due for each attempt. -/
theorem attempts_are_numbered_and_dealt (lawful : opening.store.Lawful)
    (unused : opening.store.attempts = []) (run : Serves true opening session) :
    (∀ assignmentId studentId, ∀ first ∈ session.store.attempts,
      ∀ second ∈ session.store.attempts,
        IsRunning assignmentId studentId first →
        IsRunning assignmentId studentId second → second = first) ∧
    (∀ assignment ∈ session.store.assignments, ∀ studentId,
        let own := session.store.attempts.filter (isOf assignment.id studentId)
        own.map (·.number) = (List.range' 1 own.length).map Int.ofNat ∧
          own.length ≤ assignment.maxAttempts) ∧
      (session.store.outages = [] →
        ∀ assignment ∈ session.store.assignments, ∀ caller : Caller,
            ⟨assignment.id, caller.id⟩ ∈ session.store.roster → ∃ shown,
              (Exam.status caller assignment.id session.context
                ⟨session.store, []⟩).1 = .ok shown ∧
              IsStanding session.store assignment caller.id shown) ∧
      ∀ attempt ∈ session.store.attempts,
        ∃ assignment ∈ session.store.assignments,
          assignment.id = attempt.assignmentId ∧
          attempt.SitsVariant session.store.variants assignment := by
  have sound := isSound_of_no_attempts lawful unused
  have lawful' := (Serves.sound run sound).1.lawful
  have numbered := Serves.numbered run sound (isNumbered_of_no_attempts unused)
  have capped := Serves.capped run sound (isCapped_of_no_attempts lawful unused)
  have dealt := Serves.dealt run sound (isDealt_of_no_attempts unused)
  refine ⟨?_, ?_, ?_, ?_⟩
  · exact fun _ _ first listed second inside running running' =>
      running.unique lawful' listed inside running'
  · intro assignment listed studentId own
    rw [← List.countP_eq_length_filter]
    exact ⟨numbered assignment.id studentId, capped assignment listed studentId⟩
  · intro reach assignment listed caller enrolled
    have ends : Action.Ends session.context _ _ _ :=
      Exam.status_ends lawful' reach numbered capped listed enrolled
    exact (ends ⟨session.store, []⟩ rfl).2
  · intro attempt listed
    obtain ⟨assignment, known, same⟩ :=
      List.mem_map.mp (lawful'.sittings.assignments attempt listed)
    exact ⟨assignment, known, same,
      (dealt attempt listed assignment known same).sitsVariant lawful'.tests⟩

/-- The first attempt of the only student is numbered and dealt. -/
theorem withOneStudent_is_numbered_and_dealt :
    let opening := withOneStudent Column.origin
    let session := (opening.run startsTest).2
    opening.store.Lawful ∧ opening.store.attempts = [] ∧
      Serves true opening session ∧ ∀ attempt ∈ session.store.attempts,
        ∃ assignment ∈ session.store.assignments,
          assignment.id = attempt.assignmentId ∧
          attempt.SitsVariant session.store.variants assignment := by
  intro opening session
  have lawful : opening.store.Lawful := withOneStudent_lawful _
  have run : Serves true opening session := .single ⟨startsTest, trivial, rfl⟩
  exact ⟨lawful, rfl, run,
    (attempts_are_numbered_and_dealt lawful rfl run).2.2.2⟩

/-! ### The life cycle -/

variable {middle last : Session}

/-- From a database without attempts on, an attempt is regular at each time, and
has a single row, which only evolves. -/
theorem attempts_follow_lifeCycle (lawful : opening.store.Lawful)
    (unused : opening.store.attempts = []) (early : Serves true opening middle)
    (late : Serves true middle last) :
    (∀ attempt ∈ middle.store.attempts,
        attempt.IsRegular middle.store.assignments middle.now) ∧
      ∀ attempt ∈ middle.store.attempts,
        (∃ later ∈ last.store.attempts, later.id = attempt.id) ∧
          ∀ later ∈ last.store.attempts, later.id = attempt.id →
            Attempt.Evolves attempt later := by
  obtain ⟨sound, -⟩ := Serves.sound early (isSound_of_no_attempts lawful unused)
  obtain ⟨reached, -, carries⟩ := Serves.sound late sound
  refine ⟨sound.orderly.regular, fun attempt listed => ?_⟩
  obtain ⟨later, present, evolves⟩ := carries attempt listed
  refine ⟨⟨later, present, evolves.kept.id⟩, fun other inside same => ?_⟩
  have ids := reached.lawful.sittings.ids
  obtain rfl := eq_of_key ids inside present (same.trans evolves.kept.id.symm)
  exact evolves

/-! ### The turn of a millennium -/

/-- A service on the last day of the year 1999, a nanosecond before midnight. -/
def newYearsEve : Session :=
  withOneStudent ⟨Column.origin.nanos - 1⟩

theorem newYearsEve_serves :
    Serves true newYearsEve (newYearsEve.run startsTest).2 :=
  .single ⟨startsTest, trivial, rfl⟩

/-- A deadline need not be the whole duration after the start: the column cuts
the one of them down and the other one up. -/
theorem deadline_falls_short_on_newYearsEve :
    ¬∀ opening session : Session, opening.store.Lawful →
      opening.store.attempts = [] → Serves true opening session →
      ∀ attempt ∈ session.store.attempts,
        ∃ assignment ∈ session.store.assignments,
          assignment.id = attempt.assignmentId ∧
          attempt.deadlineAt.nanos =
            attempt.startedAt.nanos + assignment.durationMinutes *
            Instant.minute := by
  intro claimed
  have whole :=
    claimed newYearsEve _ (withOneStudent_lawful _) rfl newYearsEve_serves
  have short : ∃ attempt ∈ (newYearsEve.run startsTest).2.store.attempts,
      ∀ assignment ∈ (newYearsEve.run startsTest).2.store.assignments,
        assignment.id = attempt.assignmentId →
        attempt.deadlineAt.nanos ≠
          attempt.startedAt.nanos + assignment.durationMinutes *
          Instant.minute := by
    decide +kernel
  obtain ⟨attempt, listed, differs⟩ := short
  obtain ⟨assignment, inside, same, exact⟩ := whole attempt listed
  exact differs assignment inside same exact

/-- A student's attempt on New Year's Eve is regular all the same. -/
theorem newYearsEve_follows_lifeCycle :
    newYearsEve.store.Lawful ∧ newYearsEve.store.attempts = [] ∧
      Serves true newYearsEve (newYearsEve.run startsTest).2 ∧
      ∀ attempt ∈ (newYearsEve.run startsTest).2.store.attempts,
        attempt.IsRegular (newYearsEve.run startsTest).2.store.assignments
          (newYearsEve.run startsTest).2.now :=
  ⟨(withOneStudent_lawful _), rfl, newYearsEve_serves,
    (attempts_follow_lifeCycle (withOneStudent_lawful _)
      rfl newYearsEve_serves .refl).1⟩

end Session

end ExamHall
