import ExamHall.Proofs.Store.Enforced

/-!
# Numbers and variants of attempts

Attempts are numbered in the order in which they are started, and their numbers
ask for their variants.
-/

/-!
## The numbers of attempts

The attempts of a student on an assignment are numbered from one on in the order
in which they are started.  So the number after their count is always free.
Their count stays within the limit of the assignment.
-/

namespace ExamHall

open Store

/-- The attempts of each student on each assignment are numbered from one on. -/
def Store.IsNumbered (store : Store) : Prop :=
  ∀ assignmentId studentId,
    (store.attempts.filter (isOf assignmentId studentId)).map (·.number) =
      (List.range' 1 (store.attempts.countP (isOf assignmentId studentId))).map
        Int.ofNat

/-- No student has more attempts on an assignment than it allows. -/
def Store.IsCapped (store : Store) : Prop :=
  ∀ assignment ∈ store.assignments, ∀ studentId,
    (store.attempts.countP (isOf assignment.id studentId) : Int) ≤
      assignment.maxAttempts

variable {now : Instant} {before after : Store}

/-- Attempts stay with their student and assignment. -/
theorem countP_isOf_updateWhere {holds : Attempt → Bool}
    {change : Attempt → Attempt}
    (kept : ∀ attempt, Attempt.Kept attempt (change attempt))
    (attempts : List Attempt) (assignmentId studentId : String) :
    (updateWhere holds change attempts).countP (isOf assignmentId studentId) =
      attempts.countP (isOf assignmentId studentId) := by
  unfold updateWhere
  rw [List.countP_map]
  apply List.countP_congr
  intro attempt _
  rw [Function.comp_apply, isOf_eq_true, isOf_eq_true,
    (kept attempt).ite.assignmentId, (kept attempt).ite.studentId]

theorem numbers_updateWhere {holds : Attempt → Bool}
    {change : Attempt → Attempt}
    (kept : ∀ attempt, Attempt.Kept attempt (change attempt))
    (attempts : List Attempt) (assignmentId studentId : String) :
    ((updateWhere holds change attempts).filter
      (isOf assignmentId studentId)).map (·.number) =
      (attempts.filter (isOf assignmentId studentId)).map (·.number) := by
  have same : isOf assignmentId studentId ∘
    (fun attempt => if holds attempt then change attempt
      else attempt) = isOf assignmentId studentId := by
    funext attempt
    rw [Bool.eq_iff_iff, Function.comp_apply, isOf_eq_true, isOf_eq_true,
      (kept attempt).ite.assignmentId, (kept attempt).ite.studentId]
  unfold updateWhere
  rw [List.filter_map, same, List.map_map]
  exact List.map_congr_left fun attempt _ => (kept attempt).ite.number

theorem Store.IsNumbered.updateWhere {holds : Attempt → Bool}
    {change : Attempt → Attempt} {answers : List (SavedAnswer (Stored Answer))}
    {issued : Issued} (numbered : before.IsNumbered)
    (kept : ∀ attempt, Attempt.Kept attempt (change attempt)) :
    Store.IsNumbered { before with
      attempts := ExamHall.updateWhere holds change before.attempts, answers,
      issued } := by
  intro assignmentId studentId
  rw [numbers_updateWhere kept, countP_isOf_updateWhere kept]
  exact numbered assignmentId studentId

/-- The attempt that is opened is counted for its student and its assignment
alone. -/
theorem Opens.isOf {assignment : Assignment}
    {variant : Variant (Stored (List VariantQuestion))}
    {attempt : Attempt} (opens : Opens now before assignment variant attempt)
    (assignmentId studentId : String) :
    Store.isOf assignmentId studentId attempt = true ↔
      assignment.id = assignmentId ∧ attempt.studentId = studentId := by
  obtain ⟨_, _, _, _, -, -, -, -, begun⟩ := opens.begun
  rw [isOf_eq_true, begun]
  rfl

theorem Opens.number {assignment : Assignment}
    {variant : Variant (Stored (List VariantQuestion))} {attempt : Attempt}
    (opens : Opens now before assignment variant attempt) :
    attempt.number =
      (before.attempts.countP (Store.isOf assignment.id attempt.studentId) +
        1 : Nat) := by
  obtain ⟨_, _, _, _, -, -, -, -, begun⟩ := opens.begun
  rw [begun]
  rfl

theorem Opens.numbered {assignment : Assignment}
    {variant : Variant (Stored (List VariantQuestion))} {attempt : Attempt}
    {issued : Issued} (opens : Opens now before assignment variant attempt)
    (numbered : before.IsNumbered) :
    Store.IsNumbered
      { before with attempts := before.attempts ++ [attempt], issued } := by
  intro assignmentId studentId
  have old := numbered assignmentId studentId
  rw [List.filter_append, List.map_append, List.countP_append, old]
  cases own : Store.isOf assignmentId studentId attempt with
  | true =>
      obtain ⟨rfl, rfl⟩ := (opens.isOf _ _).mp own
      rw [List.filter_cons_of_pos own, List.countP_singleton, if_pos own,
        List.range'_1_concat, List.map_append, List.map_singleton,
        List.map_cons, opens.number, Nat.add_comm 1]
      rfl
  | false =>
      have other : ¬Store.isOf assignmentId studentId attempt = true := by
        simp [own]
      rw [List.filter_cons_of_neg other, List.countP_singleton, if_neg other]
      exact List.append_nil _

theorem Change.numbered (change : Change now before after)
    (numbered : before.IsNumbered) :
    after.IsNumbered := by
  cases change with
  | opened opens => exact opens.numbered numbered
  | submitted => exact numbered.updateWhere (.submitted _ now)
  | violated => exact numbered.updateWhere (.violated now)
  | flagged => exact numbered.updateWhere (.marked _ now)
  | graded => exact numbered.updateWhere (.scored _ _ _ _)
  | reviewed => exact numbered.updateWhere (.scored _ _ _ _)
  | _ => exact numbered

/-- No number goes beyond the count. -/
theorem Store.IsNumbered.number_le {store : Store} (numbered : store.IsNumbered)
    {attempt : Attempt} {assignmentId studentId : String}
    (listed : attempt ∈ store.attempts)
    (own : isOf assignmentId studentId attempt = true) :
    attempt.number ≤ store.attempts.countP (isOf assignmentId studentId) := by
  have inside : attempt.number ∈
      (store.attempts.filter (isOf assignmentId studentId)).map (·.number) :=
    List.mem_map_of_mem (List.mem_filter.mpr ⟨listed, own⟩)
  rw [numbered assignmentId studentId] at inside
  obtain ⟨ordinal, small, same⟩ := List.mem_map.mp inside
  rw [← same]
  have := (List.mem_range'_1.mp small).2
  exact Int.ofNat_le.mpr (by omega)

/-- The number after the count is free. -/
theorem Store.IsNumbered.free {store : Store} (numbered : store.IsNumbered)
    {attempt : Attempt} {assignmentId studentId : String}
    (listed : attempt ∈ store.attempts)
    (own : isOf assignmentId studentId attempt = true) :
    attempt.number ≠
      store.attempts.countP (isOf assignmentId studentId) + 1 := by
  have bound := numbered.number_le listed own
  omega

/-! ### The limit of an assignment -/

/-- The limit allows what is counted, whatever else becomes of the attempts and
the assignments. -/
theorem Store.IsCapped.updateWhere {holds : Attempt → Bool}
    {change : Attempt → Attempt} {answers : List (SavedAnswer (Stored Answer))}
    {issued : Issued} (capped : before.IsCapped)
    (kept : ∀ attempt, Attempt.Kept attempt (change attempt)) :
    Store.IsCapped { before with
      attempts := ExamHall.updateWhere holds change before.attempts, answers,
      issued } := by
  intro assignment listed studentId
  rw [countP_isOf_updateWhere kept]
  exact capped assignment listed studentId

/-- Nobody has attempts on a new assignment. -/
theorem Assigns.capped {assignment : Assignment} {entries : List RosterEntry}
    {issued : Issued} (lawful : before.Lawful)
    (assigns : Assigns before assignment entries) (capped : before.IsCapped) :
    Store.IsCapped { before with
      assignments := before.assignments ++ [assignment],
      roster := before.roster ++ entries
      issued } := by
  intro other listed studentId
  rcases List.mem_append.mp listed with old | new
  · exact capped other old studentId
  · obtain rfl := List.mem_singleton.mp new
    have none : before.attempts.countP (isOf other.id studentId) = 0 := by
      rw [List.countP_eq_zero]
      intro attempt inside own
      have known := lawful.sittings.assignments attempt inside
      rw [(isOf_eq_true.mp own).1] at known
      exact assigns.fresh known
    rw [none]
    exact Int.le_of_lt assigns.maxAttempts

theorem Opens.capped {assignment : Assignment}
    {variant : Variant (Stored (List VariantQuestion))}
    {attempt : Attempt} {issued : Issued} (lawful : before.Lawful)
    (opens : Opens now before assignment variant attempt)
    (capped : before.IsCapped) :
    Store.IsCapped
      { before with attempts := before.attempts ++ [attempt], issued } := by
  intro other listed studentId
  rw [List.countP_append, List.countP_singleton]
  by_cases own : Store.isOf other.id studentId attempt = true
  · obtain ⟨same, rfl⟩ := (opens.isOf _ _).mp own
    obtain rfl := eq_of_key lawful.assignments.ids listed opens.listed same.symm
    rw [if_pos own]
    exact opens.left
  · rw [if_neg own]
    exact capped other listed studentId

theorem Change.capped (change : Change now before after)
    (lawful : before.Lawful) (capped : before.IsCapped) : after.IsCapped := by
  cases change with
  | assigned assigns => exact assigns.capped lawful capped
  | closed =>
      exact forall_mem_updateWhere capped fun assignment listed _ =>
        capped assignment listed
  | opened opens => exact opens.capped lawful capped
  | submitted => exact capped.updateWhere (.submitted _ now)
  | violated => exact capped.updateWhere (.violated now)
  | flagged => exact capped.updateWhere (.marked _ now)
  | graded => exact capped.updateWhere (.scored _ _ _ _)
  | reviewed => exact capped.updateWhere (.scored _ _ _ _)
  | _ => exact capped

end ExamHall

/-!
## The variants that attempts are dealt

An attempt sits the variant that its number asks for among those of the
assignment's test.  The variants of a test are all stored with it and an
assignment keeps its test, so this stays true whatever is generated, assigned or
closed later.
-/

namespace ExamHall

open Store

section

variable (variants : List (Variant (Stored (List VariantQuestion))))
  (assignment : Assignment) (attempt : Attempt)

/-- The number of variants of a test. -/
def variantCount (testId : String) : Nat :=
  variants.countP (·.testId == testId)

/-- What an attempt on an assignment is dealt: the variant of its test at the
position for the attempt's number. -/
structure Attempt.IsDealt : Prop where
  variant : ∃ row ∈ variants, row.id = attempt.variantId ∧
    row.testId = assignment.testId ∧ row.position = attempt.variantIndex
  position : ∃ ordinal : Nat, attempt.number = ordinal ∧
    attempt.variantIndex =
      ExamHall.variantIndex attempt.studentId assignment.id ordinal
        (variantCount variants assignment.testId) assignment.shufflePerStudent

end

/-- Each attempt has been dealt what its number asks for. -/
def Store.IsDealt (store : Store) : Prop :=
  ∀ attempt ∈ store.attempts, ∀ assignment ∈ store.assignments,
    assignment.id = attempt.assignmentId →
    attempt.IsDealt store.variants assignment

variable {now : Instant} {before after : Store}

namespace Attempt.IsDealt

variable {variants variants' : List (Variant (Stored (List VariantQuestion)))}
  {assignment assignment' : Assignment} {attempt attempt' : Attempt}

/-- There is a variant wherever an attempt points to. -/
theorem variantIndex_lt (dealt : attempt.IsDealt variants assignment) :
    0 ≤ attempt.variantIndex ∧
      attempt.variantIndex < variantCount variants assignment.testId := by
  obtain ⟨row, listed, -, same, -⟩ := dealt.variant
  obtain ⟨ordinal, -, place⟩ := dealt.position
  have positive : 0 < variantCount variants assignment.testId :=
    List.countP_pos_iff.mpr ⟨row, listed, beq_iff_eq.mpr same⟩
  rw [place]
  exact ⟨Int.natCast_nonneg _,
    Int.ofNat_lt.mpr (ExamHall.variantIndex_lt positive _ _ _ _)⟩

theorem withAttempt (dealt : attempt.IsDealt variants assignment)
    (kept : Attempt.Kept attempt attempt') :
    attempt'.IsDealt variants assignment := by
  obtain ⟨row, listed, same, test, place⟩ := dealt.variant
  obtain ⟨ordinal, number, index⟩ := dealt.position
  refine ⟨⟨row, listed, same.trans kept.variantId.symm, test,
    place.trans kept.variantIndex.symm⟩, ordinal, kept.number.trans number, ?_⟩
  rw [kept.variantIndex, kept.studentId, index]

theorem withVariants (dealt : attempt.IsDealt variants assignment)
    (more : ∀ row ∈ variants, row ∈ variants')
    (count : variantCount variants' assignment.testId =
      variantCount variants assignment.testId) :
    attempt.IsDealt variants' assignment := by
  obtain ⟨row, listed, same⟩ := dealt.variant
  obtain ⟨ordinal, number, index⟩ := dealt.position
  exact ⟨⟨row, more row listed, same⟩, ordinal, number, count ▸ index⟩

end Attempt.IsDealt

/-- A test that is generated leaves the variants of the others as they are. -/
theorem Generates.variantCount {test : GeneratedTest}
    {variants : List (Variant (Stored (List VariantQuestion)))}
    (generates : Generates before test variants) {testId : String}
    (known : testId ∈ before.tests.map (·.id)) :
    ExamHall.variantCount (before.variants ++ variants) testId =
      ExamHall.variantCount before.variants testId := by
  have none : variants.countP (·.testId == testId) = 0 := by
    rw [List.countP_eq_zero]
    intro variant inside same
    rw [beq_iff_eq, generates.variantTests variant inside] at same
    exact generates.fresh (same ▸ known)
  unfold ExamHall.variantCount
  rw [List.countP_append, none, Nat.add_zero]

/-- What has just been opened has been dealt. -/
theorem Opens.isDealt {assignment : Assignment}
    {variant : Variant (Stored (List VariantQuestion))} {attempt : Attempt}
    (opens : Opens now before assignment variant attempt) :
    attempt.IsDealt before.variants assignment := by
  obtain ⟨_, _, _, _, -, -, -, -, begun⟩ := opens.begun
  have variantId : attempt.variantId = variant.id := by
    rw [begun]
    rfl
  have index : attempt.variantIndex = variant.position := by
    rw [begun]
    rfl
  refine ⟨⟨variant, opens.dealt, variantId.symm, opens.test, index.symm⟩, _,
    opens.number, ?_⟩
  rw [index, opens.position]
  rfl

namespace Store.IsDealt

theorem generated {test : GeneratedTest}
    {variants : List (Variant (Stored (List VariantQuestion)))}
    {issued : Issued} (dealt : before.IsDealt) (lawful : before.Lawful)
    (generates : Generates before test variants) :
    Store.IsDealt { before with
      tests := before.tests ++ [test], variants := before.variants ++ variants,
      issued } := by
  intro attempt listed assignment inside same
  exact (dealt attempt listed assignment inside same).withVariants
    (fun _ => List.mem_append_left variants)
    (generates.variantCount (lawful.assignments.tests assignment inside))

/-- Nobody has attempts on a new assignment. -/
theorem assigned {assignment : Assignment} {entries : List RosterEntry}
    {issued : Issued} (dealt : before.IsDealt) (lawful : before.Lawful)
    (assigns : Assigns before assignment entries) :
    Store.IsDealt { before with
      assignments := before.assignments ++ [assignment],
      roster := before.roster ++ entries
      issued } := by
  intro attempt listed other inside same
  rcases List.mem_append.mp inside with old | new
  · exact dealt attempt listed other old same
  · obtain rfl := List.mem_singleton.mp new
    exact absurd (same ▸ lawful.sittings.assignments attempt listed)
      assigns.fresh

theorem closed {id : String} (dealt : before.IsDealt) :
    Store.IsDealt { before with
      assignments :=
        updateWhere (isOpen id) (Store.closed now) before.assignments } := by
  intro attempt listed
  refine forall_mem_updateWhere (dealt attempt listed)
    fun assignment inside _ same => ?_
  have kept := dealt attempt listed assignment inside same
  exact ⟨kept.variant, kept.position⟩

theorem opened {assignment : Assignment}
    {variant : Variant (Stored (List VariantQuestion))} {attempt : Attempt}
    {issued : Issued} (dealt : before.IsDealt) (lawful : before.Lawful)
    (opens : Opens now before assignment variant attempt) :
    Store.IsDealt
      { before with attempts := before.attempts ++ [attempt], issued } := by
  intro other listed known inside same
  rcases List.mem_append.mp listed with old | new
  · exact dealt other old known inside same
  · obtain rfl := List.mem_singleton.mp new
    obtain ⟨sameAssignment, -⟩ :=
      (opens.isOf _ _).mp (isOf_eq_true.mpr ⟨same.symm, rfl⟩)
    obtain rfl :=
      eq_of_key lawful.assignments.ids inside opens.listed sameAssignment.symm
    exact opens.isDealt

theorem updateWhere {holds : Attempt → Bool} {change : Attempt → Attempt}
    {answers : List (SavedAnswer (Stored Answer))} {issued : Issued}
    (dealt : before.IsDealt)
    (kept : ∀ attempt, Attempt.Kept attempt (change attempt)) :
    Store.IsDealt { before with
      attempts := ExamHall.updateWhere holds change before.attempts, answers,
      issued } := by
  intro attempt membership assignment inside same
  obtain ⟨old, listed, rfl⟩ := mem_updateWhere.mp membership
  have early :=
    dealt old listed assignment inside (same.trans (kept old).ite.assignmentId)
  exact early.withAttempt (kept old).ite

end Store.IsDealt

/-- Every change leaves each attempt with what it has been dealt. -/
theorem Change.dealt (change : Change now before after) (lawful : before.Lawful)
    (dealt : before.IsDealt) : after.IsDealt := by
  cases change with
  | generated generates => exact dealt.generated lawful generates
  | assigned assigns => exact dealt.assigned lawful assigns
  | closed => exact dealt.closed
  | opened opens => exact dealt.opened lawful opens
  | submitted => exact dealt.updateWhere (.submitted _ now)
  | violated => exact dealt.updateWhere (.violated now)
  | flagged => exact dealt.updateWhere (.marked _ now)
  | graded => exact dealt.updateWhere (.scored _ _ _ _)
  | reviewed => exact dealt.updateWhere (.scored _ _ _ _)
  | _ => exact dealt

end ExamHall
