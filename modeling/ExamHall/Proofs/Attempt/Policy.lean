import ExamHall.Proofs.Exam.Violating

/-!
# Attempts follow the policy of their assignment

The violations that have been counted for an attempt determine its marks, and
whether it can still be in progress.  The policy of an assignment, which is its
threshold and its action, never changes.
-/

namespace ExamHall

open Store

/-- An attempt carries the marks that a number of counted violations leave on it
under the policy of an assignment. -/
structure Attempt.FollowsPolicy (assignment : Assignment) (violations : Nat)
    (attempt : Attempt) : Prop where
  violationCount : attempt.violationCount = violations
  flagged : attempt.flagged = true ↔ 0 < assignment.tabSwitchThreshold ∧
    (assignment.tabSwitchAction = .flag ∨
      assignment.tabSwitchAction = .autoSubmit) ∧
    assignment.tabSwitchThreshold ≤ violations
  flagReason : attempt.flagReason = if attempt.flagged
    then some (ExamHall.flagReason violations assignment.tabSwitchThreshold)
    else none
  within : 0 < assignment.tabSwitchThreshold →
    assignment.tabSwitchAction = .autoSubmit →
    violations ≤ assignment.tabSwitchThreshold ∧
    (violations = assignment.tabSwitchThreshold → attempt.status ≠ .inProgress)

/-- Two assignments have the same policy. -/
structure Assignment.SamePolicy (assignment other : Assignment) : Prop where
  id : other.id = assignment.id
  threshold : other.tabSwitchThreshold = assignment.tabSwitchThreshold
  action : other.tabSwitchAction = assignment.tabSwitchAction

variable {now : Instant} {before middle after : Store}
  {assignment other : Assignment} {attempt later : Attempt} {violations : Nat}

/-! ## What the next violation leads to -/

theorem Attempt.nextEscalation_eq_autoSubmit :
    attempt.nextEscalation assignment = .autoSubmit ↔
      0 < assignment.tabSwitchThreshold ∧
    assignment.tabSwitchAction = .autoSubmit ∧
    assignment.tabSwitchThreshold ≤ attempt.violationCount + 1 := by
  unfold Attempt.nextEscalation escalation
  split
  · next without =>
      refine ⟨nofun, fun ⟨positive, _, reached⟩ => ?_⟩
      omega
  · next reached =>
      rw [not_or, Int.not_le, Int.not_lt] at reached
      cases assignment.tabSwitchAction <;> simp [Escalation.ofAction, reached]

namespace Attempt.FollowsPolicy

/-- An attempt whose violations lead to nothing more than being counted. -/
theorem of_unflagged (count : attempt.violationCount = violations)
    (unflagged : attempt.flagged = false)
    (unexplained : attempt.flagReason = none)
    (spared : ¬(0 < assignment.tabSwitchThreshold ∧
      (assignment.tabSwitchAction = .flag ∨ assignment.tabSwitchAction =
        .autoSubmit) ∧ assignment.tabSwitchThreshold ≤ violations)) :
    attempt.FollowsPolicy assignment violations where
  violationCount := count
  flagged := by simp only [unflagged, Bool.false_eq_true, spared]
  flagReason := by rw [unflagged, unexplained]; rfl
  within positive action := by
    have below : ¬assignment.tabSwitchThreshold ≤ violations := fun reached =>
      spared ⟨positive, .inr action, reached⟩
    exact ⟨by omega, fun same => (below same.ge).elim⟩

/-- An attempt whose violations have led to a flag. -/
theorem of_flagged (count : attempt.violationCount = violations)
    (flagged : attempt.flagged = true)
    (explained : attempt.flagReason =
      some (ExamHall.flagReason violations assignment.tabSwitchThreshold))
    (positive : 0 < assignment.tabSwitchThreshold)
    (reached : assignment.tabSwitchThreshold ≤ violations)
    (action : assignment.tabSwitchAction = .flag ∨
      assignment.tabSwitchAction = .autoSubmit ∧
      violations = assignment.tabSwitchThreshold ∧
      attempt.status ≠ .inProgress) :
    attempt.FollowsPolicy assignment violations where
  violationCount := count
  flagged :=
    ⟨fun _ => ⟨positive, action.imp_right And.left, reached⟩, fun _ => flagged⟩
  flagReason := by rw [flagged, explained]; rfl
  within _ submits := by
    rcases action with flags | ⟨-, same, left⟩
    · cases submits.symm.trans flags
    · exact ⟨same.le, fun _ => left⟩

theorem unmarked (unmarked : attempt.IsUnmarked) :
    attempt.FollowsPolicy assignment 0 :=
  of_unflagged unmarked.violationCount unmarked.flagged unmarked.flagReason
    fun ⟨positive, _, reached⟩ => Int.not_le.mpr positive reached

theorem keepsMarks (follows : attempt.FollowsPolicy assignment violations)
    (keeps : Attempt.KeepsMarks attempt later) :
    later.FollowsPolicy assignment violations where
  violationCount := keeps.violationCount.trans follows.violationCount
  flagged := keeps.flagged ▸ follows.flagged
  flagReason := by rw [keeps.flagReason, keeps.flagged, follows.flagReason]
  within positive action :=
    (follows.within positive action).imp_right fun closed reached =>
      keeps.left (closed reached)

theorem congr (follows : attempt.FollowsPolicy assignment violations)
    (same : assignment.SamePolicy other) :
    attempt.FollowsPolicy other violations := by
  obtain ⟨count, flagged, reason, within⟩ := follows
  rw [← same.threshold, ← same.action] at flagged within
  rw [← same.threshold] at reason
  exact ⟨count, flagged, reason, within⟩

/-- A counted violation leads to what the policy says. -/
theorem reported (follows : attempt.FollowsPolicy assignment violations)
    (running : attempt.status = .inProgress) :
    (attempt.reported assignment now).FollowsPolicy assignment
      (violations + 1) := by
  have counted : (violated now attempt).violationCount =
      ((violations + 1 : Nat) : Int) :=
    (congrArg (· + 1) follows.violationCount).trans
      (Int.natCast_succ violations).symm
  -- As long as the threshold or the action spares it, the attempt has no flag,
  -- before the violation or after it.
  have spares : ¬(0 < assignment.tabSwitchThreshold ∧
        (assignment.tabSwitchAction = .flag ∨
          assignment.tabSwitchAction = .autoSubmit) ∧
        assignment.tabSwitchThreshold ≤ ((violations + 1 : Nat) : Int)) →
      (violated now attempt).FollowsPolicy assignment (violations + 1) := by
    intro spared
    have unflagged : attempt.flagged = false := by
      rw [Bool.eq_false_iff, Ne, follows.flagged]
      exact fun ⟨positive, action, reached⟩ =>
        spared ⟨positive, action, by omega⟩
    refine of_unflagged counted unflagged ?_ spared
    exact follows.flagReason.trans (by rw [unflagged]; rfl)
  unfold Attempt.reported Attempt.escalated
  rw [counted]
  by_cases below : assignment.tabSwitchThreshold ≤ 0 ∨
      ((violations + 1 : Nat) : Int) < assignment.tabSwitchThreshold
  · rw [escalation, if_pos below]
    exact spares fun ⟨positive, _, reached⟩ => by omega
  · rw [escalation, if_neg below]
    rw [not_or, Int.not_le, Int.not_lt] at below
    cases action : assignment.tabSwitchAction with
    | warn =>
        refine spares fun ⟨_, marks, _⟩ => ?_
        rw [action] at marks
        rcases marks with marks | marks <;> cases marks
    | flag => exact of_flagged counted rfl rfl below.1 below.2 (.inl action)
    | autoSubmit =>
        obtain ⟨most, left⟩ := follows.within below.1 action
        have missing : (violations : Int) ≠ assignment.tabSwitchThreshold :=
          fun same => left same running
        exact of_flagged counted rfl rfl below.1 below.2
          (.inr ⟨action, by omega, nofun⟩)

end Attempt.FollowsPolicy

/-! ## Policies stay -/

/-- Assignments keep their policies. -/
def Store.KeepsPolicies (before after : Store) : Prop :=
  ∀ assignment ∈ before.assignments, ∃ other ∈ after.assignments,
    assignment.SamePolicy other

theorem Change.keepsPolicies (change : Change now before after) :
    before.KeepsPolicies after := by
  have stays : ∀ {after : Store}, after.assignments = before.assignments →
      before.KeepsPolicies after :=
    fun same assignment listed => ⟨assignment, same ▸ listed, rfl, rfl, rfl⟩
  cases change with
  | assigned =>
      exact fun assignment listed =>
      ⟨assignment, List.mem_append_left _ listed, rfl, rfl, rfl⟩
  | @closed id =>
      intro assignment listed
      refine ⟨_, mem_updateWhere.mpr ⟨assignment, listed, rfl⟩, ?_⟩
      split <;> exact ⟨rfl, rfl, rfl⟩
  | _ => exact stays rfl

theorem Store.KeepsPolicies.trans (early : before.KeepsPolicies middle)
    (late : middle.KeepsPolicies after) : before.KeepsPolicies after := by
  intro assignment listed
  obtain ⟨other, inside, same⟩ := early assignment listed
  obtain ⟨last, present, same'⟩ := late other inside
  exact ⟨last, present, same'.id.trans same.id,
    same'.threshold.trans same.threshold, same'.action.trans same.action⟩

theorem Reaches.keepsPolicies (changes : Reaches now before after) :
    before.KeepsPolicies after := by
  induction changes with
  | refl => exact fun assignment listed => ⟨assignment, listed, rfl, rfl, rfl⟩
  | tail _ change ih => exact ih.trans change.keepsPolicies

/-! ## All attempts -/

/-- The attempts of a store carry the marks that a history of counted violations
leaves on them. -/
structure Store.FollowsPolicies (store : Store) (history : List String) :
    Prop where
  known : ∀ attemptId ∈ history, attemptId ∈ store.attempts.map (·.id)
  follows : ∀ attempt ∈ store.attempts, ∃ assignment ∈ store.assignments,
    assignment.id = attempt.assignmentId ∧
    attempt.FollowsPolicy assignment (history.count attempt.id)

namespace Store.FollowsPolicies

variable {store : Store} {history : List String}

theorem of_no_attempts (none : store.attempts = []) :
    store.FollowsPolicies [] :=
  ⟨List.forall_mem_nil _, forall_mem_of_eq_nil none⟩

/-- What leaves no marks keeps them in line with the policies. -/
theorem keepsMarks (follows : before.FollowsPolicies history)
    (keeps : before.KeepsMarks after) (policies : before.KeepsPolicies after)
    (lawful : after.Lawful) : after.FollowsPolicies history := by
  refine ⟨fun attemptId counted => ?_, fun attempt listed => ?_⟩
  · obtain ⟨attempt, inside, rfl⟩ :=
      List.mem_map.mp (follows.known attemptId counted)
    obtain ⟨later, present, kept⟩ := keeps.exists_later inside
    exact List.mem_map.mpr ⟨later, present, kept.kept.id⟩
  · rcases keeps.old_or_new lawful.sittings.ids listed with ⟨old, inside, kept⟩
      | ⟨new, unmarked⟩
    · obtain ⟨assignment, given, same, marks⟩ := follows.follows old inside
      obtain ⟨other, present, policy⟩ := policies assignment given
      refine ⟨other, present,
        policy.id.trans (same.trans kept.kept.assignmentId.symm), ?_⟩
      rw [kept.kept.id]
      exact (marks.keepsMarks kept).congr policy
    · obtain ⟨assignment, given, same⟩ :=
        List.mem_map.mp (lawful.sittings.assignments attempt listed)
      have uncounted : history.count attempt.id = 0 :=
        List.count_eq_zero.mpr fun counted => new (follows.known _ counted)
      refine ⟨assignment, given, same, ?_⟩
      rw [uncounted]
      exact .unmarked unmarked

/-- A counted violation keeps the marks in line with the policies. -/
theorem reporting (follows : store.FollowsPolicies history)
    (lawful : store.Lawful)
    (listed : attempt ∈ store.attempts) (running : attempt.status = .inProgress)
    (given : assignment ∈ store.assignments)
    (same : assignment.id = attempt.assignmentId) :
    (store.reporting attempt.id assignment now).FollowsPolicies
      (history ++ [attempt.id]) := by
  have kept := Attempt.Kept.reported assignment now
  refine ⟨fun attemptId counted => ?_, fun row inside => ?_⟩
  · have ids : (store.reporting attempt.id assignment now).attempts.map (·.id) =
        store.attempts.map (·.id) :=
      map_updateWhere fun row => (kept row).id
    rw [ids]
    rcases List.mem_append.mp counted with early | late
    · exact follows.known attemptId early
    · exact List.mem_singleton.mp late ▸ List.mem_map_of_mem listed
  · obtain ⟨old, present, rfl⟩ := mem_updateWhere.mp inside
    by_cases selected : hasStatus attempt.id .inProgress old = true
    · obtain rfl := eq_of_key lawful.sittings.ids present listed
        (hasStatus_eq_true.mp selected).1
      obtain ⟨other, given', same', marks⟩ := follows.follows old listed
      obtain rfl :=
        eq_of_key lawful.assignments.ids given given' (same.trans same'.symm)
      rw [if_pos selected, (kept old).id, (kept old).assignmentId,
        List.count_append, List.count_singleton_self]
      exact ⟨assignment, given, same, marks.reported running⟩
    · have other : attempt.id ≠ old.id := by
        intro sameId
        obtain rfl := eq_of_key lawful.sittings.ids present listed sameId.symm
        exact selected (hasStatus_eq_true.mpr ⟨rfl, running⟩)
      rw [if_neg selected, List.count_append, List.count_singleton,
        if_neg (by simpa using other)]
      exact follows.follows old present

end Store.FollowsPolicies

end ExamHall
