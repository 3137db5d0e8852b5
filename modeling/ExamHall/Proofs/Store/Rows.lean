import ExamHall.Proofs.Lists
import ExamHall.Store.Answers
import ExamHall.Store.Attempts

/-!
# Rows of a table

Changing the rows that a condition selects keeps their number and their order.
In a table whose keys differ a key selects one row at most.
-/

namespace ExamHall

section Updates

variable {ρ κ : Type} {holds : ρ → Bool} {change : ρ → ρ} {rows : List ρ}

theorem mem_updateWhere {row : ρ} :
    row ∈ updateWhere holds change rows ↔
      ∃ old ∈ rows, (if holds old then change old else old) = row :=
  List.mem_map

theorem mem_updateWhere_of_not {row : ρ} (membership : row ∈ rows)
    (other : holds row = false) : row ∈ updateWhere holds change rows := by
  rw [mem_updateWhere]
  exact ⟨row, membership, by rw [other]; rfl⟩

theorem mem_updateWhere_of_holds {row : ρ} (membership : row ∈ rows)
    (selected : holds row = true) :
    change row ∈ updateWhere holds change rows := by
  rw [mem_updateWhere]
  exact ⟨row, membership, if_pos selected⟩

/-- What a change keeps of a row, it keeps of the table. -/
theorem map_updateWhere {key : ρ → κ}
    (kept : ∀ row, key (change row) = key row) :
    (updateWhere holds change rows).map key = rows.map key := by
  unfold updateWhere
  rw [List.map_map]
  apply List.map_congr_left
  intro row _
  by_cases selected : holds row
  · simp [selected, kept]
  · simp [selected]

theorem updateWhere_of_forall_not (none : ∀ row ∈ rows, holds row = false) :
    updateWhere holds change rows = rows := by
  unfold updateWhere
  conv_rhs => rw [← List.map_id rows]
  apply List.map_congr_left
  intro row membership
  simp [none row membership]

theorem updateWhere_congr {holds' : ρ → Bool} {change' : ρ → ρ}
    (same : ∀ row ∈ rows, holds' row = holds row ∧
      (holds row = true → change' row = change row)) :
    updateWhere holds' change' rows = updateWhere holds change rows := by
  refine List.map_congr_left fun row inside => ?_
  obtain ⟨selects, changes⟩ := same row inside
  by_cases selected : holds row = true
  · rw [if_pos selected, if_pos (selects.trans selected), changes selected]
  · rw [if_neg selected, if_neg (selects ▸ selected)]

/-- Changing the selected rows twice is changing them once, if the second change
selects the same ones. -/
theorem updateWhere_updateWhere {holds' : ρ → Bool} {change' : ρ → ρ}
    (still : ∀ row ∈ rows,
      holds' (if holds row then change row else row) = holds row) :
    updateWhere holds' change' (updateWhere holds change rows) =
      updateWhere holds (fun row => change' (change row)) rows := by
  unfold updateWhere
  rw [List.map_map]
  refine List.map_congr_left fun row inside => ?_
  have selects := still row inside
  by_cases selected : holds row = true
  · rw [if_pos selected] at selects ⊢
    rw [Function.comp_apply, if_pos selected, if_pos (selects.trans selected)]
  · rw [if_neg selected] at selects ⊢
    rw [Function.comp_apply, if_neg selected, if_neg (selects ▸ selected)]

theorem forall_mem_updateWhere {good : ρ → Prop} (all : ∀ row ∈ rows, good row)
    (changed : ∀ row ∈ rows, holds row = true → good (change row)) :
    ∀ row ∈ updateWhere holds change rows, good row := by
  intro row membership
  obtain ⟨old, inside, rfl⟩ := mem_updateWhere.mp membership
  by_cases selected : holds old
  · rw [if_pos selected]
    exact changed old inside selected
  · rw [if_neg selected]
    exact all old inside

/-- Rows stay related pairwise if the change keeps what relates them. -/
theorem pairwise_updateWhere {related : ρ → ρ → Prop}
    (all : rows.Pairwise related)
    (kept : ∀ left right, related left right →
      related (if holds left then change left else left)
        (if holds right then change right else right)) :
    (updateWhere holds change rows).Pairwise related := by
  unfold updateWhere
  rw [List.pairwise_map]
  exact all.imp fun {left right} pair => kept left right pair

theorem pairwise_append_singleton {related : ρ → ρ → Prop}
    (all : rows.Pairwise related)
    {row : ρ} (last : ∀ other ∈ rows, related other row) :
    (rows ++ [row]).Pairwise related := by
  rw [List.pairwise_append]
  refine ⟨all, List.pairwise_singleton related row, fun other inside => ?_⟩
  intro found membership
  rw [List.mem_singleton.mp membership]
  exact last other inside

theorem nodup_map_append_singleton {key : ρ → κ} (keys : (rows.map key).Nodup)
    {row : ρ} (fresh : key row ∉ rows.map key) :
    ((rows ++ [row]).map key).Nodup := by
  rw [List.map_append, List.nodup_append]
  refine ⟨keys, List.nodup_singleton (key row),
    fun found membership other single => ?_⟩
  rw [List.mem_singleton.mp single]
  rintro rfl
  exact fresh membership

/-- Of a change to the only row with a key, what it makes of that row is all
that matters. -/
theorem updateWhere_key {key : ρ → String} (keys : (rows.map key).Nodup)
    {row : ρ} (inside : row ∈ rows) :
    updateWhere (fun other => key other == key row) change rows =
      updateWhere (fun other => key other == key row)
        (fun _ => change row) rows := by
  apply updateWhere_congr
  intro other present
  refine ⟨rfl, fun selected => ?_⟩
  rw [eq_of_key keys present inside (beq_iff_eq.mp selected)]

theorem filter_key_eq_singleton {key : ρ → String} (keys : (rows.map key).Nodup)
    {row : ρ} (membership : row ∈ rows) :
    rows.filter (fun other => key other == key row) = [row] := by
  have distinct : (rows.filter fun other => key other == key row).Nodup :=
    (List.Nodup.of_map key keys).filter _
  refine List.perm_singleton.mp
    ((List.perm_ext_iff_of_nodup distinct (List.nodup_singleton row)).mpr
      fun other => ?_)
  rw [List.mem_filter, List.mem_singleton, beq_iff_eq]
  constructor
  · rintro ⟨inside, same⟩
    exact eq_of_key keys inside membership same
  · rintro rfl
    exact ⟨membership, rfl⟩

end Updates

namespace Store

theorem hasStatus_eq_true {id : String} {status : AttemptStatus}
    {attempt : Attempt} :
    hasStatus id status attempt = true ↔ attempt.id = id ∧
    attempt.status = status := by
  simp [hasStatus]

/-- The attempt with an id is the only one that its status can be asked of. -/
theorem find?_hasStatus {attempts : List Attempt} {attempt : Attempt}
    {status : AttemptStatus} (ids : (attempts.map (·.id)).Nodup)
    (listed : attempt ∈ attempts) (same : attempt.status = status) :
    attempts.find? (hasStatus attempt.id status) = some attempt := by
  have here := hasStatus_eq_true.mpr ⟨rfl, same⟩
  cases found : attempts.find? (hasStatus attempt.id status) with
  | none => exact absurd here (List.find?_eq_none.mp found attempt listed)
  | some other =>
      have sameId := (hasStatus_eq_true.mp (List.find?_some found)).1
      rw [eq_of_key ids (List.mem_of_find?_eq_some found) listed sameId]

theorem isOf_eq_true {assignmentId studentId : String} {attempt : Attempt} :
    isOf assignmentId studentId attempt = true ↔
      attempt.assignmentId = assignmentId ∧ attempt.studentId = studentId := by
  simp [isOf]

theorem isAnswerTo_comm {π ρ : Type} (left : SavedAnswer π)
    (right : SavedAnswer ρ) :
    isAnswerTo left.attemptId left.questionId right =
      isAnswerTo right.attemptId right.questionId left := by
  rw [Bool.eq_iff_iff]
  simp only [isAnswerTo, Bool.and_eq_true, beq_iff_eq]
  constructor
  · rintro ⟨sameAttempt, sameQuestion⟩
    exact ⟨sameAttempt.symm, sameQuestion.symm⟩
  · rintro ⟨sameAttempt, sameQuestion⟩
    exact ⟨sameAttempt.symm, sameQuestion.symm⟩

theorem conflicts_comm (left right : Attempt) :
    conflicts left right = conflicts right left := by
  rw [Bool.eq_iff_iff]
  simp only [conflicts, isSameSitter, Bool.or_eq_true, Bool.and_eq_true,
    beq_iff_eq, decide_eq_true_eq]
  grind

end Store

end ExamHall
