import ExamHall.Generation.Apportion
import Mathlib.Order.Basic

/-!
# Apportioned counts make up the total

Each difficulty gets the whole part of its share, and what is missing is handed
out along an order of the difficulties. Whichever order that is, the counts add
up to the total.
-/

namespace ExamHall

theorem PerDifficulty.get_le_sum {values : PerDifficulty Nat}
    (difficulty : Difficulty) : values.get difficulty ≤ values.sum := by
  unfold PerDifficulty.sum
  cases difficulty <;> simp only [PerDifficulty.get] <;> omega

theorem PerDifficulty.ext_get {α : Type} {left right : PerDifficulty α}
    (same : ∀ difficulty, left.get difficulty = right.get difficulty) :
    left = right := by
  cases left
  cases right
  rw [PerDifficulty.mk.injEq]
  exact ⟨same .easy, same .medium, same .hard⟩

namespace Apportion

/-! ## Handing out -/

/-- In a list without repetitions the places are the numbers from zero on. -/
theorem map_idxOf {order : List Difficulty} (distinct : order.Nodup) :
    order.map order.idxOf = List.range order.length := by
  refine List.ext_getElem (by simp) fun place inside _ => ?_
  rw [List.getElem_map, List.getElem_range]
  exact distinct.idxOf_getElem place _

/-- What is handed out along an order is all there is. -/
theorem sum_extraAt {order : List Difficulty}
    (perm : order.Perm [Difficulty.hard, .medium, .easy]) (missing : Nat) :
    extraAt missing (order.idxOf .easy) +
      extraAt missing (order.idxOf .medium) +
      extraAt missing (order.idxOf .hard) = missing := by
  have distinct : order.Nodup := perm.nodup_iff.mpr (by decide)
  have places : ((order.map order.idxOf).map (extraAt missing)).sum =
      extraAt missing 0 + extraAt missing 1 + extraAt missing 2 := by
    rw [map_idxOf distinct, perm.length_eq]
    simp only [List.length_cons, List.length_nil, List.range_succ,
      List.range_zero, List.nil_append, List.cons_append, List.map_cons,
      List.map_nil, List.sum_cons, List.sum_nil]
    omega
  have listed := (perm.map fun difficulty =>
      extraAt missing (order.idxOf difficulty)).sum_nat
  rw [List.map_map] at places
  simp only [List.map_cons, List.map_nil, List.sum_cons, List.sum_nil] at listed
  have handed : extraAt missing 0 + extraAt missing 1 + extraAt missing 2 =
      missing := by
    have small := Nat.mod_lt missing (Nat.succ_pos 2)
    unfold extraAt
    split_ifs <;> omega
  have same :
    (order.map fun difficulty => extraAt missing (order.idxOf difficulty)).sum =
      missing := places.trans handed
  omega

theorem handOutOrder_perm (remainders : PerDifficulty Nat) :
    (handOutOrder remainders).Perm [Difficulty.hard, .medium, .easy] :=
  List.mergeSort_perm _ _

/-! ## Whole parts -/

theorem quota_eq {total weight weightSum : Nat} (part : weight ≤ weightSum)
    (small : total < countLimit) :
    quota total weight weightSum = total * weight / weightSum := by
  refine Nat.mod_eq_of_lt (Nat.lt_of_le_of_lt (Nat.div_le_of_le_mul ?_) small)
  rw [Nat.mul_comm weightSum]
  exact Nat.mul_le_mul_left total part

/-- The whole parts of shares that make up a total are not more than it. -/
theorem quotas_sum_le {total : Nat} {weights : PerDifficulty Nat}
    (positive : 0 < weights.sum) (small : total < countLimit) :
    (weights.map fun weight => quota total weight weights.sum).sum ≤ total := by
  have easy : weights.easy ≤ weights.sum := PerDifficulty.get_le_sum .easy
  have medium : weights.medium ≤ weights.sum := PerDifficulty.get_le_sum .medium
  have hard : weights.hard ≤ weights.sum := PerDifficulty.get_le_sum .hard
  change quota total weights.easy weights.sum +
    quota total weights.medium weights.sum +
      quota total weights.hard weights.sum ≤ total
  rw [quota_eq easy small, quota_eq medium small, quota_eq hard small]
  have whole : total * weights.easy + total * weights.medium + total *
      weights.hard = total * weights.sum := by
    unfold PerDifficulty.sum
    rw [Nat.mul_add, Nat.mul_add]
  refine Nat.le_of_mul_le_mul_right ?_ positive
  rw [Nat.add_mul, Nat.add_mul, ← whole]
  exact Nat.add_le_add (Nat.add_le_add (Nat.div_mul_le_self _ _)
      (Nat.div_mul_le_self _ _)) (Nat.div_mul_le_self _ _)

theorem le_sum_of_mem {values : PerDifficulty Nat} {value : Nat}
    (inside : value ∈ values.toList) : value ≤ values.sum := by
  simp only [PerDifficulty.toList, List.mem_cons, List.not_mem_nil, or_false]
    at inside
  unfold PerDifficulty.sum
  omega

/-- Counts in proportion to weights make up the total. -/
theorem exists_apportion? {total : Nat} {weights : PerDifficulty Nat}
    (positive : 0 < weights.sum) (small : total < countLimit) :
    ∃ counts, apportion? total weights weights.sum = some counts ∧
      counts.sum = total := by
  have fits := quotas_sum_le positive small
  unfold apportion?
  rw [if_neg (Nat.pos_iff_ne_zero.mp positive)]
  dsimp only
  generalize weights.map (fun weight => quota total weight weights.sum) =
    quotas at fits ⊢
  have perm := handOutOrder_perm
    (weights.map fun weight => remainder total weight weights.sum)
  generalize handOutOrder (weights.map fun weight =>
      remainder total weight weights.sum) = order at perm ⊢
  have handed := sum_extraAt perm (total - quotas.sum)
  have whole : (PerDifficulty.of fun difficulty => quotas.get difficulty +
      extraAt (total - quotas.sum) (order.idxOf difficulty)).sum = total := by
    generalize extraAt (total - quotas.sum) = extra at handed ⊢
    change quotas.easy + _ + (quotas.medium + _) + (quotas.hard + _) = total
    have parts : quotas.sum = quotas.easy + quotas.medium + quotas.hard := rfl
    omega
  rw [if_pos]
  · exact ⟨_, rfl, whole⟩
  · refine ⟨Nat.lt_of_le_of_lt fits small, ?_⟩
    rw [List.all_eq_true]
    intro count inside
    rw [decide_eq_true_eq]
    exact Nat.lt_of_le_of_lt (le_sum_of_mem inside) (whole.trans_lt small)

/-! ## Percentages -/

/-- A split is free of faults exactly if its percentages are percentages and
make up the whole. -/
theorem splitFault?_eq_none {percentages : PerDifficulty Nat} :
    splitFault? percentages = none ↔
      (∀ difficulty, percentages.get difficulty ≤ 100) ∧
    percentages.sum = 100 := by
  have each : percentages.toList.find? (100 < ·) = none ↔
      ∀ difficulty, percentages.get difficulty ≤ 100 := by
    rw [List.find?_eq_none]
    constructor
    · intro small difficulty
      have listed : percentages.get difficulty ∈ percentages.toList := by
        cases difficulty <;> simp [PerDifficulty.get, PerDifficulty.toList]
      simpa using small _ listed
    · intro small percentage listed
      simp only [PerDifficulty.toList, List.mem_cons, List.not_mem_nil,
        or_false] at listed
      rcases listed with rfl | rfl | rfl
      · exact fun large =>
          Nat.not_lt.mpr (small .easy) (of_decide_eq_true large)
      · exact fun large =>
          Nat.not_lt.mpr (small .medium) (of_decide_eq_true large)
      · exact fun large =>
          Nat.not_lt.mpr (small .hard) (of_decide_eq_true large)
  unfold splitFault?
  rw [← each]
  cases percentages.toList.find? (100 < ·) with
  | some percentage => simp
  | none =>
      by_cases whole : percentages.sum = 100
      · simp [whole]
      · simp [whole]

/-- The counts for a split without faults make up the number of questions. -/
theorem exists_bucketCounts? {count : Nat} {percentages : PerDifficulty Nat}
    (sound : splitFault? percentages = none) (small : count < countLimit) :
    ∃ counts, bucketCounts? count percentages = some counts ∧
      counts.sum = count := by
  obtain ⟨-, whole⟩ := splitFault?_eq_none.mp sound
  unfold bucketCounts?
  rw [← whole]
  exact exists_apportion? (whole ▸ Nat.succ_pos 99) small

end Apportion

end ExamHall
