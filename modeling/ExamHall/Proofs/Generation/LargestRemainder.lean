import ExamHall.Proofs.Generation.Apportion
import ExamHall.Proofs.Lists

/-!
# The largest remainders get what is missing

Counts in proportion to weights are the whole parts of the exact shares, and
what these leave goes to the difficulties with the largest remainders.  The
remainders make up exactly what is missing, and each of them is less than one
piece.  So there are always more of them than pieces, nobody gets two, and
nobody gets one whose share is exact.
-/

namespace ExamHall.Apportion

variable {total : Nat} {weights counts : PerDifficulty Nat}
  {difficulty : Difficulty}

/-! ## Shares -/

/-- The whole part of the share that a difficulty has in a total. -/
def wholeShare (total : Nat) (weights : PerDifficulty Nat)
    (difficulty : Difficulty) : Nat :=
  total * weights.get difficulty / weights.sum

/-- What the whole part leaves of a share, in parts of the sum of the
weights. -/
def shareRest (total : Nat) (weights : PerDifficulty Nat)
    (difficulty : Difficulty) : Nat :=
  total * weights.get difficulty % weights.sum

/-- The pieces that the whole parts leave to be handed out. -/
def missing (total : Nat) (weights : PerDifficulty Nat) : Nat :=
  total - (PerDifficulty.of (wholeShare total weights)).sum

/-- The place of a difficulty among those with equal remainders, the harder one
first. -/
def hardness : Difficulty → Nat
  | .easy => 0
  | .medium => 1
  | .hard => 2

/-- Whether more is left of the first share than of the second, or as much and
the first difficulty is harder. -/
def ServedBefore (total : Nat) (weights : PerDifficulty Nat)
    (first second : Difficulty) : Prop :=
  shareRest total weights second < shareRest total weights first
    ∨ shareRest total weights first
      = shareRest total weights second ∧ hardness second < hardness first

instance (total : Nat) (weights : PerDifficulty Nat)
    (first second : Difficulty) :
    Decidable (ServedBefore total weights first second) :=
  inferInstanceAs (Decidable (_ ∨ _ ∧ _))

/-- How many difficulties are served before one. -/
def servedEarlier (total : Nat) (weights : PerDifficulty Nat)
    (difficulty : Difficulty) : Nat :=
  Difficulty.all.countP fun other =>
    decide (ServedBefore total weights other difficulty)

/-- Counts that are the whole parts of the shares of a total, with one more for
each of the first difficulties to be served until nothing is missing. -/
structure IsLargestRemainder (total : Nat)
    (weights counts : PerDifficulty Nat) : Prop where
  whole : counts.sum = total
  near : ∀ difficulty,
    counts.get difficulty = wholeShare total weights difficulty ∨
    counts.get difficulty = wholeShare total weights difficulty + 1
  served : ∀ difficulty,
    counts.get difficulty = wholeShare total weights difficulty + 1 ↔
      servedEarlier total weights difficulty < missing total weights
  exact : ∀ difficulty, shareRest total weights difficulty = 0 →
    counts.get difficulty = wholeShare total weights difficulty
  unweighted : ∀ difficulty, weights.get difficulty = 0 →
    counts.get difficulty = 0
  monotone : ∀ lighter heavier, weights.get lighter < weights.get heavier →
    counts.get lighter ≤ counts.get heavier

/-! ## What is missing -/

theorem sum_of (value : Difficulty → Nat) :
    (PerDifficulty.of value).sum = value .easy + value .medium + value .hard :=
  rfl

/-- The remainders make up what is missing. -/
theorem missing_mul_sum (total : Nat) (weights : PerDifficulty Nat) :
    missing total weights * weights.sum =
      (PerDifficulty.of (shareRest total weights)).sum := by
  have parts : ∀ difficulty, weights.sum * wholeShare total weights difficulty +
    shareRest total weights difficulty = total * weights.get difficulty :=
    fun difficulty =>
      Nat.div_add_mod (total * weights.get difficulty) weights.sum
  have whole : total * weights.easy + total * weights.medium + total *
      weights.hard = total * weights.sum := by
    rw [PerDifficulty.sum, Nat.mul_add, Nat.mul_add]
  have easy := parts .easy
  have medium := parts .medium
  have hard := parts .hard
  simp only [PerDifficulty.get] at easy medium hard
  have together :
      weights.sum * (PerDifficulty.of (wholeShare total weights)).sum +
        (PerDifficulty.of (shareRest total weights)).sum =
        weights.sum * total := by
    rw [sum_of, sum_of, Nat.mul_add, Nat.mul_add,
      Nat.mul_comm weights.sum total, ← whole]
    omega
  rw [missing, Nat.mul_comm, Nat.mul_sub]
  omega

theorem missing_lt (positive : 0 < weights.sum) :
    missing total weights < 3 := by
  have rest : ∀ difficulty, shareRest total weights difficulty < weights.sum :=
    fun difficulty => Nat.mod_lt _ positive
  have easy := rest .easy
  have medium := rest .medium
  have hard := rest .hard
  refine Nat.lt_of_mul_lt_mul_right (a := weights.sum) ?_
  rw [missing_mul_sum, sum_of]
  omega

/-- There are as many remainders as pieces, or more. -/
theorem missing_le_countP (positive : 0 < weights.sum) :
    missing total weights ≤ Difficulty.all.countP fun difficulty =>
      decide (0 < shareRest total weights difficulty) := by
  have bounded : ∀ difficulty, shareRest total weights difficulty ≤
      (if 0 < shareRest total weights difficulty then 1 else 0) *
        weights.sum := by
    intro difficulty
    have less : shareRest total weights difficulty < weights.sum :=
      Nat.mod_lt _ positive
    split <;> omega
  have easy := bounded .easy
  have medium := bounded .medium
  have hard := bounded .hard
  refine Nat.le_of_mul_le_mul_right ?_ positive
  rw [missing_mul_sum, sum_of]
  simp only [Difficulty.all, List.countP_cons, List.countP_nil,
    decide_eq_true_eq, Nat.add_mul, Nat.zero_mul]
  omega

/-! ## Who is served first -/

theorem ServedBefore.asymm {first second : Difficulty}
    (before : ServedBefore total weights first second) :
    ¬ServedBefore total weights second first := by
  unfold ServedBefore at before ⊢
  omega

theorem ServedBefore.trans {first second third : Difficulty}
    (before : ServedBefore total weights first second)
    (after : ServedBefore total weights second third) :
    ServedBefore total weights first third := by
  unfold ServedBefore at before after ⊢
  omega

/-- Who is served earlier has fewer before him. -/
theorem ServedBefore.servedEarlier_le {first second : Difficulty}
    (before : ServedBefore total weights first second) :
    servedEarlier total weights first ≤ servedEarlier total weights second :=
  List.countP_mono_left fun _ _ ahead =>
    decide_eq_true ((of_decide_eq_true ahead).trans before)

/-- Among equal remainders the order of handing out goes from hard to easy,
because sorting keeps it. -/
theorem handOutOrder_pairwise (total : Nat) (weights : PerDifficulty Nat) :
    (handOutOrder (PerDifficulty.of (shareRest total weights))).Pairwise
      (ServedBefore total weights) := by
  generalize listed :
    handOutOrder (PerDifficulty.of (shareRest total weights)) = order
  have perm : order.Perm [Difficulty.hard, .medium, .easy] :=
    listed ▸ handOutOrder_perm _
  have distinct : order.Nodup := perm.nodup_iff.mpr (by decide)
  let notLess : Difficulty → Difficulty → Bool := fun left right =>
    decide (shareRest total weights right ≤ shareRest total weights left)
  have sorts : order = [Difficulty.hard, .medium, .easy].mergeSort notLess := by
    rw [← listed]
    simp only [handOutOrder, PerDifficulty.get_of, notLess]
  have trans : ∀ left middle right, notLess left middle → notLess middle right →
      notLess left right := by
    simp only [notLess, decide_eq_true_eq]
    omega
  have comparable : ∀ left right, notLess left right || notLess right left := by
    simp only [notLess, Bool.or_eq_true, decide_eq_true_eq]
    omega
  have falling : order.Pairwise fun left right => notLess left right :=
    sorts ▸ List.pairwise_mergeSort trans comparable _
  refine List.pairwise_iff_forall_sublist.mpr fun {first second} pair => ?_
  have less : shareRest total weights second ≤ shareRest total weights first :=
    of_decide_eq_true (List.pairwise_iff_forall_sublist.mp falling pair)
  rcases Nat.lt_or_eq_of_le less with more | same
  · exact .inl more
  refine .inr ⟨same.symm, Nat.lt_of_not_le fun easier => ?_⟩
  have apart : first
    ≠ second := List.pairwise_iff_forall_sublist.mp distinct pair
  have given : [second, first].Sublist [Difficulty.hard, .medium, .easy] := by
    revert apart easier
    cases first <;> cases second <;> decide
  have swapped : [second, first].Sublist order :=
    sorts ▸ List.pair_sublist_mergeSort trans comparable
      (decide_eq_true same.ge) given
  exact absurd swapped (not_sublist_swapped distinct pair)

/-- The place in the order of handing out is the number of those who are served
before. -/
theorem idxOf_handOutOrder (total : Nat) (weights : PerDifficulty Nat)
    (difficulty : Difficulty) :
    (handOutOrder (PerDifficulty.of (shareRest total weights))).idxOf
      difficulty = servedEarlier total weights difficulty := by
  have perm := handOutOrder_perm (PerDifficulty.of (shareRest total weights))
  have everyone : ∀ difficulty,
      difficulty ∈ [Difficulty.hard, .medium, .easy] := by
    intro difficulty
    cases difficulty <;> decide
  rw [idxOf_eq_countP (handOutOrder_pairwise total weights)
    (fun _ _ => ServedBefore.asymm) (perm.mem_iff.mpr (everyone difficulty)),
    perm.countP_eq]
  exact List.Perm.countP_eq _ (by decide)

/-! ## The counts -/

/-- Everything fits, and each difficulty gets the whole part of its share and at
most one piece more. -/
theorem exists_apportion?_get (positive : 0 < weights.sum)
    (small : total < countLimit) :
    ∃ counts, apportion? total weights weights.sum = some counts ∧
      counts.sum = total ∧ ∀ difficulty, counts.get difficulty = wholeShare
          total weights difficulty + if servedEarlier total weights difficulty <
          missing total weights then 1 else 0 := by
  obtain ⟨counts, found, whole⟩ := exists_apportion? positive small
  refine ⟨counts, found, whole, fun difficulty => ?_⟩
  have quotas : (weights.map fun weight => quota total weight weights.sum) =
      PerDifficulty.of (wholeShare total weights) := by
    refine congrArg PerDifficulty.of (funext fun difficulty => ?_)
    exact quota_eq (PerDifficulty.get_le_sum difficulty) small
  have rests : (weights.map fun weight => remainder total weight weights.sum) =
      PerDifficulty.of (shareRest total weights) := rfl
  have few : missing total weights < 3 := missing_lt positive
  unfold apportion? at found
  rw [if_neg positive.ne'] at found
  simp only [quotas, rests] at found
  split at found
  · cases found
    rw [PerDifficulty.get_of, PerDifficulty.get_of, idxOf_handOutOrder, extraAt]
    change _ + (missing total weights / 3 +
      if _ < missing total weights % 3 then 1 else 0) = _
    rw [Nat.div_eq_of_lt few, Nat.mod_eq_of_lt few, Nat.zero_add]
  · cases found

namespace IsLargestRemainder

/-- Where nothing is left of a share, others are served with all that is
missing. -/
theorem missing_le_servedEarlier (positive : 0 < weights.sum)
    (exact : shareRest total weights difficulty = 0) :
    missing total weights ≤ servedEarlier total weights difficulty := by
  refine (missing_le_countP positive).trans
    (List.countP_mono_left fun other _ some => ?_)
  refine decide_eq_true (.inl ?_)
  rw [exact]
  exact of_decide_eq_true some

theorem wholeShare_mono {lighter heavier : Difficulty}
    (less : weights.get lighter ≤ weights.get heavier) :
    wholeShare total weights lighter ≤ wholeShare total weights heavier :=
  Nat.div_le_div_right (Nat.mul_le_mul_left total less)

/-- With as many whole pieces, a heavier difficulty has more left. -/
theorem servedBefore_of_lt {lighter heavier : Difficulty} (some : 0 < total)
    (less : weights.get lighter < weights.get heavier)
    (same : wholeShare total weights lighter =
      wholeShare total weights heavier) :
    ServedBefore total weights heavier lighter := by
  have more : total * weights.get lighter < total * weights.get heavier :=
    Nat.mul_lt_mul_of_pos_left less some
  have light := Nat.div_add_mod (total * weights.get lighter) weights.sum
  have heavy := Nat.div_add_mod (total * weights.get heavier) weights.sum
  unfold wholeShare at same
  rw [same] at light
  exact .inl (by unfold shareRest; omega)

theorem of_get (positive : 0 < weights.sum) (whole : counts.sum = total)
    (each : ∀ difficulty, counts.get difficulty = wholeShare total weights
      difficulty + if servedEarlier total weights difficulty <
      missing total weights then 1 else 0) :
    IsLargestRemainder total weights counts where
  whole := whole
  near difficulty := by
    rw [each]
    split
    · exact .inr rfl
    · exact .inl rfl
  served difficulty := by
    rw [each]
    split <;> simp_all
  exact difficulty none := by
    have late := missing_le_servedEarlier positive none
    rw [each, if_neg late.not_gt, Nat.add_zero]
  unweighted difficulty none := by
    have nothing : total * weights.get difficulty = 0 := by
      rw [none, Nat.mul_zero]
    have rest : shareRest total weights difficulty = 0 := by
      rw [shareRest, nothing, Nat.zero_mod]
    have late := missing_le_servedEarlier positive rest
    rw [each, if_neg late.not_gt, wholeShare, nothing, Nat.zero_div]
  monotone lighter heavier less := by
    have floors :
        wholeShare total weights lighter ≤ wholeShare total weights heavier :=
      wholeShare_mono less.le
    rw [each, each]
    by_cases served : servedEarlier total weights lighter <
      missing total weights
    · rcases Nat.lt_or_eq_of_le floors with more | same
      · rw [if_pos served]
        omega
      · -- There is a piece to hand out, so the total is not zero, and the
        -- heavier one is served before.
        have some : 0 < total :=
          Nat.lt_of_lt_of_le (Nat.zero_lt_of_lt served) (Nat.sub_le _ _)
        have before := (servedBefore_of_lt some less same).servedEarlier_le
        rw [if_pos served, if_pos (Nat.lt_of_le_of_lt before served), same]
    · rw [if_neg served]
      omega

end IsLargestRemainder

/-- Counts of 32 bits are split by largest remainders, and neither a product nor
a count gets too large on the way. -/
theorem apportion?_by_largest_remainders {weightSum : Nat}
    (small : total < countLimit) (made : weights.sum = weightSum)
    (positive : 0 < weightSum) (narrow : weightSum < countLimit) :
    (∀ difficulty, total * weights.get difficulty < twoTo 64) ∧ ∃ counts,
      apportion? total weights weightSum = some counts ∧
      IsLargestRemainder total weights counts := by
  subst made
  constructor
  · intro difficulty
    have less := (PerDifficulty.get_le_sum difficulty).trans_lt narrow
    have product : twoTo 64 = countLimit * countLimit := by decide
    rw [product]
    exact Nat.mul_lt_mul_of_lt_of_lt small less
  · obtain ⟨counts, found, whole, each⟩ := exists_apportion?_get positive small
    exact ⟨counts, found, .of_get positive whole each⟩

/-- Five pieces for half, three tenths and a fifth: of the two equal remainders
the medium one is served first. -/
theorem apportion?_by_largest_remainders_five :
    5 < countLimit ∧ (⟨50, 30, 20⟩ : PerDifficulty Nat).sum = 100 ∧ 0 < 100 ∧
    100 < countLimit ∧ ∃ counts, apportion? 5 ⟨50, 30, 20⟩ 100 = some counts ∧
      IsLargestRemainder 5 ⟨50, 30, 20⟩ counts ∧ counts.medium = 2 ∧
      counts.easy = 2 := by
  have small : 5 < countLimit := by decide
  have narrow : 100 < countLimit := by decide
  obtain ⟨-, counts, found, split⟩ :=
    @apportion?_by_largest_remainders 5 ⟨50, 30, 20⟩ 100 small
      rfl (by decide) narrow
  refine ⟨small, rfl, by decide, narrow, counts, found, split, ?_, ?_⟩
  · exact (split.served .medium).mpr (by decide)
  · have late : ¬servedEarlier 5 ⟨50, 30, 20⟩ .easy <
      missing 5 ⟨50, 30, 20⟩ := by decide
    exact (split.near .easy).resolve_right (late ∘ (split.served .easy).mp)

end ExamHall.Apportion
