import ExamHall.Proofs.Generation.LargestRemainder
import Mathlib.Data.List.Count

/-!
# Shares that give back their counts

Counts are turned into shares of a scale by largest remainders, and shares are
turned back into counts in the same way. On a scale that is at least as fine as
the counts the second rounding undoes the first: what was rounded down lacks one
piece, and it has a larger remainder than anything else.
-/

namespace ExamHall.Apportion

variable {total scale : Nat} {weights counts shares : PerDifficulty Nat}
  {difficulty first second : Difficulty}

/-! ## Serving those who come first -/

theorem mem_all (difficulty : Difficulty) : difficulty ∈ Difficulty.all := by
  cases difficulty <;> decide

/-- If some difficulties are served before all others and there is one piece for
each of them, these are the ones that are served. -/
theorem servedEarlier_lt_countP_iff {chosen : Difficulty → Prop}
    [DecidablePred chosen]
    (ahead : ∀ first second, chosen first → ¬chosen second →
      ServedBefore total weights first second) :
    servedEarlier total weights difficulty <
      Difficulty.all.countP (fun other => decide (chosen other)) ↔
      chosen difficulty := by
  constructor
  · intro early
    by_contra late
    refine early.not_ge (List.countP_mono_left fun other _ inside => ?_)
    exact decide_eq_true
      (ahead other difficulty (of_decide_eq_true inside) late)
  · intro inside
    have before : servedEarlier total weights difficulty ≤
        (Difficulty.all.filter fun other => decide (chosen other)).countP
          fun other => decide (other ≠ difficulty) := by
      rw [List.countP_filter]
      refine List.countP_mono_left fun other _ earlier => ?_
      have earlier : ServedBefore total weights other difficulty :=
        of_decide_eq_true earlier
      rw [Bool.and_eq_true, decide_eq_true_eq, decide_eq_true_eq]
      refine ⟨?_,
        by_contra fun out => (ahead difficulty other inside out).asymm earlier⟩
      rintro rfl
      exact earlier.asymm earlier
    rw [List.countP_eq_length_filter (p := fun other => decide (chosen other))]
    refine before.trans_lt
      (List.countP_lt_length_iff.mpr ⟨difficulty, ?_, by simp⟩)
    exact List.mem_filter.mpr ⟨mem_all difficulty, decide_eq_true inside⟩

/-! ## The way back -/

theorem sum_mul_wholeShare_add (total : Nat) (weights : PerDifficulty Nat)
    (difficulty : Difficulty) :
    weights.sum * wholeShare total weights difficulty +
      shareRest total weights difficulty = total * weights.get difficulty :=
  Nat.div_add_mod _ _

/-- A share is determined by a whole part and a rest that make it up. -/
theorem share_eq {whole rest : Nat} (small : rest < weights.sum)
    (parts : rest + weights.sum * whole = total * weights.get difficulty) :
    wholeShare total weights difficulty = whole ∧
    shareRest total weights difficulty = rest :=
  (Nat.div_mod_unique (Nat.zero_lt_of_lt small)).mpr ⟨parts, small⟩

/-- Whether a difficulty has got less than its exact share of the scale. -/
def RoundedDown (scale : Nat) (counts shares : PerDifficulty Nat)
    (difficulty : Difficulty) : Prop :=
  0 < shareRest scale counts difficulty ∧
    shares.get difficulty = wholeShare scale counts difficulty

instance : DecidablePred (RoundedDown scale counts shares) :=
  fun _ => inferInstanceAs (Decidable (_ ∧ _))

namespace IsLargestRemainder

variable (split : IsLargestRemainder scale counts shares)
  (positive : 0 < counts.sum) (fine : counts.sum ≤ scale)

include split positive fine

/-- A share that was rounded down is one piece short, and what was cut off is
all that its rest lacks of a piece. -/
theorem back_of_roundedDown
    (down : RoundedDown scale counts shares difficulty) :
    wholeShare counts.sum shares difficulty + 1 = counts.get difficulty ∧
    shareRest counts.sum shares difficulty =
      scale - shareRest scale counts difficulty := by
  obtain ⟨some, whole⟩ := down
  have less : shareRest scale counts difficulty < counts.sum :=
    Nat.mod_lt _ positive
  have parts := sum_mul_wholeShare_add scale counts difficulty
  rw [← whole] at parts
  obtain ⟨count, more⟩ : ∃ count, counts.get difficulty = count + 1 := by
    refine Nat.exists_eq_succ_of_ne_zero fun none => ?_
    rw [none, Nat.mul_zero] at parts
    omega
  rw [more, Nat.mul_succ] at parts
  have back : wholeShare counts.sum shares difficulty = count ∧
      shareRest counts.sum shares difficulty =
        scale - shareRest scale counts difficulty := by
    apply share_eq
    · rw [split.whole]
      omega
    · rw [split.whole]
      omega
  exact ⟨by rw [back.1, more], back.2⟩

/-- A share that was not rounded down has all its pieces, and its rest is what
was added when it was rounded up. -/
theorem back_of_not_roundedDown
    (up : ¬RoundedDown scale counts shares difficulty) :
    wholeShare counts.sum shares difficulty = counts.get difficulty ∧
    (shareRest counts.sum shares difficulty = 0 ∨
      shares.get difficulty = wholeShare scale counts difficulty + 1 ∧
      shareRest counts.sum shares difficulty =
        counts.sum - shareRest scale counts difficulty) := by
  have less : shareRest scale counts difficulty < counts.sum :=
    Nat.mod_lt _ positive
  have parts := sum_mul_wholeShare_add scale counts difficulty
  by_cases exact : shareRest scale counts difficulty = 0
  · rw [exact, Nat.add_zero, ← split.exact difficulty exact] at parts
    have back := @share_eq counts.sum shares difficulty (counts.get difficulty)
      0 (by rw [split.whole]; omega) (by rw [split.whole, parts, Nat.zero_add])
    exact ⟨back.1, .inl back.2⟩
  · have more :
        shares.get difficulty = wholeShare scale counts difficulty + 1 :=
      (split.near difficulty).resolve_left fun whole =>
        up ⟨Nat.pos_of_ne_zero exact, whole⟩
    have product : counts.sum * shares.get difficulty =
        counts.sum * wholeShare scale counts difficulty + counts.sum := by
      rw [more, Nat.mul_succ]
    have back := @share_eq counts.sum shares difficulty (counts.get difficulty)
      (counts.sum - shareRest scale counts difficulty)
      (by rw [split.whole]; have := Nat.pos_of_ne_zero exact; omega)
      (by rw [split.whole]; omega)
    exact ⟨back.1, .inr ⟨more, back.2⟩⟩

/-- On the way back the shares that were rounded down are served first.  A share
that was rounded up had no smaller rest in parts of the counts, and these are
fewer than those of the scale. -/
theorem servedBefore_back (down : RoundedDown scale counts shares first)
    (up : ¬RoundedDown scale counts shares second) :
    ServedBefore counts.sum shares first second := by
  have less : shareRest scale counts first < counts.sum := Nat.mod_lt _ positive
  obtain ⟨-, rest⟩ := back_of_roundedDown split positive fine down
  refine .inl ?_
  rw [rest]
  rcases (back_of_not_roundedDown split positive fine up).2
    with none | ⟨more, rest'⟩
  · omega
  · have early := (split.served second).mp more
    have late : missing scale counts ≤ servedEarlier scale counts first := by
      refine Nat.le_of_not_lt fun early => ?_
      have more := (split.served first).mpr early
      have := down.2
      omega
    have order : shareRest scale counts first
      ≤ shareRest scale counts second := by
      refine Nat.le_of_not_lt fun larger => ?_
      have := ServedBefore.servedEarlier_le
        (.inl larger : ServedBefore scale counts first second)
      omega
    -- Only on a scale that has no more parts than the counts could both rests
    -- be the same, and then all are exact.
    have finer : counts.sum < scale := by
      refine Nat.lt_of_le_of_ne fine fun same => ?_
      have some := down.1
      rw [shareRest, ← same, Nat.mul_mod_right] at some
      omega
    rw [rest']
    omega

/-- What is missing on the way back is one piece for each share that was rounded
down. -/
theorem missing_back :
    missing counts.sum shares = Difficulty.all.countP fun difficulty =>
      decide (RoundedDown scale counts shares difficulty) := by
  have each : ∀ difficulty, counts.get difficulty =
      wholeShare counts.sum shares difficulty +
        if RoundedDown scale counts shares difficulty then 1 else 0 := by
    intro difficulty
    split
    · next down => exact (back_of_roundedDown split positive fine down).1.symm
    · next up => exact (back_of_not_roundedDown split positive fine up).1.symm
  have easy := each .easy
  have medium := each .medium
  have hard := each .hard
  have whole :
    counts.sum = counts.get .easy + counts.get .medium + counts.get .hard := rfl
  rw [missing, sum_of]
  simp only [Difficulty.all, List.countP_cons, List.countP_nil,
    decide_eq_true_eq]
  omega

end IsLargestRemainder

/-- On a scale that is at least as fine as the counts, their shares give back
the counts. -/
theorem exists_apportion?_back (positive : 0 < counts.sum)
    (fine : counts.sum ≤ scale) (small : scale < countLimit) :
    ∃ shares, apportion? scale counts counts.sum = some shares ∧
      shares.sum = scale ∧
      apportion? counts.sum shares scale = some counts := by
  obtain ⟨shares, found, whole, each⟩ := exists_apportion?_get positive small
  have split : IsLargestRemainder scale counts shares :=
    .of_get positive whole each
  refine ⟨shares, found, whole, ?_⟩
  obtain ⟨again, back, -, each'⟩ := @exists_apportion?_get counts.sum shares
    (by omega) (Nat.lt_of_le_of_lt fine small)
  rw [whole] at back
  rw [back, Option.some.injEq]
  refine PerDifficulty.ext_get fun difficulty => ?_
  have served := @servedEarlier_lt_countP_iff counts.sum shares difficulty
    (RoundedDown scale counts shares) _ fun _ _ =>
      split.servedBefore_back positive fine
  rw [each', split.missing_back positive fine]
  by_cases down : RoundedDown scale counts shares difficulty
  · rw [if_pos (served.mpr down),
      (split.back_of_roundedDown positive fine down).1]
  · rw [if_neg (served.not.mpr down),
      (split.back_of_not_roundedDown positive fine down).1, Nat.add_zero]

/-! ## Percentages -/

/-- The percentages of some counts are found, and they make up the whole. -/
theorem exists_derivePercentages? (positive : 0 < counts.sum)
    (small : counts.sum < countLimit) :
    ∃ percentages, derivePercentages? counts = some percentages ∧
      percentages.sum = 100 := by
  obtain ⟨percentages, found, whole⟩ :=
    @exists_apportion? 100 counts positive (by decide)
  exact ⟨percentages, by rw [derivePercentages?, if_pos small, found], whole⟩

theorem sum_of_derivePercentages? {percentages : PerDifficulty Nat}
    (positive : 0 < counts.sum)
    (derived : derivePercentages? counts = some percentages) :
    percentages.sum = 100 := by
  have small : counts.sum < countLimit := by
    by_contra large
    rw [derivePercentages?, if_neg large] at derived
    cases derived
  obtain ⟨found, same, whole⟩ := exists_derivePercentages? positive small
  obtain rfl := Option.some.inj (same.symm.trans derived)
  exact whole

/-- The percentages of at most one hundred things ask for the same counts
again. -/
theorem bucketCounts?_derivePercentages? {percentages : PerDifficulty Nat}
    (positive : 0 < counts.sum) (few : counts.sum ≤ 100)
    (derived : derivePercentages? counts = some percentages) :
    bucketCounts? counts.sum percentages = some counts := by
  obtain ⟨shares, found, -, back⟩ :=
    exists_apportion?_back positive few (by decide)
  rw [derivePercentages?, if_pos (Nat.lt_of_le_of_lt few (by decide)), found]
    at derived
  obtain rfl := Option.some.inj derived
  exact back

end ExamHall.Apportion
