import ExamHall.Grading.Totals
import ExamHall.Proofs.Decimal.Quotient
import ExamHall.Proofs.Decimal.Rounding

/-!
# Totals of amounts

Amounts that fit into their columns are added up exactly, in whatever order they
come.  The percentage is rounded twice, first to a fine grid and then to
hundredths; what the first rounding changes is too little to be seen by the
second one.
-/

namespace ExamHall

/-- The share of the points in percent, rounded to hundredths; zero if there is
nothing to earn. -/
def percentOf (raw most : ℚ) : ℚ :=
  if most = 0 then 0 else roundCents (100 * raw / most)

/-- What lies on a fine grid keeps the half cents in place, and a quotient of
small numbers that is no half cent is too far away from them for the grid. -/
theorem roundCents_eq_of_keepsGrid {part whole : ℕ} {rounded : ℚ}
    (positive : 0 < whole) (small : whole ≤ tenTo 10)
    (keeps : KeepsGrid 26 (part / whole) rounded) :
    roundCents rounded = roundCents (part / whole) := by
  have nonneg : (0 : ℚ) ≤ part / whole := by positivity
  have positive' : (0 : ℚ) < whole := Nat.cast_pos.mpr positive
  have fraction : 100 * (part / whole : ℚ) = (100 * part : ℕ) / whole := by
    rw [← mul_div_assoc]
    norm_num
  refine roundCents_of_near positive fraction (keeps.nonneg nonneg) ?_ ?_
  · have small' : (whole : ℚ) ≤ 10 ^ 10 := by
      have : tenTo 10 = 10 ^ 10 := rfl
      rw [this] at small
      exact_mod_cast small
    calc |rounded - part / whole| ≤ 1 / tenTo 26 := keeps.abs_sub_le nonneg
      _ < 1 / (200 * whole) := by
          apply one_div_lt_one_div_of_lt (by positivity)
          have grid : (tenTo 26 : ℚ) = 10 ^ 26 := by norm_num [tenTo]
          rw [grid]
          linarith
  · rintro ⟨cents, half⟩
    have onGrid : (part / whole : ℚ) =
        ((2 * cents + 1) * (5 * 10 ^ 23) : ℕ) / tenTo 26 := by
      rw [half]
      push_cast
      norm_num [tenTo]
      ring
    exact (keeps.eq_of_mem onGrid).ge

theorem exists_percentage? {raw most : Decimal} (rawAmount : raw.IsAmount)
    (mostAmount : most.IsAmount) (less : raw.toRat ≤ most.toRat)
    (small : most.toRat ≤ tenTo 8) :
    ∃ percentage, percentage? raw most = some percentage ∧ percentage.IsAmount ∧
      percentage.toRat = percentOf raw.toRat most.toRat := by
  unfold percentage? percentOf
  by_cases zero : most.toRat = 0
  · have nothing : most ≤ Decimal.zero := by
      rw [Decimal.le_iff_toRat, Decimal.toRat_zero, zero]
    refine ⟨roundPoints .zero, if_pos nothing,
      Decimal.isAmount_roundPoints Decimal.toRat_zero.ge, ?_⟩
    rw [if_pos zero, Decimal.isAmount_zero.toRat_roundPoints,
      Decimal.toRat_zero]
  · have positive : 0 < most.toRat :=
      lt_of_le_of_ne mostAmount.nonneg (Ne.symm zero)
    have something : ¬most ≤ Decimal.zero := by
      rw [Decimal.le_iff_toRat, Decimal.toRat_zero, not_le]
      exact positive
    obtain ⟨rawCents, rawSame⟩ := Decimal.isAmount_iff.mp rawAmount
    obtain ⟨mostCents, mostSame⟩ := Decimal.isAmount_iff.mp mostAmount
    have room : raw.toRat * Decimal.hundred.toRat * tenTo 2 ≤
        tenTo Decimal.maxScale := by
      norm_num [tenTo, Decimal.maxScale] at small ⊢
      linarith
    obtain ⟨hundredfold, multiplied, -, keeps⟩ :=
      Decimal.exists_mul? rawAmount.nonneg
        (by rw [Decimal.toRat_hundred]; norm_num) (by decide) room
    have onGrid :
        raw.toRat * Decimal.hundred.toRat = (100 * rawCents : ℕ) / tenTo 2 := by
      rw [Decimal.toRat_hundred, rawSame]
      push_cast
      norm_num [tenTo]
    have exact : hundredfold.toRat = 100 * raw.toRat := by
      rw [keeps.eq_of_mem onGrid, Decimal.toRat_hundred, mul_comm]
    have nonneg : 0 ≤ hundredfold.toRat := by
      rw [exact]
      have := rawAmount.nonneg
      positivity
    obtain ⟨quotient, divided, near⟩ :=
      Decimal.exists_div? nonneg positive (by rw [exact]; linarith)
    have quotientNonneg := near.nonneg (div_nonneg nonneg mostAmount.nonneg)
    refine ⟨roundPoints quotient, ?_,
      Decimal.isAmount_roundPoints quotientNonneg, ?_⟩
    · rw [if_neg something, multiplied, Option.bind_eq_bind,
        Option.bind_some, divided]
      rfl
    · rw [if_neg zero, Decimal.toRat_roundPoints]
      have ratio :
          100 * raw.toRat / most.toRat = (100 * rawCents : ℕ) / mostCents := by
        rw [rawSame, mostSame]
        push_cast
        rw [← mul_div_assoc, div_div_div_cancel_right₀ (by norm_num)]
      rw [exact, ratio] at near
      rw [ratio]
      apply roundCents_eq_of_keepsGrid _ _ near
      · rw [mostSame] at positive
        by_contra none
        obtain rfl : mostCents = 0 := by omega
        norm_num at positive
      · rw [mostSame] at small
        norm_num [tenTo] at small ⊢
        have : (mostCents : ℚ) ≤ 10000000000 := by linarith
        exact_mod_cast this

theorem percentOf_mono {raw more most : ℚ} (less : raw ≤ more)
    (positive : 0 ≤ most) : percentOf raw most ≤ percentOf more most := by
  unfold percentOf
  split
  · exact le_rfl
  · apply roundCents_mono
    gcongr

theorem percentOf_self {most : ℚ} (positive : 0 < most) :
    percentOf most most = 100 := by
  have whole : 100 * most / most = (10000 : ℕ) / 100 := by
    rw [mul_div_cancel_right₀ _ positive.ne']
    norm_num
  rw [percentOf, if_neg positive.ne', whole, roundCents_cents]
  norm_num

theorem percentOf_le {raw most : ℚ} (nonneg : 0 ≤ raw) (less : raw ≤ most) :
    percentOf raw most ≤ 100 := by
  rcases (nonneg.trans less).eq_or_lt with none | positive
  · rw [percentOf, if_pos none.symm]
    norm_num
  · exact (percentOf_mono less positive.le).trans (percentOf_self positive).le

/-! ## Totals -/

/-- What an answer that has been graded adds to the totals. -/
structure Tally.IsFair (tally : Tally) : Prop where
  earned : tally.earned.IsAmount
  most : tally.most.IsAmount
  less : tally.earned.toRat ≤ tally.most.toRat
  earnedScale : tally.earned.scale ≤ 2
  mostScale : tally.most.scale ≤ 2

/-- An amount that an answer earns, and one that it could earn. -/
structure Tally.IsBounded (tally : Tally) : Prop where
  earned : tally.earned.IsAmount
  most : tally.most.IsAmount
  less : tally.earned.toRat ≤ tally.most.toRat

theorem Tally.IsFair.isBounded {tally : Tally} (fair : tally.IsFair) :
    tally.IsBounded :=
  ⟨fair.earned, fair.most, fair.less⟩

/-- What tallies earn together. -/
def earnedSum (tallies : List Tally) : ℚ :=
  (tallies.map fun tally => tally.earned.toRat).sum

/-- What tallies could earn together. -/
def mostSum (tallies : List Tally) : ℚ :=
  (tallies.map fun tally => tally.most.toRat).sum

/-- The totals are the sums of the tallies. -/
structure Totals.Sums (totals : Totals) (tallies : List Tally) : Prop where
  rawScore : totals.rawScore.toRat = earnedSum tallies
  maxScore : totals.maxScore.toRat = mostSum tallies
  percentage :
    totals.percentage.toRat = percentOf (earnedSum tallies) (mostSum tallies)
  rawAmount : totals.rawScore.IsAmount
  maxAmount : totals.maxScore.IsAmount
  percentAmount : totals.percentage.IsAmount

variable {tallies : List Tally}

theorem earnedSum_le (bounded : ∀ tally ∈ tallies, tally.IsBounded) :
    earnedSum tallies ≤ mostSum tallies :=
  List.sum_le_sum fun tally inside => (bounded tally inside).less

theorem earnedSum_nonneg (bounded : ∀ tally ∈ tallies, tally.IsBounded) :
    0 ≤ earnedSum tallies :=
  List.sum_nonneg (List.forall_mem_map.mpr fun tally inside =>
      (bounded tally inside).earned.nonneg)

/-- Bounded tallies that are not too large have their totals. -/
theorem exists_totals? (bounded : ∀ tally ∈ tallies, tally.IsBounded)
    (small : mostSum tallies ≤ tenTo 8) :
    ∃ totals, totals? tallies = some totals ∧ totals.Sums tallies := by
  have large : (tenTo 8 : ℚ) ≤ tenTo 26 := by
    exact_mod_cast tenTo_mono (by decide)
  have less := earnedSum_le bounded
  obtain ⟨raw, rawAdded, rawAmount, rawTotal, -⟩ :=
    Decimal.exists_sum? (List.forall_mem_map.mpr fun tally inside =>
        (bounded tally inside).earned) (fun value _ => value.scale_le) (by
        rw [List.map_map]
        exact less.trans (small.trans large))
  obtain ⟨most, mostAdded, mostAmount, mostTotal, -⟩ :=
    Decimal.exists_sum? (List.forall_mem_map.mpr fun tally inside =>
        (bounded tally inside).most) (fun value _ => value.scale_le) (by
        rw [List.map_map]
        exact small.trans large)
  rw [List.map_map] at rawTotal mostTotal
  have rawSum : raw.toRat = earnedSum tallies := rawTotal
  have maxSum : most.toRat = mostSum tallies := mostTotal
  obtain ⟨percentage, divided, percentAmount, share⟩ := exists_percentage?
    rawAmount mostAmount (by rwa [rawSum, maxSum]) (by rwa [maxSum])
  refine ⟨⟨roundPoints raw, roundPoints most, percentage,
    tallies.any (·.needsManual)⟩, ?_, ?_⟩
  · unfold totals?
    simp only [rawAdded, mostAdded, divided, Option.bind_eq_bind,
      Option.bind_some]
  · refine ⟨?_, ?_, ?_, rawAmount.congr rawAmount.toRat_roundPoints,
      mostAmount.congr mostAmount.toRat_roundPoints, percentAmount⟩
    · rw [rawAmount.toRat_roundPoints, rawSum]
    · rw [mostAmount.toRat_roundPoints, maxSum]
    · rw [share, rawSum, maxSum]

/-! ## Exact totals -/

/-- Totals that are the sums of the tallies, written with two digits, with the
percentage that they make. -/
structure Totals.IsExact (totals : Totals) (tallies : List Tally) : Prop extends
    totals.Sums tallies where
  rawScale : totals.rawScore.scale = 2
  maxScale : totals.maxScore.scale = 2
  percentScale : totals.percentage.scale = 2
  atMost : totals.percentage.toRat ≤ 100
  whole : earnedSum tallies = mostSum tallies → 0 < mostSum tallies →
    totals.percentage.toRat = 100
  review : totals.needsReview = true ↔ ∃ tally ∈ tallies,
    tally.needsManual = true

/-- The same numbers, however they are written, and the same need for a
review. -/
structure Totals.Agree (left right : Totals) : Prop where
  rawScore : left.rawScore.SameValue right.rawScore
  maxScore : left.maxScore.SameValue right.maxScore
  percentage : left.percentage.SameValue right.percentage
  needsReview : left.needsReview = right.needsReview

theorem rounded_of_percentage? {raw most percentage : Decimal}
    (divided : percentage? raw most = some percentage) :
    ∃ share, percentage = roundPoints share := by
  unfold percentage? at divided
  split at divided
  · exact ⟨_, (Option.some.inj divided).symm⟩
  · simp only [Option.bind_eq_bind, Option.bind_eq_some_iff, Option.some.injEq]
      at divided
    obtain ⟨_, -, share, -, rfl⟩ := divided
    exact ⟨share, rfl⟩

theorem rounded_of_totals? {totals : Totals}
    (ended : totals? tallies = some totals) :
    (∃ raw, totals.rawScore = roundPoints raw) ∧
    (∃ most, totals.maxScore = roundPoints most) ∧
    (∃ share, totals.percentage = roundPoints share) ∧
    totals.needsReview = tallies.any (·.needsManual) := by
  simp only [totals?, Option.bind_eq_bind, Option.bind_eq_some_iff,
    Option.some.injEq] at ended
  obtain ⟨raw, -, most, -, percentage, divided, rfl⟩ := ended
  exact ⟨⟨raw, rfl⟩, ⟨most, rfl⟩, rounded_of_percentage? divided, rfl⟩

theorem Totals.Sums.isExact {totals : Totals}
    (bounded : ∀ tally ∈ tallies, tally.IsBounded)
    (small : mostSum tallies ≤ tenTo 8) (ended : totals? tallies = some totals)
    (sums : totals.Sums tallies) : totals.IsExact tallies := by
  have large : (tenTo 8 : ℚ) ≤ tenTo 26 := by
    exact_mod_cast tenTo_mono (by decide)
  have nonneg := earnedSum_nonneg bounded
  have less := earnedSum_le bounded
  have atMost : totals.percentage.toRat ≤ 100 :=
    sums.percentage ▸ percentOf_le nonneg less
  obtain ⟨⟨raw, rawRounded⟩, ⟨most, maxRounded⟩, ⟨share, percentRounded⟩,
      review⟩ :=
    rounded_of_totals? ended
  have scale : ∀ {value rounded : Decimal}, rounded = roundPoints value →
      0 ≤ rounded.toRat → rounded.toRat ≤ tenTo 8 → rounded.scale = 2 := by
    rintro value _ rfl nonneg few
    exact Decimal.scale_roundPoints nonneg (few.trans large)
  exact
    { sums with
      rawScale := scale rawRounded sums.rawAmount.nonneg
        (sums.rawScore.trans_le (less.trans small))
      maxScale :=
        scale maxRounded sums.maxAmount.nonneg (sums.maxScore.trans_le small)
      percentScale := scale percentRounded sums.percentAmount.nonneg
        (atMost.trans (by norm_num [tenTo]))
      atMost
      whole := fun same positive => by
        rw [sums.percentage, same, percentOf_self positive]
      review := by rw [review, List.any_eq_true] }

theorem exists_exact_totals? (bounded : ∀ tally ∈ tallies, tally.IsBounded)
    (small : mostSum tallies ≤ tenTo 8) :
    ∃ totals, totals? tallies = some totals ∧ totals.IsExact tallies := by
  obtain ⟨totals, ended, sums⟩ := exists_totals? bounded small
  exact ⟨totals, ended, sums.isExact bounded small ended⟩

/-- Exact totals of the same tallies in another order agree. -/
theorem Totals.IsExact.agree {totals other : Totals} {others : List Tally}
    (exact : totals.IsExact tallies) (exact' : other.IsExact others)
    (perm : others.Perm tallies) : other.Agree totals := by
  have earned : earnedSum others = earnedSum tallies := (perm.map _).sum_eq
  have most : mostSum others = mostSum tallies := (perm.map _).sum_eq
  refine ⟨?_, ?_, ?_, ?_⟩
  · rw [Decimal.sameValue_iff_toRat, exact.rawScore, exact'.rawScore, earned]
  · rw [Decimal.sameValue_iff_toRat, exact.maxScore, exact'.maxScore, most]
  · rw [Decimal.sameValue_iff_toRat, exact.percentage, exact'.percentage,
      earned, most]
  · rw [Bool.eq_iff_iff, exact.review, exact'.review]
    simp only [perm.mem_iff]

/-- One more earned by an answer is one more earned together. -/
theorem earnedSum_raise {before after : List Tally} {tally : Tally}
    {earned : Decimal} (more : tally.earned ≤ earned) :
    earnedSum (before ++ tally :: after) ≤
      earnedSum (before ++ { tally with earned } :: after) := by
  rw [Decimal.le_iff_toRat] at more
  simp only [earnedSum, List.map_append, List.map_cons, List.sum_append,
    List.sum_cons]
  linarith

/-- Answers that earn amounts up to their maxima have totals that are exact,
also in any other order.  When one of them earns more, neither the score nor the
percentage gets less. -/
theorem totals_are_exact (bounded : ∀ tally ∈ tallies, tally.IsBounded)
    (small : mostSum tallies ≤ 9999999999 / 100) :
    ∃ totals, totals? tallies = some totals ∧ totals.IsExact tallies ∧
      (∀ others, others.Perm tallies → ∃ other, totals? others = some other ∧
        other.Agree totals) ∧ ∀ before tally after earned,
        tallies = before ++ tally :: after → earned.IsAmount →
        tally.earned ≤ earned → earned ≤ tally.most → ∃ raised,
          totals? (before ++ { tally with earned } :: after) = some raised ∧
          totals.rawScore ≤ raised.rawScore ∧
          totals.percentage ≤ raised.percentage := by
  have few : mostSum tallies ≤ tenTo 8 := small.trans (by norm_num [tenTo])
  obtain ⟨totals, ended, exact⟩ := exists_exact_totals? bounded few
  refine ⟨totals, ended, exact, fun others perm => ?_, ?_⟩
  · have most : mostSum others = mostSum tallies := (perm.map _).sum_eq
    obtain ⟨other, ended', exact'⟩ := exists_exact_totals? (fun tally inside =>
        bounded tally (perm.mem_iff.mp inside)) (most.trans_le few)
    exact ⟨other, ended', exact.agree exact' perm⟩
  · rintro before tally after earned rfl amount more less
    have most : mostSum (before ++ { tally with earned } :: after) =
        mostSum (before ++ tally :: after) := by
      simp only [mostSum, List.map_append, List.map_cons]
    have bounded' : ∀ other ∈ before ++ { tally with earned } :: after,
        other.IsBounded := by
      simp only [List.forall_mem_append, List.forall_mem_cons] at bounded ⊢
      obtain ⟨early, here, late⟩ := bounded
      exact ⟨early, ⟨amount, here.most, Decimal.le_iff_toRat.mp less⟩, late⟩
    obtain ⟨raised, ended', exact'⟩ :=
      exists_exact_totals? bounded' (most.trans_le few)
    have higher := @earnedSum_raise before after tally earned more
    refine ⟨raised, ended', ?_, ?_⟩
    · rw [Decimal.le_iff_toRat, exact.rawScore, exact'.rawScore]
      exact higher
    · rw [Decimal.le_iff_toRat, exact.percentage, exact'.percentage, most]
      refine percentOf_mono higher ?_
      exact (earnedSum_nonneg bounded).trans (earnedSum_le bounded)

/-- One point of eight hundred, which is an eighth of a percent and is rounded
up. -/
def oneOfEightHundred : List Tally :=
  ⟨.one, .hundred, false⟩ :: List.replicate 7 ⟨.zero, .hundred, true⟩

theorem totals_are_exact_one_of_eight_hundred :
    (∀ tally ∈ oneOfEightHundred, tally.IsBounded) ∧
    mostSum oneOfEightHundred ≤ 9999999999 / 100 ∧ ∃ totals,
      totals? oneOfEightHundred = some totals ∧
      totals.percentage.toRat = 13 / 100 ∧ totals.needsReview = true := by
  have one : Decimal.one.IsAmount := ⟨100, by decide⟩
  have hundred : Decimal.hundred.IsAmount := ⟨10000, by decide⟩
  have bounded : ∀ tally ∈ oneOfEightHundred, tally.IsBounded := by
    refine List.forall_mem_cons.mpr ⟨⟨one, hundred, ?_⟩, fun tally inside => ?_⟩
    · norm_num [Decimal.toRat_one, Decimal.toRat_hundred]
    · obtain rfl := List.eq_of_mem_replicate inside
      exact ⟨Decimal.isAmount_zero, hundred,
        Decimal.toRat_zero.trans_le hundred.nonneg⟩
  have earned : earnedSum oneOfEightHundred = 1 := by
    norm_num [earnedSum, oneOfEightHundred, Decimal.toRat_one,
      Decimal.toRat_zero]
  have most : mostSum oneOfEightHundred = 800 := by
    norm_num [mostSum, oneOfEightHundred, Decimal.toRat_hundred]
  have small : mostSum oneOfEightHundred ≤ 9999999999 / 100 := by
    rw [most]
    norm_num
  obtain ⟨totals, ended, exact, -⟩ := totals_are_exact bounded small
  refine ⟨bounded, small, totals, ended, ?_,
    exact.review.mpr ⟨_, List.mem_of_getLast? rfl, rfl⟩⟩
  rw [exact.percentage, earned, most, percentOf, if_neg (by norm_num),
    roundCents_of_nonneg (by norm_num), round_eq]
  norm_num

end ExamHall
