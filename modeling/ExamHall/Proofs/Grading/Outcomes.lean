import ExamHall.Grading.Rules
import ExamHall.Proofs.Decimal.Quotient
import ExamHall.Proofs.Decimal.Rounding

/-!
# What an answer can earn

Grading an answer always comes to an outcome, and the points earned are an
amount between zero and the points of the question.  A reviewer's score is
accepted within the same bounds.
-/

namespace ExamHall

/-- An outcome that fits to the points of a question. -/
structure GradeOutcome.Within (points : Decimal) (outcome : GradeOutcome) :
    Prop where
  earned : outcome.earned.IsAmount
  less : outcome.earned.toRat ≤ points.toRat
  scale : outcome.earned.scale ≤ 2

namespace GradeOutcome.Within

variable {points : Decimal}

theorem unanswered (amount : points.IsAmount) :
    GradeOutcome.unanswered.Within points := by
  have zero : GradeOutcome.unanswered.earned.toRat = 0 := by
    rw [GradeOutcome.unanswered, Decimal.isAmount_zero.toRat_roundPoints,
      Decimal.toRat_zero]
  refine ⟨Decimal.isAmount_zero.congr ?_, ?_, Decimal.scale_roundPoints_le _⟩
  · rw [zero, Decimal.toRat_zero]
  · rw [zero]
    exact amount.nonneg

theorem full (amount : points.IsAmount) :
    (GradeOutcome.full points).Within points :=
  ⟨amount.congr amount.toRat_roundPoints, amount.toRat_roundPoints.le,
    Decimal.scale_roundPoints_le points⟩

/-- A part of the points is not more than the points, even after rounding. -/
theorem exists_scaled? (amount : points.IsAmount)
    (small : points.toRat ≤ tenTo 26) {part : Decimal}
    (nonneg : 0 ≤ part.toRat) (share : part.toRat ≤ 1) :
    ∃ outcome, GradeOutcome.scaled? points part = some outcome ∧
      outcome.Within points := by
  have less : points.toRat * part.toRat ≤ points.toRat :=
    mul_le_of_le_one_right amount.nonneg share
  have room : points.toRat * part.toRat * tenTo 2 ≤ tenTo Decimal.maxScale := by
    norm_num [tenTo, Decimal.maxScale] at small ⊢
    linarith
  obtain ⟨product, multiplied, -, keeps⟩ :=
    Decimal.exists_mul? amount.nonneg nonneg (by decide) room
  have positive := keeps.nonneg (mul_nonneg amount.nonneg nonneg)
  obtain ⟨cents, same⟩ := Decimal.isAmount_iff.mp amount
  have bounded : product.toRat ≤ points.toRat := by
    have hundred : (tenTo 2 : ℚ) = 100 := by norm_num [tenTo]
    have onGrid := (keeps cents).1
    rw [hundred, ← same] at onGrid
    exact onGrid less
  refine ⟨_, by rw [GradeOutcome.scaled?, multiplied, Option.map_some],
    Decimal.isAmount_roundPoints positive, ?_,
    Decimal.scale_roundPoints_le product⟩
  calc (roundPoints product).toRat = roundCents product.toRat :=
    Decimal.toRat_roundPoints product
    _ ≤ roundCents points.toRat := roundCents_mono bounded
    _ = points.toRat := by
      rw [← Decimal.toRat_roundPoints, amount.toRat_roundPoints]

end GradeOutcome.Within

namespace Grading

variable {points : Decimal}

/-- A share of a whole is a number from zero to one, calculated with all the
digits that a decimal has. -/
theorem exists_share? {part whole : Nat} (positive : 0 < whole)
    (less : part ≤ whole) :
    ∃ share, share? part whole = some share ∧ 0 ≤ share.toRat ∧
      share.toRat ≤ 1 ∧
      KeepsGrid Decimal.maxScale (part / whole) share.toRat := by
  have room :
      part * tenTo Decimal.maxScale ≤ tenTo Decimal.maxScale * whole := by
    rw [Nat.mul_comm]
    exact Nat.mul_le_mul_left _ less
  have even : part * tenTo 0 / whole < Decimal.limit := by
    rw [tenTo_zero, Nat.mul_one]
    exact Nat.lt_of_le_of_lt (Nat.div_le_of_le_mul (whole.mul_one.symm ▸ less))
      (by decide)
  obtain ⟨share, found, keeps⟩ :=
    Decimal.exists_quotient? positive (Nat.zero_le _) even (Nat.le_refl _) room
  refine ⟨share, found, keeps.nonneg (by positivity), ?_, keeps⟩
  have one : (part / whole : ℚ) ≤ (1 : ℕ) := by
    rw [Nat.cast_one, div_le_one (Nat.cast_pos.mpr positive)]
    exact_mod_cast less
  exact_mod_cast keeps.le_natCast one

theorem singleChoice_within (amount : points.IsAmount)
    (options : List ChoiceOption) (chosen : String) :
    (singleChoice options points chosen).Within points := by
  unfold singleChoice
  split
  · split
    · exact .full amount
    · exact .unanswered amount
  · exact .unanswered amount

theorem trueFalse_within (amount : points.IsAmount) (key : TruthKey)
    (given : String) : (trueFalse key points given).Within points := by
  unfold trueFalse
  split
  · exact .full amount
  · exact .unanswered amount

theorem ordering_within (amount : points.IsAmount)
    (sequence given : List String) :
    (ordering sequence points given).Within points := by
  unfold ordering
  split
  · exact .full amount
  · exact .unanswered amount

theorem exists_matching? (amount : points.IsAmount)
    (small : points.toRat ≤ tenTo 26)
    (pairs : List MatchingPair) (given : Pairing) :
    ∃ outcome, matching? pairs points given = some outcome ∧
      outcome.Within points := by
  unfold matching?
  dsimp only
  split
  · exact ⟨_, rfl, .unanswered amount⟩
  next some =>
    split
    · exact ⟨_, rfl, .full amount⟩
    · have positive : 0 < pairs.length := by
        rw [List.length_pos_iff]
        simpa using some
      have less : (matchedPairs pairs given).length ≤ pairs.length :=
        List.length_filter_le _ pairs
      obtain ⟨share, found, nonneg, one, -⟩ := exists_share? positive less
      obtain ⟨outcome, scaled, within⟩ :=
        GradeOutcome.Within.exists_scaled? amount small nonneg one
      refine ⟨{ outcome with
          isCorrect := false,
          isPartial := decide (0 < (matchedPairs pairs given).length) },
        ?_, within.earned, within.less, within.scale⟩
      simp only [found, scaled, Option.bind_eq_bind, Option.bind_some]

theorem hits_le {correct selected : List String}
    (distinctSelected : selected.Nodup) :
    (selected.filter (correct.contains ·)).length ≤ correct.length := by
  apply List.Subperm.length_le
  apply (distinctSelected.sublist List.filter_sublist).subperm
  intro id inside
  exact List.contains_iff_mem.mp (List.mem_filter.mp inside).2

theorem exists_multiChoice? (amount : points.IsAmount)
    (small : points.toRat ≤ tenTo 26) (options : List ChoiceOption)
    (selected : List String) :
    ∃ outcome, multiChoice? options points selected = some outcome ∧
      outcome.Within points := by
  unfold multiChoice?
  dsimp only
  split
  · exact ⟨_, rfl, .full amount⟩
  · have positive : 0 < Nat.max (distinct (correctIds options)).length 1 :=
      Nat.lt_of_lt_of_le Nat.one_pos (Nat.le_max_right _ _)
    have hits := @hits_le (distinct (correctIds options)) (distinct selected)
      (nodup_distinct selected)
    have less := ((Nat.sub_le _ ((distinct selected).filter fun id =>
        !(distinct (correctIds options)).contains id).length).trans hits).trans
      (Nat.le_max_left _ 1)
    obtain ⟨share, found, nonneg, one, -⟩ := exists_share? positive less
    obtain ⟨outcome, scaled, within⟩ :=
      GradeOutcome.Within.exists_scaled? amount small nonneg one
    refine ⟨{ outcome with isCorrect := false }, ?_, within.earned, within.less,
      within.scale⟩
    simp only [selectionShare?, found, scaled, Option.bind_eq_bind,
      Option.bind_some]

/-- Every answer to a question has an outcome within its points. -/
theorem exists_grade? (amount : points.IsAmount)
    (small : points.toRat ≤ tenTo 26) (payload : Payload)
    (answer : Option Answer) :
    ∃ outcome, grade? payload points answer = some outcome ∧
      outcome.Within points := by
  have nothing := GradeOutcome.Within.unanswered amount
  unfold grade?
  split
  · exact ⟨_, rfl, nothing⟩
  · split
    · exact ⟨_, rfl, singleChoice_within amount _ _⟩
    · exact exists_multiChoice? amount small _ _
    · exact ⟨_, rfl, trueFalse_within amount _ _⟩
    · exact exists_matching? amount small _ _
    · exact ⟨_, rfl, ordering_within amount _ _⟩
    · exact ⟨_, rfl, nothing.earned, nothing.less, nothing.scale⟩
    · exact ⟨_, rfl, nothing.earned, nothing.less, nothing.scale⟩
    · exact ⟨_, rfl, nothing.earned, nothing.less, nothing.scale⟩
    · exact ⟨_, rfl, nothing⟩

end Grading

/-! ## Scores of reviewers -/

/-- The outcome of a reviewer's score that lies within the points of the
question. -/
structure GradeOutcome.ScoredBy (points score : Decimal)
    (outcome : GradeOutcome) : Prop where
  earned : outcome.earned = roundPoints score
  isCorrect : outcome.isCorrect = true ↔
    (roundPoints score).toRat = (roundPoints points).toRat
  isPartial : outcome.isPartial = true ↔ 0 < (roundPoints score).toRat ∧
    (roundPoints score).toRat < (roundPoints points).toRat
  needsManual : outcome.needsManual = false

/-- Whether a reviewer's score, after rounding, is between zero and the rounded
points. -/
def GradeOutcome.IsFair (points score : Decimal) : Prop :=
  0 ≤ (roundPoints score).toRat ∧
    (roundPoints score).toRat ≤ (roundPoints points).toRat

/-- A reviewer's score is accepted if it is fair, and refused otherwise. -/
theorem manualOutcome_cases (points score : Decimal) :
    (GradeOutcome.IsFair points score ∧
      ∃ outcome, manualOutcome points score = .ok outcome ∧
        outcome.ScoredBy points score) ∨
    (¬GradeOutcome.IsFair points score ∧ manualOutcome points score =
      .error ⟨roundPoints score, roundPoints points⟩) := by
  unfold manualOutcome
  dsimp only
  split
  · next unfair =>
      rw [Decimal.lt_iff_toRat, Decimal.lt_iff_toRat, Decimal.toRat_zero,
        ← not_le, ← not_le, ← not_and_or] at unfair
      exact .inr ⟨unfair, rfl⟩
  · next fair =>
      rw [not_or, Decimal.lt_iff_toRat, Decimal.lt_iff_toRat, not_lt, not_lt,
        Decimal.toRat_zero] at fair
      refine .inl ⟨fair, _, rfl, rfl, ?_, ?_, rfl⟩
      · rw [decide_eq_true_eq, Decimal.sameValue_iff_toRat]
      · rw [Bool.and_eq_true, decide_eq_true_eq, decide_eq_true_eq,
          Decimal.lt_iff_toRat, Decimal.lt_iff_toRat, Decimal.toRat_zero]

theorem isFair_of_manualOutcome {points score : Decimal}
    {outcome : GradeOutcome}
    (accepted : manualOutcome points score = .ok outcome) :
    GradeOutcome.IsFair points score ∧ outcome.ScoredBy points score := by
  rcases manualOutcome_cases points score with ⟨fair, given, ended, scored⟩
    | ⟨-, refused⟩
  · obtain rfl := Except.ok.inj (ended.symm.trans accepted)
    exact ⟨fair, scored⟩
  · cases refused.symm.trans accepted

/-- A reviewer's score that is accepted is within the points of the question,
and needs no other review. -/
theorem manualOutcome_within {points score : Decimal} {outcome : GradeOutcome}
    (amount : points.IsAmount)
    (accepted : manualOutcome points score = .ok outcome) :
    outcome.Within points ∧ outcome.needsManual = false := by
  obtain ⟨⟨nonneg, less⟩, scored⟩ := isFair_of_manualOutcome accepted
  rw [amount.toRat_roundPoints] at less
  refine ⟨⟨?_, ?_, ?_⟩, scored.needsManual⟩ <;> rw [scored.earned]
  · exact Decimal.isAmount_of_nonneg_roundPoints nonneg
  · exact less
  · exact Decimal.scale_roundPoints_le score

/-- Points are rounded to the nearest hundredth, of two of them to the one
farther from zero, so that points with at most two fractional digits keep their
value, and they are written with two fractional digits wherever these fit.
Rounding again changes nothing, and rounding keeps signs and the order.  A
reviewer's score is accepted exactly if, after rounding, it is between zero and
the points; it is correct if it is all of the points, and partial if it is
strictly between. -/
theorem points_are_rounded_to_cents :
    (∀ value : Decimal, IsNearestCent value.toRat (roundPoints value).toRat ∧
      (value.scale ≤ 2 → (roundPoints value).toRat = value.toRat) ∧
      ((roundPoints value).scale = 2 ↔ 100 * |(roundPoints value).toRat| <
        Decimal.limit) ∧ roundPoints (roundPoints value) = roundPoints value) ∧
    (∀ value opposite : Decimal, opposite.toRat = -value.toRat →
      (roundPoints opposite).toRat = -(roundPoints value).toRat) ∧
    (∀ left right : Decimal, left.toRat ≤ right.toRat →
      (roundPoints left).toRat ≤ (roundPoints right).toRat) ∧
    ∀ points score : Decimal,
      ((∃ outcome, manualOutcome points score = .ok outcome) ↔
        GradeOutcome.IsFair points score) ∧ ∀ outcome,
        manualOutcome points score = .ok outcome →
        outcome.ScoredBy points score := by
  have nearest : ∀ value : Decimal,
    IsNearestCent value.toRat (roundPoints value).toRat := fun value =>
      Decimal.toRat_roundPoints value ▸ isNearestCent_roundCents value.toRat
  refine ⟨fun value => ⟨nearest value, fun short => ?_,
    Decimal.scale_roundPoints_iff value, Decimal.roundPoints_roundPoints value⟩,
    fun value opposite mirrored => ?_, fun left right less => ?_,
    fun points score => ⟨⟨?_, fun fair => ?_⟩, fun outcome accepted => ?_⟩⟩
  · rw [roundPoints, Decimal.widenTo, Decimal.toRat_widen,
      Decimal.roundTo_of_scale_le short]
  · exact (nearest opposite).unique (mirrored ▸ (nearest value).neg)
  · exact (nearest left).mono (nearest right) less
  · rintro ⟨outcome, accepted⟩
    exact (isFair_of_manualOutcome accepted).1
  · rcases manualOutcome_cases points score with ⟨-, outcome, accepted, -⟩
      | ⟨unfair, -⟩
    · exact ⟨outcome, accepted⟩
    · exact absurd fair unfair
  · exact (isFair_of_manualOutcome accepted).2

end ExamHall
