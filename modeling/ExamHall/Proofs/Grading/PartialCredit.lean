import ExamHall.Proofs.Decimal.Order
import ExamHall.Proofs.Grading.Meaning

/-!
# Partial credit

A choice of several options and a matching can earn a share of the points.  The
share is a quotient of two counts, calculated with the digits that decimals
have; its product with the points is calculated in the same way and then rounded
to hundredths.  The points earned are nevertheless those that the exact product
would give, since counts of things that fit into memory are too small for a
product that is no half cent to come near to one.  Only a half cent can be
missed, when what is calculated falls short of it.

The calculation keeps the order of shares, whatever the counts are.  So more
that is right never earns less, and more that is wrong never earns more.
-/

namespace ExamHall.Grading

/-- Whether memory has room for a list of that many items, if each of them takes
two texts of three words. -/
def FitsMemory (count : Nat) : Prop :=
  48 * count < twoTo 63

instance (count : Nat) : Decidable (FitsMemory count) :=
  inferInstanceAs (Decidable (48 * count < twoTo 63))

/-- Whether the share of the points, as it is calculated, is less than what it
is worth. -/
def FallsShort (points : Decimal) (part whole : Nat) (worth : ℚ) : Prop :=
  ∃ share product, share? part whole = some share ∧
    points.mul? share = some product ∧ product.toRat < worth

/-- The points earned are what the share is worth, rounded to hundredths, unless
that is a half cent of which the calculation falls short. -/
def EarnsShare (points : Decimal) (part whole : Nat) (worth : ℚ)
    (earned : Decimal) : Prop :=
  earned.toRat = roundCents worth ∨ IsHalfCent worth ∧
    FallsShort points part whole worth

/-- The options that are to be chosen. -/
def correctSet (options : List ChoiceOption) : Finset String :=
  (correctIds options).toFinset

/-- How many correct options a selection has, less its wrong ones, but not less
than none. -/
def selectionPart (correct chosen : Finset String) : Nat :=
  (correct ∩ chosen).card - (chosen \ correct).card

/-- What a selection is worth: its correct options less its wrong ones, out of
all correct ones. -/
def selectionWorth (points : Decimal) (correct chosen : Finset String) : ℚ :=
  max 0 (((correct ∩ chosen).card - (chosen \ correct).card : ℚ) /
      max 1 (correct.card : ℚ)) * points.toRat

/-- How many pairs a matching has right. -/
def matchingPart (pairs : List MatchingPair) (given : Pairing) : Nat :=
  pairs.countP fun pair => given.find? pair.left == some pair.right

/-- What a matching is worth: the pairs matched out of all pairs. -/
def matchingWorth (points : Decimal) (pairs : List MatchingPair)
    (given : Pairing) : ℚ :=
  matchingPart pairs given / pairs.length * points.toRat

variable {points : Decimal}

/-! ## Shares of the points -/

section Shares

variable {part whole : Nat}

/-- A share of the points is calculated to twenty digits. -/
theorem exists_product? (amount : points.IsAmount)
    (small : points.toRat ≤ tenTo 8) (positive : 0 < whole)
    (less : part ≤ whole) :
    ∃ share product, share? part whole = some share ∧
      points.mul? share = some product ∧ 0 ≤ points.toRat * share.toRat ∧
      |share.toRat - part / whole| ≤ 1 / tenTo Decimal.maxScale ∧
      KeepsGrid 20 (points.toRat * share.toRat) product.toRat := by
  obtain ⟨share, found, nonneg, one, keeps⟩ := exists_share? positive less
  have room : points.toRat * share.toRat * tenTo 20 ≤
      tenTo Decimal.maxScale := by
    have : points.toRat * share.toRat ≤ tenTo 8 :=
      (mul_le_of_le_one_right amount.nonneg one).trans small
    norm_num [tenTo, Decimal.maxScale] at this ⊢
    linarith
  obtain ⟨product, multiplied, -, near⟩ :=
    Decimal.exists_mul? amount.nonneg nonneg (by decide) room
  exact ⟨share, product, found, multiplied, mul_nonneg amount.nonneg nonneg,
    keeps.abs_sub_le (by positivity), near⟩

/-- What a share of the points is calculated to be is nearer to its worth than
any half cent that is not its worth. -/
theorem exists_near_product? (amount : points.IsAmount)
    (small : points.toRat ≤ tenTo 8) (positive : 0 < whole)
    (less : part ≤ whole) (fits : FitsMemory whole) :
    ∃ share product, share? part whole = some share ∧
      points.mul? share = some product ∧ 0 ≤ product.toRat ∧
      |product.toRat - part / whole * points.toRat| < 1 / (200 * whole) := by
  obtain ⟨share, product, found, multiplied, nonneg, shareNear, keeps⟩ :=
    exists_product? amount small positive less
  refine ⟨share, product, found, multiplied, keeps.nonneg nonneg, ?_⟩
  have productNear := keeps.abs_sub_le nonneg
  have pointsNear : |points.toRat * share.toRat - part / whole * points.toRat| ≤
      1 / tenTo 20 := by
    rw [mul_comm (part / whole : ℚ), ← mul_sub, abs_mul,
      abs_of_nonneg amount.nonneg]
    calc points.toRat * |share.toRat - part / whole|
        ≤ tenTo 8 * (1 / tenTo Decimal.maxScale) :=
          mul_le_mul small shareNear (abs_nonneg _) (cast_tenTo_pos 8).le
      _ = 1 / tenTo 20 := by norm_num [tenTo, Decimal.maxScale]
  have few : (whole : ℚ) < 10 ^ 18 / 5 := by
    have : 48 * whole < 2 ^ 63 := fits
    have : (48 * whole : ℚ) < 2 ^ 63 := by exact_mod_cast this
    linarith
  calc |product.toRat - part / whole * points.toRat|
      ≤ |product.toRat - points.toRat * share.toRat| +
          |points.toRat * share.toRat - part / whole * points.toRat| :=
            abs_sub_le _ _ _
    _ ≤ 1 / tenTo 20 + 1 / tenTo 20 := add_le_add productNear pointsNear
    _ = 1 / (5 * 10 ^ 19) := by norm_num [tenTo]
    _ < 1 / (200 * whole) := by
        apply one_div_lt_one_div_of_lt
        · have : (0 : ℚ) < whole := Nat.cast_pos.mpr positive
          positivity
        · linarith

theorem earnsShare_scaled? (amount : points.IsAmount)
    (small : points.toRat ≤ tenTo 8) (positive : 0 < whole)
    (less : part ≤ whole) (fits : FitsMemory whole) :
    ∃ share outcome, share? part whole = some share ∧
      GradeOutcome.scaled? points share = some outcome ∧
      EarnsShare points part whole
        (part / whole * points.toRat) outcome.earned := by
  obtain ⟨share, product, found, multiplied, nonneg, near⟩ :=
    exists_near_product? amount small positive less fits
  refine ⟨share, _,
    found, by rw [GradeOutcome.scaled?, multiplied, Option.map_some], ?_⟩
  obtain ⟨cents, same⟩ := Decimal.isAmount_iff.mp amount
  have fraction : 100 * (part / whole * points.toRat : ℚ) =
      (part * cents : ℕ) / whole := by
    rw [same]
    push_cast
    ring
  by_cases short : IsHalfCent (part / whole * points.toRat) ∧
      FallsShort points part whole (part / whole * points.toRat)
  · exact .inr short
  · refine .inl ((Decimal.toRat_roundPoints product).trans ?_)
    refine roundCents_of_near positive fraction nonneg near fun half => ?_
    by_contra below
    exact short ⟨half, share, product, found, multiplied, not_le.mp below⟩

/-- The calculation falls short of a half cent only if the share itself is
rounded down. -/
theorem lt_of_fallsShort (amount : points.IsAmount)
    (small : points.toRat ≤ tenTo 8) (positive : 0 < whole)
    (less : part ≤ whole) (half : IsHalfCent (part / whole * points.toRat))
    (short : FallsShort points part whole (part / whole * points.toRat)) :
    ∃ share, share? part whole = some share ∧ share.toRat < part / whole := by
  obtain ⟨share, product, found, multiplied, -, -, keeps⟩ :=
    exists_product? amount small positive less
  obtain ⟨_, _, found', multiplied', below⟩ := short
  obtain rfl := Option.some.inj (found.symm.trans found')
  obtain rfl := Option.some.inj (multiplied.symm.trans multiplied')
  refine ⟨share, found, ?_⟩
  by_contra large
  obtain ⟨cents, tie⟩ := half
  have onGrid : (part / whole * points.toRat : ℚ) =
      ((2 * cents + 1) * (5 * 10 ^ 17) : ℕ) / tenTo 20 := by
    rw [tie]
    push_cast
    norm_num [tenTo]
    ring
  have reached : part / whole * points.toRat ≤ points.toRat * share.toRat := by
    rw [mul_comm]
    exact mul_le_mul_of_nonneg_left (not_lt.mp large) amount.nonneg
  have held := (keeps ((2 * cents + 1) * (5 * 10 ^ 17))).2
  rw [← onGrid] at held
  exact below.not_ge (held reached)

end Shares

/-! ## Choices of several options -/

theorem toFinset_distinct (items : List String) :
    (distinct items).toFinset = items.toFinset := by
  ext item
  rw [List.mem_toFinset, List.mem_toFinset, mem_distinct]

theorem sameMembers_distinct_iff {left right : List String} :
    sameMembers (distinct left) (distinct right) = true ↔
      left.toFinset = right.toFinset := by
  simp only [sameMembers_iff, mem_distinct, Finset.ext_iff, List.mem_toFinset]

theorem length_distinct (items : List String) :
    (distinct items).length = items.toFinset.card := by
  rw [← List.toFinset_card_of_nodup (nodup_distinct items), toFinset_distinct]

/-- The members of a list without repetitions that pass a test are counted by
their set. -/
theorem length_filter_distinct (items : List String) (test : String → Bool) :
    ((distinct items).filter test).length =
      (items.toFinset.filter fun item => test item).card := by
  rw [← List.toFinset_card_of_nodup ((nodup_distinct items).filter _),
    List.toFinset_filter, toFinset_distinct]

/-- The share of a selection in terms of sets. -/
theorem selectionShare?_eq (correct selected : List String) :
    selectionShare? (distinct correct) (distinct selected) =
      share? (selectionPart correct.toFinset selected.toFinset)
        (max 1 correct.toFinset.card) := by
  have hits :
      (selected.toFinset.filter fun id => (distinct correct).contains id) =
        correct.toFinset ∩ selected.toFinset := by
    ext id
    simp [and_comm]
  have misses :
      (selected.toFinset.filter fun id => !(distinct correct).contains id) =
        selected.toFinset \ correct.toFinset := by
    ext id
    simp
  rw [selectionShare?, length_filter_distinct, length_filter_distinct,
    length_distinct, hits, misses]
  exact congrArg (share? _) (Nat.max_comm _ _)

theorem selectionPart_le (correct chosen : Finset String) :
    selectionPart correct chosen ≤ max 1 correct.card :=
  calc selectionPart correct chosen ≤ (correct ∩ chosen).card := Nat.sub_le _ _
    _ ≤ correct.card := Finset.card_le_card Finset.inter_subset_left
    _ ≤ max 1 correct.card := Nat.le_max_right _ _

theorem fitsMemory_correctSet {options : List ChoiceOption}
    (fits : FitsMemory options.length) :
    FitsMemory (max 1 (correctSet options).card) := by
  have few : (correctSet options).card ≤ options.length := by
    refine (List.toFinset_card_le _).trans ?_
    rw [correctIds, List.length_map]
    exact List.length_filter_le _ options
  have fits : 48 * options.length < 2 ^ 63 := fits
  change 48 * max 1 (correctSet options).card < 2 ^ 63
  omega

/-- Wrong options can use up what the correct ones bring, but not more. -/
theorem selectionWorth_eq (points : Decimal) (correct chosen : Finset String) :
    selectionWorth points correct chosen =
      selectionPart correct chosen / (max 1 correct.card : ℕ) *
      points.toRat := by
  have positive : (0 : ℚ) ≤ max 1 (correct.card : ℚ) :=
    zero_le_one.trans (le_max_left _ _)
  rw [selectionWorth, selectionPart, Nat.cast_max, Nat.cast_one]
  congr 1
  rcases Nat.le_total (chosen \ correct).card (correct ∩ chosen).card
    with more | fewer
  · have more' : ((chosen \ correct).card : ℚ) ≤ (correct ∩ chosen).card := by
      exact_mod_cast more
    rw [Nat.cast_sub more, max_eq_right (div_nonneg (by linarith) positive)]
  · have fewer' : ((correct ∩ chosen).card : ℚ) ≤ (chosen \ correct).card := by
      exact_mod_cast fewer
    rw [Nat.sub_eq_zero_of_le fewer, Nat.cast_zero, zero_div,
      max_eq_left (div_nonpos_of_nonpos_of_nonneg (by linarith) positive)]

/-- The rule for choices in terms of sets. -/
theorem multiChoice?_eq (options : List ChoiceOption) (points : Decimal)
    (selected : List String) :
    multiChoice? options points selected =
      if selected.toFinset = correctSet options then some (.full points)
      else
        ((share? (selectionPart (correctSet options) selected.toFinset) (max 1
            (correctSet options).card)).bind (GradeOutcome.scaled? points)).map
          fun outcome => { outcome with isCorrect := false } := by
  simp only [multiChoice?, sameMembers_distinct_iff, selectionShare?_eq,
    correctSet, Option.bind_eq_bind, Option.map_eq_bind, Option.bind_assoc,
    Function.comp_def]

theorem earnsShare_multiChoice? (amount : points.IsAmount)
    (small : points.toRat ≤ tenTo 8) {options : List ChoiceOption}
    (fits : FitsMemory options.length) {selected : List String}
    (others : selected.toFinset ≠ correctSet options) :
    ∃ outcome, multiChoice? options points selected = some outcome ∧
      EarnsShare points (selectionPart (correctSet options) selected.toFinset)
        (max 1 (correctSet options).card)
        (selectionWorth points (correctSet options) selected.toFinset)
        outcome.earned := by
  have positive : 0 < max 1 (correctSet options).card := by omega
  obtain ⟨share, outcome, found, scaled, earns⟩ :=
    earnsShare_scaled? amount small positive
      (selectionPart_le _ selected.toFinset) (fitsMemory_correctSet fits)
  rw [← selectionWorth_eq] at earns
  refine ⟨{ outcome with isCorrect := false }, ?_, earns⟩
  rw [multiChoice?_eq, if_neg others, found, Option.bind_some, scaled,
    Option.map_some]

theorem multiChoice?_of_correctSet {options : List ChoiceOption}
    {selected : List String} (right : selected.toFinset = correctSet options) :
    multiChoice? options points selected = some (.full points) := by
  rw [multiChoice?_eq, if_pos right]

/-! ## Matchings -/

theorem matchingPart_le (pairs : List MatchingPair) (given : Pairing) :
    matchingPart pairs given ≤ pairs.length :=
  List.countP_le_length

/-- The rule for matchings in terms of the number of pairs that are right. -/
theorem matching?_eq (pairs : List MatchingPair) (points : Decimal)
    (given : Pairing) :
    matching? pairs points given = if pairs = [] then some .unanswered
      else if matchingPart pairs given = pairs.length then some (.full points)
      else
        ((share? (matchingPart pairs given) pairs.length).bind
          (GradeOutcome.scaled? points)).map fun outcome =>
            { outcome with isCorrect := false, isPartial :=
                             decide (0 < matchingPart pairs given) } := by
  have count : (matchedPairs pairs given).length = matchingPart pairs given :=
    List.countP_eq_length_filter.symm
  simp only [matching?, count, List.isEmpty_iff, Option.bind_eq_bind,
    Option.map_eq_bind, Option.bind_assoc, Function.comp_def]

theorem earnsShare_matching? (amount : points.IsAmount)
    (small : points.toRat ≤ tenTo 8) {pairs : List MatchingPair}
    (nonempty : pairs ≠ []) (fits : FitsMemory pairs.length) (given : Pairing) :
    ∃ outcome, matching? pairs points given = some outcome ∧
      EarnsShare points (matchingPart pairs given) pairs.length
        (matchingWorth points pairs given)
        outcome.earned := by
  have positive : 0 < pairs.length := List.length_pos_of_ne_nil nonempty
  rw [matching?_eq, if_neg nonempty]
  split
  · next all =>
      refine ⟨_, rfl, .inl ?_⟩
      have same : matchingWorth points pairs given = points.toRat := by
        rw [matchingWorth, all,
          div_self (Nat.cast_ne_zero.mpr positive.ne'), one_mul]
      rw [same]
      exact Decimal.toRat_roundPoints points
  · obtain ⟨share, outcome, found, scaled, earns⟩ :=
      earnsShare_scaled? amount small positive
        (matchingPart_le pairs given) fits
    refine ⟨{ outcome with
        isCorrect := false,
        isPartial := decide (0 < matchingPart pairs given) }, ?_, earns⟩
    rw [found, Option.bind_some, scaled, Option.map_some]

/-! ## Grades -/

/-- A selection of exactly the options to be chosen earns all points, also if
there are none.  Any other selection and any matching earn their exact share of
the points, rounded to hundredths.  Half cents of which the calculation falls
short are left open. -/
theorem partial_credit_is_rounded (amount : points.IsAmount)
    (small : points.toRat ≤ 9999999999 / 100) :
    (∀ options selected, FitsMemory options.length → ∃ outcome,
      grade? (.multiChoice options) points (some (.choices selected)) =
        some outcome ∧
      if selected.toFinset = correctSet options then
        outcome.earned.toRat = points.toRat
      else
        EarnsShare points
          (selectionPart (correctSet options) selected.toFinset)
          (max 1 (correctSet options).card)
          (selectionWorth points (correctSet options) selected.toFinset)
          outcome.earned) ∧
    ∀ pairs given, pairs ≠ [] → FitsMemory pairs.length → ∃ outcome,
      grade? (.matching pairs) points (some (.pairs given)) = some outcome ∧
      EarnsShare points (matchingPart pairs given) pairs.length
        (matchingWorth points pairs given) outcome.earned := by
  have few : points.toRat ≤ tenTo 8 := by
    norm_num [tenTo]
    linarith
  constructor
  · intro options selected fits
    by_cases right : selected.toFinset = correctSet options
    · refine ⟨.full points, multiChoice?_of_correctSet right, ?_⟩
      rw [if_pos right]
      exact amount.toRat_roundPoints
    · obtain ⟨outcome, graded, earns⟩ :=
        earnsShare_multiChoice? amount few fits right
      refine ⟨outcome, graded, ?_⟩
      rwa [if_neg right]
  · intro pairs given nonempty fits
    exact earnsShare_matching? amount few nonempty fits given

/-- Four points. -/
def fourPoints : Decimal := ⟨false, 400, 2, by decide, by decide⟩

/-- Letters that belong to themselves. -/
def letterPairs (letters : List String) : List MatchingPair :=
  letters.map fun letter => ⟨letter, letter⟩

/-- The answer that has these letters right and says nothing about others. -/
def lettersMatched (letters : List String) : Pairing :=
  .ofList (letters.map fun letter => (letter, letter))

/-- Two of three pairs earn two thirds of four points. -/
theorem partial_credit_is_rounded_thirds :
    fourPoints.IsAmount ∧ fourPoints.toRat ≤ 9999999999 / 100 ∧
    letterPairs ["a", "b", "c"] ≠ [] ∧
    FitsMemory (letterPairs ["a", "b", "c"]).length ∧
    ∃ outcome, grade? (.matching (letterPairs ["a", "b", "c"])) fourPoints
        (some (.pairs (lettersMatched ["a", "b"]))) = some outcome ∧
      outcome.earned.toRat = 267 / 100 := by
  have value : fourPoints.toRat = 4 := by
    norm_num [Decimal.toRat, Decimal.coefficient, fourPoints, tenTo]
  have amount : fourPoints.IsAmount := ⟨400, by decide⟩
  have small : fourPoints.toRat ≤ 9999999999 / 100 := by
    rw [value]
    norm_num
  have nonempty : letterPairs ["a", "b", "c"] ≠ [] := by decide
  have fits : FitsMemory (letterPairs ["a", "b", "c"]).length := by decide
  obtain ⟨outcome, graded, earns⟩ := (partial_credit_is_rounded amount small).2
    (letterPairs ["a", "b", "c"]) (lettersMatched ["a", "b"]) nonempty fits
  refine ⟨amount, small, nonempty, fits, outcome, graded, ?_⟩
  have part : matchingPart (letterPairs ["a", "b", "c"])
      (lettersMatched ["a", "b"]) = 2 := by decide +kernel
  have worth : matchingWorth fourPoints (letterPairs ["a", "b", "c"])
      (lettersMatched ["a", "b"]) = 8 / 3 := by
    rw [matchingWorth, part, value]
    norm_num [letterPairs]
  rw [EarnsShare, worth] at earns
  rcases earns with rounded | ⟨⟨cents, half⟩, -⟩
  · rw [rounded, roundCents_of_nonneg (by norm_num), round_eq]
    norm_num
  · rw [div_eq_div_iff (by norm_num) (by norm_num)] at half
    have : 8 * 200 = (2 * cents + 1) * 3 := by exact_mod_cast half
    omega

/-- Three points and three hundredths. -/
def oddPoints : Decimal := ⟨false, 303, 2, by decide, by decide⟩

/-- Five of six pairs are worth a half cent more than they earn, and a selection
of nothing earns all points where there is nothing to be chosen. -/
theorem partial_credit_is_not_always_rounded_up :
    (∃ outcome,
      grade? (.matching (letterPairs ["a", "b", "c", "d", "e", "f"])) oddPoints
        (some (.pairs (lettersMatched ["a", "b", "c", "d", "e"]))) =
          some outcome ∧
      outcome.earned.toRat = 252 / 100 ∧
      roundCents
        (matchingWorth oddPoints (letterPairs ["a", "b", "c", "d", "e", "f"])
          (lettersMatched ["a", "b", "c", "d", "e"])) = 253 / 100) ∧
    ∃ outcome,
      grade? (.multiChoice [⟨"a", "A", false⟩, ⟨"b", "B", false⟩]) fourPoints
        (some (.choices [])) = some outcome ∧
      outcome.earned.toRat = 4 ∧
      roundCents (selectionWorth fourPoints
        (correctSet [⟨"a", "A", false⟩, ⟨"b", "B", false⟩]) ∅) = 0 := by
  constructor
  · have graded :
      grade? (.matching (letterPairs ["a", "b", "c", "d", "e", "f"])) oddPoints
        (some (.pairs (lettersMatched ["a", "b", "c", "d", "e"]))) =
        some ⟨⟨false, 252, 2, by decide, by decide⟩, false, true, false⟩ := by
      decide +kernel
    refine ⟨_, graded, ?_, ?_⟩
    · norm_num [Decimal.toRat, Decimal.coefficient, tenTo]
    · have part : matchingPart (letterPairs ["a", "b", "c", "d", "e", "f"])
          (lettersMatched ["a", "b", "c", "d", "e"]) = 5 := by
        decide +kernel
      have worth :
          matchingWorth oddPoints (letterPairs ["a", "b", "c", "d", "e", "f"])
            (lettersMatched ["a", "b", "c", "d", "e"]) = 505 / 200 := by
        rw [matchingWorth, part]
        norm_num [letterPairs, oddPoints, Decimal.toRat,
          Decimal.coefficient, tenTo]
      rw [worth, roundCents_of_nonneg (by norm_num), round_eq]
      norm_num
  · have graded : grade? (.multiChoice [⟨"a", "A", false⟩, ⟨"b", "B", false⟩])
        fourPoints (some (.choices [])) =
        some ⟨⟨false, 400, 2, by decide, by decide⟩, true, false, false⟩ := by
      decide +kernel
    refine ⟨_, graded, ?_, ?_⟩
    · norm_num [Decimal.toRat, Decimal.coefficient, tenTo]
    · have worth : selectionWorth fourPoints
          (correctSet [⟨"a", "A", false⟩, ⟨"b", "B", false⟩]) ∅ = 0 := by
        norm_num [selectionWorth, correctSet, correctIds]
      rw [worth, roundCents_of_nonneg le_rfl]
      norm_num

/-! ## More that is right earns no less -/

section Monotony

variable {part part' whole : Nat}

/-- A larger share earns no less, however often it is rounded. -/
theorem exists_scaledShares_le (amount : points.IsAmount)
    (small : points.toRat ≤ tenTo 26) (positive : 0 < whole)
    (less : part ≤ part') (within : part' ≤ whole) :
    ∃ outcome outcome',
      (share? part whole).bind (GradeOutcome.scaled? points) = some outcome ∧
      (share? part' whole).bind (GradeOutcome.scaled? points) = some outcome' ∧
      outcome.earned ≤ outcome'.earned := by
  obtain ⟨share, found, nonneg, one, -⟩ :=
    exists_share? positive (less.trans within)
  obtain ⟨share', found', nonneg', one', -⟩ := exists_share? positive within
  obtain ⟨outcome, scaled, -⟩ :=
    GradeOutcome.Within.exists_scaled? amount small nonneg one
  obtain ⟨outcome', scaled', -⟩ :=
    GradeOutcome.Within.exists_scaled? amount small nonneg' one'
  refine ⟨outcome, outcome', ?_, ?_, ?_⟩
  · rw [found, Option.bind_some, scaled]
  · rw [found', Option.bind_some, scaled']
  obtain ⟨product, multiplied, rfl⟩ := Option.map_eq_some_iff.mp scaled
  obtain ⟨product', multiplied', rfl⟩ := Option.map_eq_some_iff.mp scaled'
  have shares := Decimal.quotient?_mono positive less within found found'
  have products :=
    Decimal.mul?_mono amount.nonneg nonneg shares multiplied multiplied'
  rw [Decimal.le_iff_toRat, Decimal.toRat_roundPoints,
    Decimal.toRat_roundPoints]
  exact roundCents_mono products

/-- No share of the points earns more than all of them. -/
theorem earned_le_full {outcome : GradeOutcome} (amount : points.IsAmount)
    (bounded : outcome.Within points) :
    outcome.earned ≤ (GradeOutcome.full points).earned := by
  rw [Decimal.le_iff_toRat, GradeOutcome.toRat_full amount]
  exact bounded.less

/-- Both answers are graded, and the first one earns no more than the second
one. -/
def EarnsNoMore (payload : Payload) (points : Decimal)
    (answer better : Answer) : Prop :=
  ∃ outcome outcome', grade? payload points (some answer) = some outcome ∧
    grade? payload points (some better) = some outcome' ∧
    outcome.earned ≤ outcome'.earned

theorem selectionPart_le_insert {correct chosen : Finset String} {id : String}
    (right : id ∈ correct) :
    selectionPart correct chosen ≤
      selectionPart correct (insert id chosen) := by
  have misses : insert id chosen \ correct = chosen \ correct :=
    Finset.insert_sdiff_of_mem _ right
  have hits : (correct ∩ chosen).card ≤ (correct ∩ insert id chosen).card :=
    Finset.card_le_card (Finset.inter_subset_inter_left
        (Finset.subset_insert id chosen))
  rw [selectionPart, selectionPart, misses]
  exact Nat.sub_le_sub_right hits _

theorem selectionPart_insert_le {correct chosen : Finset String} {id : String}
    (wrong : id ∉ correct) :
    selectionPart correct (insert id chosen) ≤
      selectionPart correct chosen := by
  have hits : correct ∩ insert id chosen = correct ∩ chosen :=
    Finset.inter_insert_of_notMem wrong
  have misses : (chosen \ correct).card ≤ (insert id chosen \ correct).card :=
    Finset.card_le_card (Finset.sdiff_subset_sdiff
        (Finset.subset_insert id chosen) subset_rfl)
  rw [selectionPart, selectionPart, hits]
  exact Nat.sub_le_sub_left misses _

/-- A selection of a larger part earns no less, unless it gives up that nothing
is wrong or missing. -/
theorem multiChoice_earnsNoMore (amount : points.IsAmount)
    (small : points.toRat ≤ tenTo 26) {options : List ChoiceOption}
    {selected better : List String}
    (less : selectionPart (correctSet options) selected.toFinset ≤
      selectionPart (correctSet options) better.toFinset)
    (kept : selected.toFinset = correctSet options →
      better.toFinset = correctSet options) :
    EarnsNoMore (.multiChoice options) points (.choices selected)
      (.choices better) := by
  by_cases right' : better.toFinset = correctSet options
  · obtain ⟨outcome, graded, bounded⟩ :=
      exists_multiChoice? amount small options selected
    exact ⟨outcome, _, graded, multiChoice?_of_correctSet right',
      earned_le_full amount bounded⟩
  · have right : selected.toFinset ≠ correctSet options :=
      fun same => right' (kept same)
    have positive : 0 < max 1 (correctSet options).card := by omega
    obtain ⟨outcome, outcome', scaled, scaled', earned⟩ :=
      exists_scaledShares_le amount small positive
        less (selectionPart_le (correctSet options) better.toFinset)
    refine ⟨{ outcome with isCorrect := false },
      { outcome' with isCorrect := false }, ?_, ?_, earned⟩
    · rw [grade?, multiChoice?_eq, if_neg right, scaled, Option.map_some]
    · rw [grade?, multiChoice?_eq, if_neg right', scaled', Option.map_some]

/-- No share of the points earns nothing. -/
theorem exists_scaledShare?_zero (points : Decimal) (positive : 0 < whole) :
    ∃ outcome,
      (share? 0 whole).bind (GradeOutcome.scaled? points) = some outcome ∧
      outcome.earned.toRat = 0 := by
  have none : share? 0 whole = some .zero := by
    unfold share? Decimal.quotient?
    rw [if_neg positive.ne', if_pos rfl]
  have vanishes : points.mul? .zero = some .zero := if_pos (.inr rfl)
  have scaled : (GradeOutcome.scaled? points .zero).map (·.earned) =
      some (roundPoints .zero) := by
    rw [GradeOutcome.scaled?, vanishes]
    rfl
  obtain ⟨outcome, scaled, earned⟩ := Option.map_eq_some_iff.mp scaled
  refine ⟨outcome, ?_, ?_⟩
  · rw [none, Option.bind_some, scaled]
  · rw [earned]
    exact GradeOutcome.toRat_unanswered

/-- A selection that has something wrong and nothing right earns nothing. -/
theorem multiChoice_earnsNothing (points : Decimal)
    (options : List ChoiceOption) {selected : List String}
    (nonempty : selected ≠ [])
    (wrong : ∀ id ∈ selected, id ∉ correctIds options) :
    ∃ outcome, grade? (.multiChoice options) points (some (.choices selected)) =
        some outcome ∧ outcome.earned.toRat = 0 := by
  obtain ⟨id, inside⟩ := List.exists_mem_of_ne_nil selected nonempty
  have others : selected.toFinset ≠ correctSet options := by
    intro same
    have right : id ∈ correctSet options := same ▸ List.mem_toFinset.mpr inside
    exact wrong id inside (List.mem_toFinset.mp right)
  have none : correctSet options ∩ selected.toFinset = ∅ := by
    rw [← Finset.disjoint_iff_inter_eq_empty, Finset.disjoint_right]
    intro id inside right
    exact wrong id (List.mem_toFinset.mp inside) (List.mem_toFinset.mp right)
  have nothing : selectionPart (correctSet options) selected.toFinset = 0 := by
    rw [selectionPart, none, Finset.card_empty, Nat.zero_sub]
  have positive : 0 < max 1 (correctSet options).card := by omega
  obtain ⟨outcome, scaled, earned⟩ := exists_scaledShare?_zero points positive
  refine ⟨{ outcome with isCorrect := false }, ?_, earned⟩
  rw [grade?, multiChoice?_eq, if_neg others, nothing, scaled, Option.map_some]

theorem matching_earnsNoMore (amount : points.IsAmount)
    (small : points.toRat ≤ tenTo 26) {pairs : List MatchingPair}
    {given better : Pairing}
    (less : matchingPart pairs given ≤ matchingPart pairs better) :
    EarnsNoMore (.matching pairs) points (.pairs given) (.pairs better) := by
  have within := matchingPart_le pairs better
  by_cases nothing : pairs = []
  · refine ⟨.unanswered, .unanswered, ?_, ?_, ?_⟩
    · rw [grade?, matching?_eq, if_pos nothing]
    · rw [grade?, matching?_eq, if_pos nothing]
    · exact Decimal.le_iff_toRat.mpr le_rfl
  by_cases all' : matchingPart pairs better = pairs.length
  · obtain ⟨outcome, graded, bounded⟩ :=
      exists_matching? amount small pairs given
    refine ⟨outcome, .full points, graded, ?_, earned_le_full amount bounded⟩
    rw [grade?, matching?_eq, if_neg nothing, if_pos all']
  · have all : matchingPart pairs given ≠ pairs.length := by omega
    have positive : 0 < pairs.length := List.length_pos_of_ne_nil nothing
    obtain ⟨outcome, outcome', scaled, scaled', earned⟩ :=
      exists_scaledShares_le amount small positive less within
    let partOf (outcome : GradeOutcome) (given : Pairing) : GradeOutcome :=
      { outcome with isCorrect := false,
                     isPartial := decide (0 < matchingPart pairs given) }
    refine ⟨partOf outcome given, partOf outcome' better, ?_, ?_, earned⟩
    · rw [grade?, matching?_eq, if_neg nothing, if_neg all, scaled,
        Option.map_some]
    · rw [grade?, matching?_eq, if_neg nothing, if_neg all', scaled',
        Option.map_some]

theorem find?_eq_some_iff {given : Pairing} {left right : String} :
    given.find? left = some right ↔ (left, right) ∈ given.entries := by
  have keys : (given.entries.map (·.1)).Nodup :=
    List.pairwise_map.mpr (given.sorted.imp String.ne_of_lt)
  constructor
  · intro found
    obtain ⟨⟨key, value⟩, here, rfl⟩ := Option.map_eq_some_iff.mp found
    obtain ⟨inside, rfl⟩ := mem_and_key_of_find? here
    exact inside
  · intro inside
    rw [Pairing.find?, find?_key_eq_some keys inside]
    rfl

theorem matchingPart_mono {pairs : List MatchingPair} {given better : Pairing}
    (kept : ∀ pair ∈ pairs, (pair.left, pair.right) ∈ given.entries →
      (pair.left, pair.right) ∈ better.entries) :
    matchingPart pairs given ≤ matchingPart pairs better := by
  refine List.countP_mono_left fun pair inside right => ?_
  rw [beq_iff_eq, find?_eq_some_iff] at right ⊢
  exact kept pair inside right

/-- Partial credit goes up with what is right.  A selection is graded as a set:
a further correct option takes nothing away, a further wrong one adds nothing,
and wrong options alone earn nothing.  A matching that has at least the same
pairs right earns at least as much, and what it says about items that are not
asked for does not count. -/
theorem partial_credit_is_monotone (amount : points.IsAmount)
    (small : points.toRat ≤ 9999999999 / 100) :
    (∀ options selected, (∀ others, (∀ id, id ∈ others ↔ id ∈ selected) →
      grade? (.multiChoice options) points (some (.choices others)) =
        grade? (.multiChoice options) points (some (.choices selected))) ∧
      (∀ id ∈ correctIds options, EarnsNoMore (.multiChoice options)
        points (.choices selected) (.choices (id :: selected))) ∧
      (∀ id ∉ correctIds options, EarnsNoMore (.multiChoice options)
        points (.choices (id :: selected)) (.choices selected)) ∧
      (selected ≠ [] → (∀ id ∈ selected, id ∉ correctIds options) → ∃ outcome,
        grade? (.multiChoice options) points (some (.choices selected)) =
          some outcome ∧ outcome.earned.toRat = 0)) ∧ ∀ pairs given,
      (∀ better : Pairing,
        (∀ pair ∈ pairs, (pair.left, pair.right) ∈ given.entries →
          (pair.left, pair.right) ∈ better.entries) →
        EarnsNoMore (.matching pairs) points (.pairs given) (.pairs better)) ∧
      ∀ others : Pairing,
        (∀ entry : String × String, entry.1 ∈ pairs.map (·.left) →
          (entry ∈ others.entries ↔ entry ∈ given.entries)) →
        grade? (.matching pairs) points (some (.pairs others)) =
          grade? (.matching pairs) points (some (.pairs given)) := by
  have few : points.toRat ≤ tenTo 26 := by
    norm_num [tenTo]
    linarith
  constructor
  · intro options selected
    refine ⟨fun others same => ?_, fun id right => ?_, fun id wrong => ?_,
      fun nonempty wrong => ?_⟩
    · have sets : others.toFinset = selected.toFinset := by
        ext id
        rw [List.mem_toFinset, List.mem_toFinset, same]
      rw [grade?, grade?, multiChoice?_eq, multiChoice?_eq, sets]
    · have right : id ∈ correctSet options := List.mem_toFinset.mpr right
      refine multiChoice_earnsNoMore amount few ?_ fun all => ?_
      · rw [List.toFinset_cons]
        exact selectionPart_le_insert right
      · rw [List.toFinset_cons, all, Finset.insert_eq_of_mem right]
    · have wrong : id ∉ correctSet options := fun right =>
        wrong (List.mem_toFinset.mp right)
      refine multiChoice_earnsNoMore amount few ?_ fun all => ?_
      · rw [List.toFinset_cons]
        exact selectionPart_insert_le wrong
      · rw [← all, List.toFinset_cons] at wrong
        exact absurd (Finset.mem_insert_self _ _) wrong
    · exact multiChoice_earnsNothing points options nonempty wrong
  · intro pairs given
    refine ⟨fun better kept => matching_earnsNoMore amount few
      (matchingPart_mono kept), fun others same => ?_⟩
    have parts : matchingPart pairs others = matchingPart pairs given := by
      refine Nat.le_antisymm (matchingPart_mono fun pair inside => ?_)
        (matchingPart_mono fun pair inside => ?_)
      · exact (same _ (List.mem_map_of_mem inside)).mp
      · exact (same _ (List.mem_map_of_mem inside)).mpr
    rw [grade?, grade?, matching?_eq, matching?_eq, parts]

end Monotony

/-- Two options to be chosen and one that is wrong. -/
def twoOfThree : List ChoiceOption :=
  [⟨"a", "A", true⟩, ⟨"b", "B", true⟩, ⟨"c", "C", false⟩]

/-- The second right option counts and a repeated one does not; an answer about
a fourth letter is not asked for. -/
theorem partial_credit_is_monotone_two_of_three :
    fourPoints.IsAmount ∧ fourPoints.toRat ≤ 9999999999 / 100 ∧
    (∀ id, id ∈ ["b", "a", "b"] ↔ id ∈ ["a", "b"]) ∧
    "b" ∈ correctIds twoOfThree ∧ "c" ∉ correctIds twoOfThree ∧
    (∀ pair ∈ letterPairs ["a", "b", "c"],
      (pair.left, pair.right) ∈ (lettersMatched ["a"]).entries →
      (pair.left, pair.right) ∈ (lettersMatched ["a", "b"]).entries) ∧
    (∀ entry : String × String,
      entry.1 ∈ (letterPairs ["a", "b", "c"]).map (·.left) →
      (entry ∈ (lettersMatched ["a", "z"]).entries ↔
        entry ∈ (lettersMatched ["a"]).entries)) ∧
    grade? (.multiChoice twoOfThree)
      fourPoints (some (.choices ["b", "a", "b"])) =
      grade? (.multiChoice twoOfThree) fourPoints (some (.choices ["a", "b"])) ∧
    EarnsNoMore (.multiChoice twoOfThree) fourPoints (.choices ["a"])
      (.choices ["b", "a"]) ∧
    EarnsNoMore (.multiChoice twoOfThree) fourPoints
      (.choices ["c", "a"]) (.choices ["a"]) ∧
    (∃ outcome, grade? (.multiChoice twoOfThree) fourPoints
      (some (.choices ["c"])) = some outcome ∧ outcome.earned.toRat = 0) ∧
    EarnsNoMore (.matching (letterPairs ["a", "b", "c"])) fourPoints
      (.pairs (lettersMatched ["a"])) (.pairs (lettersMatched ["a", "b"])) ∧
    grade? (.matching (letterPairs ["a", "b", "c"])) fourPoints
      (some (.pairs (lettersMatched ["a", "z"]))) =
      grade? (.matching (letterPairs ["a", "b", "c"])) fourPoints
        (some (.pairs (lettersMatched ["a"]))) := by
  have amount : fourPoints.IsAmount := ⟨400, by decide⟩
  have small : fourPoints.toRat ≤ 9999999999 / 100 := by
    norm_num [Decimal.toRat, Decimal.coefficient, fourPoints, tenTo]
  have same : ∀ id, id ∈ ["b", "a", "b"] ↔ id ∈ ["a", "b"] := by
    intro id
    simp only [List.mem_cons, List.not_mem_nil, or_false]
    tauto
  have right : "b" ∈ correctIds twoOfThree := by decide
  have wrong : "c" ∉ correctIds twoOfThree := by decide
  have one : (lettersMatched ["a"]).entries = [("a", "a")] := by decide +kernel
  have two : (lettersMatched ["a", "b"]).entries =
    [("a", "a"), ("b", "b")] := by decide +kernel
  have stray : (lettersMatched ["a", "z"]).entries =
    [("a", "a"), ("z", "z")] := by decide +kernel
  have kept : ∀ pair ∈ letterPairs ["a", "b", "c"],
      (pair.left, pair.right) ∈ (lettersMatched ["a"]).entries →
        (pair.left, pair.right) ∈ (lettersMatched ["a", "b"]).entries := by
    rw [one, two]
    exact fun _ _ inside => List.mem_append_left [("b", "b")] inside
  have unasked : ∀ entry : String × String,
      entry.1 ∈ (letterPairs ["a", "b", "c"]).map (·.left) →
      (entry ∈ (lettersMatched ["a", "z"]).entries ↔
        entry ∈ (lettersMatched ["a"]).entries) := by
    rintro ⟨left, value⟩ asked
    have other : left ≠ "z" := by
      rintro rfl
      have none : "z" ∉ (letterPairs ["a", "b", "c"]).map (·.left) := by decide
      exact none asked
    simp [one, stray, other]
  obtain ⟨choices, matchings⟩ := partial_credit_is_monotone amount small
  obtain ⟨-, more, less, -⟩ := choices twoOfThree ["a"]
  exact ⟨amount, small, same, right, wrong, kept, unasked,
    (choices twoOfThree ["a", "b"]).1 ["b", "a", "b"] same, more "b" right,
    less "c" wrong, (choices twoOfThree ["c"]).2.2.2 (List.cons_ne_nil _ _)
      (by simpa using wrong), (matchings _ (lettersMatched ["a"])).1 _ kept,
    (matchings _ (lettersMatched ["a"])).2 _ unasked⟩

end ExamHall.Grading
