import ExamHall.Proofs.Grading.Outcomes
import ExamHall.Proofs.Grading.Reordering

/-!
# What a grade means

An outcome calls an answer correct exactly if the answer is right by what its
question asks, and partly correct exactly if something of it counts and
something is missing.  The rules for choices of several options tell this from
the points that they have rounded, the rule for matchings from the pairs that it
has counted.
-/

namespace ExamHall

/-- The right answers to a question.  Where several options of a single choice
are marked correct, the first one is the right one. -/
inductive Payload.Accepts : Payload → Option Answer → Prop where
  | choice {options : List ChoiceOption} {option : ChoiceOption}
      (marked : options.find? (·.isCorrect) = some option) :
      Accepts (.singleChoice options) (some (.choice option.id))
  | choices {options : List ChoiceOption} {selected : List String}
      (same : ∀ id, id ∈ selected ↔ ∃ option ∈ options,
        option.isCorrect = true ∧ option.id = id) :
      Accepts (.multiChoice options) (some (.choices selected))
  | truth
      {key : TruthKey} {word : String} (same : normalTruth word = key.normal) :
      Accepts (.trueFalse key) (some (.truth word))
  | pairs {pairs : List MatchingPair} {given : Pairing} (nonempty : pairs ≠ [])
      (each : ∀ pair ∈ pairs, given.find? pair.left = some pair.right) :
      Accepts (.matching pairs) (some (.pairs given))
  | sequence {items : List String} :
      Accepts (.ordering items) (some (.sequence items))

/-- With one option marked correct, its id is the only right answer. -/
theorem Payload.accepts_singleChoice_iff {options : List ChoiceOption}
    {option : ChoiceOption} {answer : Option Answer}
    (only : options.filter (·.isCorrect) = [option]) :
    Accepts (.singleChoice options) answer ↔
      answer = some (.choice option.id) := by
  have marked : options.find? (·.isCorrect) = some option := by
    rw [← List.head?_filter, only, List.head?_cons]
  constructor
  · intro accepted
    cases accepted with
    | choice found => rw [Option.some.inj (found.symm.trans marked)]
  · rintro rfl
    exact .choice marked

/-- The answers that are right in part and bring some of the points. -/
inductive Payload.AcceptsInPart (points earned : Decimal) :
    Payload → Option Answer → Prop where
  | choices {options : List ChoiceOption} {answer : Option Answer}
      (some : 0 < earned.toRat) (less : earned.toRat < points.toRat) :
      AcceptsInPart points earned (.multiChoice options) answer
  | pairs {pairs : List MatchingPair} {given : Pairing}
      (right : ∃ pair ∈ pairs, given.find? pair.left = some pair.right)
      (wrong : ∃ pair ∈ pairs, given.find? pair.left ≠ some pair.right) :
      AcceptsInPart points earned (.matching pairs) (some (.pairs given))

/-- Whether a reviewer has to score the answers to a question. -/
def Payload.IsFreeText : Payload → Prop
  | .shortAnswer _ | .essay _ | .fillBlank _ => True
  | _ => False

/-- An outcome that says of an answer what is true of it, and gives points
accordingly. -/
structure GradeOutcome.Means (payload : Payload) (points : Decimal)
    (answer : Option Answer) (outcome : GradeOutcome) : Prop where
  nonneg : 0 ≤ outcome.earned.toRat
  most : outcome.earned.toRat ≤ points.toRat
  scale : outcome.earned.scale = 2
  correct : outcome.isCorrect = true ↔ payload.Accepts answer
  whole : outcome.isCorrect = true → outcome.earned.toRat = points.toRat ∧
    outcome.isPartial = false
  inPart : outcome.isPartial = true ↔
    payload.AcceptsInPart points outcome.earned answer
  review : outcome.needsManual = true ↔ payload.IsFreeText ∧
    answer.isSome = true

variable {points : Decimal} {payload : Payload} {answer : Option Answer}
  {outcome : GradeOutcome}

/-! ## Outcomes -/

namespace GradeOutcome

theorem toRat_unanswered : unanswered.earned.toRat = 0 := by
  rw [unanswered, Decimal.isAmount_zero.toRat_roundPoints, Decimal.toRat_zero]

theorem scale_unanswered : unanswered.earned.scale = 2 := by decide

theorem toRat_full (amount : points.IsAmount) :
    (full points).earned.toRat = points.toRat :=
  amount.toRat_roundPoints

theorem scale_full (amount : points.IsAmount)
    (small : points.toRat ≤ tenTo 26) : (full points).earned.scale = 2 := by
  apply Decimal.scale_roundPoints
  · rw [amount.toRat_roundPoints]
    exact amount.nonneg
  · rw [amount.toRat_roundPoints]
    exact small

/-- What is made by scaling takes its flags from the points that it has
rounded. -/
theorem flags_of_scaled? {part : Decimal} (amount : points.IsAmount)
    (scaled : scaled? points part = some outcome) :
    (outcome.isPartial = true ↔
        0 < outcome.earned.toRat ∧ outcome.earned.toRat < points.toRat) ∧
      outcome.needsManual = false := by
  obtain ⟨product, -, rfl⟩ := Option.map_eq_some_iff.mp scaled
  simp [Decimal.lt_iff_toRat, amount.toRat_roundPoints]

theorem scale_of_scaled? {part : Decimal}
    (scaled : scaled? points part = some outcome)
    (nonneg : 0 ≤ outcome.earned.toRat)
    (small : outcome.earned.toRat ≤ tenTo 26) : outcome.earned.scale = 2 := by
  obtain ⟨product, -, rfl⟩ := Option.map_eq_some_iff.mp scaled
  exact Decimal.scale_roundPoints nonneg small

namespace Means

theorem of_unanswered (amount : points.IsAmount)
    (wrong : ¬payload.Accepts answer)
    (apart : ¬payload.AcceptsInPart points unanswered.earned answer)
    (closed : payload.IsFreeText → answer = none) :
    unanswered.Means payload points answer where
  nonneg := toRat_unanswered.ge
  most := toRat_unanswered.le.trans amount.nonneg
  scale := scale_unanswered
  correct := ⟨nofun, fun accepted => absurd accepted wrong⟩
  whole := nofun
  inPart := ⟨nofun, fun accepted => absurd accepted apart⟩
  review := by
    constructor
    · exact nofun
    · rintro ⟨freeText, given⟩
      rw [closed freeText] at given
      cases given

theorem of_full (amount : points.IsAmount) (small : points.toRat ≤ tenTo 26)
    (right : payload.Accepts answer)
    (apart : ¬payload.AcceptsInPart points (full points).earned answer)
    (closed : ¬payload.IsFreeText) :
    (full points).Means payload points answer where
  nonneg := (toRat_full amount).ge.trans' amount.nonneg
  most := (toRat_full amount).le
  scale := scale_full amount small
  correct := ⟨fun _ => right, fun _ => rfl⟩
  whole := fun _ => ⟨toRat_full amount, rfl⟩
  inPart := ⟨nofun, fun accepted => absurd accepted apart⟩
  review := ⟨nofun, fun asked => absurd asked.1 closed⟩

end Means

/-- No points are a part of the points only for a matching. -/
theorem not_acceptsInPart_unanswered
    (apart : ∀ pairs given, payload = .matching pairs →
      answer = some (.pairs given) → pairs = []) :
    ¬payload.AcceptsInPart points unanswered.earned answer := by
  intro accepted
  cases accepted with
  | choices more => exact absurd toRat_unanswered more.ne'
  | pairs right =>
      obtain rfl := apart _ _ rfl rfl
      obtain ⟨pair, inside, -⟩ := right
      cases inside

end GradeOutcome

/-! ## Rules -/

namespace Grading

open GradeOutcome

theorem head?_correctIds (options : List ChoiceOption) :
    (correctIds options).head? = (options.find? (·.isCorrect)).map (·.id) := by
  rw [correctIds, List.head?_map, List.head?_filter]

theorem singleChoice_means (amount : points.IsAmount)
    (small : points.toRat ≤ tenTo 26) (options : List ChoiceOption)
    (chosen : String) :
    (singleChoice options points chosen).Means (.singleChoice options) points
      (some (.choice chosen)) := by
  have accepts :
      Payload.Accepts (.singleChoice options) (some (.choice chosen)) ↔
        (correctIds options).head? = some chosen := by
    rw [head?_correctIds, Option.map_eq_some_iff]
    constructor
    · intro accepted
      cases accepted with
      | choice marked => exact ⟨_, marked, rfl⟩
    · rintro ⟨option, marked, rfl⟩
      exact .choice marked
  unfold singleChoice
  split
  · next first rest keys =>
      rw [keys, List.head?_cons, Option.some.injEq] at accepts
      split
      · next same => exact .of_full amount small (accepts.mpr same) nofun id
      · next other =>
          exact .of_unanswered amount (accepts.not.mpr other) nofun False.elim
  · next keys =>
      rw [keys] at accepts
      exact .of_unanswered amount (accepts.not.mpr nofun) nofun False.elim

theorem trueFalse_means (amount : points.IsAmount)
    (small : points.toRat ≤ tenTo 26) (key : TruthKey) (word : String) :
    (trueFalse key points word).Means (.trueFalse key) points
      (some (.truth word)) := by
  unfold trueFalse
  split
  · next same => exact .of_full amount small (.truth same) nofun id
  · next other =>
      have wrong : ¬Payload.Accepts (.trueFalse key) (some (.truth word)) := by
        intro accepted
        cases accepted with
        | truth same => exact other same
      exact .of_unanswered amount wrong nofun False.elim

theorem ordering_means (amount : points.IsAmount)
    (small : points.toRat ≤ tenTo 26) (items given : List String) :
    (ordering items points given).Means (.ordering items) points
      (some (.sequence given)) := by
  unfold ordering
  split
  · next same =>
      subst same
      exact .of_full amount small .sequence nofun id
  · next other =>
      have wrong :
          ¬Payload.Accepts (.ordering items) (some (.sequence given)) := by
        intro accepted
        cases accepted with
        | sequence => exact other rfl
      exact .of_unanswered amount wrong nofun False.elim

/-! ### Choices of several options -/

theorem sameMembers_iff {left right : List String} :
    sameMembers left right = true ↔ ∀ id, id ∈ left ↔ id ∈ right := by
  simp only [sameMembers, Bool.and_eq_true, List.all_eq_true,
    List.contains_iff_mem]
  constructor
  · intro both id
    exact ⟨both.1 id, both.2 id⟩
  · intro same
    exact ⟨fun id => (same id).mp, fun id => (same id).mpr⟩

theorem multiChoice?_means (amount : points.IsAmount)
    (small : points.toRat ≤ tenTo 26) {options : List ChoiceOption}
    {selected : List String}
    (found : multiChoice? options points selected = some outcome) :
    outcome.Means (.multiChoice options) points (some (.choices selected)) := by
  obtain ⟨graded, found', within⟩ :=
    exists_multiChoice? amount small options selected
  obtain rfl := Option.some.inj (found'.symm.trans found)
  have accepts :
      Payload.Accepts (.multiChoice options) (some (.choices selected)) ↔
        sameMembers (distinct selected) (distinct (correctIds options)) =
        true := by
    simp only [sameMembers_iff, mem_distinct, mem_correctIds]
    constructor
    · intro accepted
      cases accepted with
      | choices same => exact same
    · exact .choices
  simp only [multiChoice?] at found
  split at found
  · next same =>
      cases found
      apply Means.of_full amount small (accepts.mpr same) _ id
      intro accepted
      cases accepted with
      | choices _ less => exact absurd (toRat_full amount) less.ne
  · next other =>
      simp only [Option.bind_eq_bind, Option.bind_eq_some_iff,
        Option.some.injEq] at found
      obtain ⟨part, -, scaled, made, rfl⟩ := found
      obtain ⟨inPart, automatic⟩ := flags_of_scaled? amount made
      have scale :=
        scale_of_scaled? made within.earned.nonneg (within.less.trans small)
      exact
        { nonneg := within.earned.nonneg
          most := within.less
          scale
          correct := ⟨nofun, fun accepted => absurd (accepts.mp accepted) other⟩
          whole := nofun
          inPart := by
            rw [inPart]
            constructor
            · exact fun both => .choices both.1 both.2
            · intro accepted
              cases accepted with
              | choices some less => exact ⟨some, less⟩
          review := by
            rw [automatic]
            exact ⟨nofun, fun asked => asked.1.elim⟩ }

/-! ### Matchings -/

theorem length_matchedPairs_eq_iff {pairs : List MatchingPair}
    {given : Pairing} :
    (matchedPairs pairs given).length = pairs.length ↔ ∀ pair ∈ pairs,
      given.find? pair.left = some pair.right := by
  simp [matchedPairs, List.length_filter_eq_length_iff]

theorem length_matchedPairs_pos_iff {pairs : List MatchingPair}
    {given : Pairing} :
    0 < (matchedPairs pairs given).length ↔ ∃ pair ∈ pairs,
      given.find? pair.left = some pair.right := by
  simp [matchedPairs, List.length_pos_iff_exists_mem]

theorem matching?_means (amount : points.IsAmount)
    (small : points.toRat ≤ tenTo 26) {pairs : List MatchingPair}
    {given : Pairing} (found : matching? pairs points given = some outcome) :
    outcome.Means (.matching pairs) points (some (.pairs given)) := by
  obtain ⟨graded, found', within⟩ := exists_matching? amount small pairs given
  obtain rfl := Option.some.inj (found'.symm.trans found)
  simp only [matching?] at found
  split at found
  · next none =>
      obtain rfl := List.isEmpty_iff.mp none
      cases found
      apply Means.of_unanswered amount _ _ False.elim
      · intro accepted
        cases accepted with
        | pairs nonempty => exact nonempty rfl
      · apply not_acceptsInPart_unanswered
        rintro _ _ ⟨⟩ -
        rfl
  next nonempty =>
    rw [List.isEmpty_iff] at nonempty
    split at found
    · next all =>
        rw [length_matchedPairs_eq_iff] at all
        cases found
        apply Means.of_full amount small (.pairs nonempty all) _ id
        intro accepted
        cases accepted with
        | pairs _ wrong =>
            obtain ⟨pair, inside, wrong⟩ := wrong
            exact wrong (all pair inside)
    · next missing =>
        rw [length_matchedPairs_eq_iff] at missing
        simp only [Option.bind_eq_bind, Option.bind_eq_some_iff,
          Option.some.injEq] at found
        obtain ⟨part, -, scaled, made, rfl⟩ := found
        have scale :=
          scale_of_scaled? made within.earned.nonneg (within.less.trans small)
        exact
          { nonneg := within.earned.nonneg
            most := within.less
            scale
            correct := by
              constructor
              · exact nofun
              · intro accepted
                cases accepted with
                | pairs _ all => exact absurd all missing
            whole := nofun
            inPart := by
              refine decide_eq_true_iff.trans
                (length_matchedPairs_pos_iff.trans ?_)
              constructor
              · exact fun right => .pairs right (by simpa using missing)
              · intro accepted
                cases accepted with
                | pairs right => exact right
            review := by
              rw [(flags_of_scaled? amount made).2]
              exact ⟨nofun, fun asked => asked.1.elim⟩ }

/-! ## Answers of every form -/

theorem freeText_means (amount : points.IsAmount) (free : payload.IsFreeText)
    (given : Answer) :
    { GradeOutcome.unanswered with needsManual := true }.Means payload points
      (some given) := by
  cases payload with
  | shortAnswer | essay | fillBlank =>
      exact
        { nonneg := toRat_unanswered.ge
          most := toRat_unanswered.le.trans amount.nonneg
          scale := scale_unanswered
          correct := ⟨nofun, nofun⟩
          whole := nofun
          inPart := ⟨nofun, nofun⟩
          review := ⟨fun _ => ⟨trivial, rfl⟩, fun _ => rfl⟩ }
  | _ => exact free.elim

/-- Grading any answer to any question comes to an outcome that says what is
true of the answer. -/
theorem exists_grade?_means (amount : points.IsAmount)
    (small : points.toRat ≤ tenTo 26) (payload : Payload)
    (answer : Option Answer) :
    ∃ outcome, grade? payload points answer = some outcome ∧
      outcome.Means payload points answer := by
  cases answer with
  | none =>
      refine ⟨_, rfl, .of_unanswered amount nofun ?_ fun _ => rfl⟩
      exact not_acceptsInPart_unanswered nofun
  | some given =>
      -- An answer of another form than its question asks for is as good as
      -- none.
      have foreign : ∀ {payload}, ¬payload.IsFreeText →
          ¬Payload.Accepts payload (some given) → (∀ pairs pairing,
            payload = .matching pairs → given ≠ .pairs pairing) →
          GradeOutcome.unanswered.Means payload points (some given) := by
        intro payload closed wrong other
        apply Means.of_unanswered amount wrong _ fun free => absurd free closed
        apply not_acceptsInPart_unanswered
        intro pairs pairing same filled
        exact absurd (Option.some.inj filled) (other pairs pairing same)
      cases payload with
      | singleChoice options =>
          cases given with
          | choice chosen =>
              exact ⟨_, rfl, singleChoice_means amount small options chosen⟩
          | _ => exact ⟨_, rfl, foreign id nofun nofun⟩
      | multiChoice options =>
          cases given with
          | choices selected =>
              obtain ⟨outcome, found, -⟩ :=
                exists_multiChoice? amount small options selected
              exact ⟨outcome, found, multiChoice?_means amount small found⟩
          | _ => exact ⟨_, rfl, foreign id nofun nofun⟩
      | trueFalse key =>
          cases given with
          | truth word => exact ⟨_, rfl, trueFalse_means amount small key word⟩
          | _ => exact ⟨_, rfl, foreign id nofun nofun⟩
      | matching pairs =>
          cases given with
          | pairs pairing =>
              obtain ⟨outcome, found, -⟩ :=
                exists_matching? amount small pairs pairing
              exact ⟨outcome, found, matching?_means amount small found⟩
          | _ => exact ⟨_, rfl, foreign id nofun nofun⟩
      | ordering items =>
          cases given with
          | sequence ordered =>
              exact ⟨_, rfl, ordering_means amount small items ordered⟩
          | _ => exact ⟨_, rfl, foreign id nofun nofun⟩
      | shortAnswer reference | essay reference | fillBlank reference =>
          exact ⟨_, rfl, freeText_means amount (by trivial) given⟩

/-- One of two pairs is right, and so is a part of the answer. -/
theorem exists_grade?_means_one_of_two :
    Decimal.one.IsAmount ∧ Decimal.one.toRat ≤ tenTo 26 ∧
    ∃ outcome, grade? (.matching [⟨"x", "1"⟩, ⟨"y", "2"⟩]) .one
        (some (.pairs (.ofList [("x", "1"), ("y", "1")]))) = some outcome ∧
      outcome.isPartial = true ∧ outcome.isCorrect = false ∧
      outcome.needsManual = false := by
  have amount : Decimal.one.IsAmount := ⟨100, by decide⟩
  have small : Decimal.one.toRat ≤ tenTo 26 := by
    rw [Decimal.toRat_one]
    exact Nat.one_le_cast.mpr (tenTo_pos 26)
  obtain ⟨outcome, found, means⟩ :=
    exists_grade?_means amount small (.matching [⟨"x", "1"⟩, ⟨"y", "2"⟩])
      (some (.pairs (.ofList [("x", "1"), ("y", "1")])))
  have inPart : outcome.isPartial = true :=
    means.inPart.mpr (.pairs (by decide +kernel) (by decide +kernel))
  refine ⟨amount, small, outcome, found, inPart, ?_, ?_⟩
  · rw [Bool.eq_false_iff]
    intro correct
    exact Bool.noConfusion (inPart.symm.trans (means.whole correct).2)
  · rw [Bool.eq_false_iff]
    intro asked
    exact (means.review.mp asked).1

end Grading

end ExamHall
