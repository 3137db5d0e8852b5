import ExamHall.Grading.Rules
import ExamHall.Proofs.Generation.Layout

/-!
# Grades of questions whose options are reordered

A choice of several options is graded by the set of the correct ones, so the
order in which options are shown does not matter.  A choice of one option is
graded by the first correct one that is shown.  Its grade is the same in every
order exactly when all options marked correct have the same id.
-/

namespace ExamHall.Grading

/-- Whether the options marked correct cannot be told apart by their ids. -/
def HaveOneKey (options : List ChoiceOption) : Prop :=
  ∀ first ∈ options, ∀ second ∈ options,
    first.isCorrect = true → second.isCorrect = true → first.id = second.id

/-- Whether a payload's grades cannot depend on the order of its options. -/
def IsOrderFree : Payload → Prop
  | .singleChoice options => HaveOneKey options
  | _ => True

instance (options : List ChoiceOption) : Decidable (HaveOneKey options) :=
  inferInstanceAs (Decidable (∀ first ∈ options, ∀ second ∈ options, _))

instance (payload : Payload) : Decidable (IsOrderFree payload) :=
  match payload with
  | .singleChoice options => inferInstanceAs (Decidable (HaveOneKey options))
  | .multiChoice _ | .trueFalse _ | .matching _ | .ordering _ | .shortAnswer _
    | .essay _
  | .fillBlank _ => inferInstanceAs (Decidable True)

theorem mem_correctIds {options : List ChoiceOption} {id : String} :
    id ∈ correctIds options ↔ ∃ option ∈ options, option.isCorrect = true ∧
      option.id = id := by
  simp [correctIds, and_assoc]

theorem correctIds_perm {shown options : List ChoiceOption}
    (reordered : shown.Perm options) :
    (correctIds shown).Perm (correctIds options) :=
  (reordered.filter _).map _

theorem distinct_perm {α : Type} [DecidableEq α] {left right : List α}
    (reordered : left.Perm right) : (distinct left).Perm (distinct right) := by
  rw [List.perm_ext_iff_of_nodup (nodup_distinct left) (nodup_distinct right)]
  intro item
  rw [mem_distinct, mem_distinct]
  exact reordered.mem_iff

/-! ## Choices of several options -/

theorem sameMembers_perm {selected left right : List String}
    (reordered : left.Perm right) :
    sameMembers selected left = sameMembers selected right := by
  rw [Bool.eq_iff_iff]
  simp [sameMembers, reordered.mem_iff]

theorem selectionShare?_perm {selected left right : List String}
    (reordered : left.Perm right) :
    selectionShare? left selected = selectionShare? right selected := by
  have sameTest : ∀ id, left.contains id = right.contains id := by
    intro id
    rw [Bool.eq_iff_iff]
    simp [reordered.mem_iff]
  simp only [selectionShare?, sameTest, reordered.length_eq]

theorem multiChoice?_perm {shown options : List ChoiceOption}
    (reordered : shown.Perm options) (points : Decimal)
    (selected : List String) :
    multiChoice? shown points selected =
      multiChoice? options points selected := by
  have keys := distinct_perm (correctIds_perm reordered)
  simp only [multiChoice?, sameMembers_perm keys, selectionShare?_perm keys]

/-! ## Choices of one option -/

/-- The key of a choice with one id marked correct, whatever its place. -/
theorem singleChoice_of_haveOneKey {options : List ChoiceOption}
    (oneKey : HaveOneKey options) (points : Decimal) (chosen : String) :
    singleChoice options points chosen =
      if chosen ∈ correctIds options then .full points else .unanswered := by
  unfold singleChoice
  cases keys : correctIds options with
  | nil => simp
  | cons first rest =>
      have same : ∀ id ∈ rest, id = first := by
        intro id membership
        have firstKey :=
          mem_correctIds.mp (keys ▸ List.mem_cons_self (a := first) (l := rest))
        have otherKey :=
          mem_correctIds.mp (keys ▸ List.mem_cons_of_mem first membership)
        obtain ⟨firstOption, firstInside, firstMarked, rfl⟩ := firstKey
        obtain ⟨option, inside, marked, rfl⟩ := otherKey
        exact oneKey option inside firstOption firstInside marked firstMarked
      have membership : chosen ∈ first :: rest ↔ first = chosen := by
        constructor
        · intro inside
          rcases List.mem_cons.mp inside with here | later
          · exact here.symm
          · exact (same chosen later).symm
        · rintro rfl
          exact List.mem_cons_self
      simp only [membership]

theorem HaveOneKey.perm {shown options : List ChoiceOption}
    (reordered : shown.Perm options) (oneKey : HaveOneKey options) :
    HaveOneKey shown := by
  intro first firstInside second secondInside
  exact oneKey first
    (reordered.mem_iff.mp firstInside) second
      (reordered.mem_iff.mp secondInside)

theorem singleChoice_perm {shown options : List ChoiceOption}
    (oneKey : HaveOneKey options) (reordered : shown.Perm options)
    (points : Decimal) (chosen : String) :
    singleChoice shown points chosen = singleChoice options points chosen := by
  rw [singleChoice_of_haveOneKey oneKey,
    singleChoice_of_haveOneKey (oneKey.perm reordered)]
  simp only [(correctIds_perm reordered).mem_iff]

theorem singleChoice_cons_self {option : ChoiceOption}
    (marked : option.isCorrect = true) (rest : List ChoiceOption)
    (points : Decimal) :
    singleChoice (option :: rest) points option.id = .full points := by
  simp [singleChoice, correctIds, marked]

theorem full_ne_unanswered (points : Decimal) :
    GradeOutcome.full points ≠ GradeOutcome.unanswered := by
  intro same
  exact Bool.noConfusion (congrArg GradeOutcome.isCorrect same)

/-- Two different keys can be told apart: putting one of them first gives it the
points. -/
theorem haveOneKey_of_singleChoice_perm {options : List ChoiceOption}
    {points : Decimal}
    (fixed : ∀ shown, shown.Perm options → ∀ chosen,
      singleChoice shown points chosen = singleChoice options points chosen) :
    HaveOneKey options := by
  have graded : ∀ option ∈ options, option.isCorrect = true →
      (correctIds options).head? = some option.id := by
    intro option inside marked
    have front := fixed (option :: options.erase option)
      (List.perm_cons_erase inside).symm option.id
    rw [singleChoice_cons_self marked] at front
    unfold singleChoice at front
    split at front
    · next key rest keys =>
        split at front
        · next same => rw [keys, same]; rfl
        · exact (full_ne_unanswered points front).elim
    · exact (full_ne_unanswered points front).elim
  intro first firstInside second secondInside firstMarked secondMarked
  have firstHead := graded first firstInside firstMarked
  rw [graded second secondInside secondMarked] at firstHead
  exact (Option.some.inj firstHead).symm

/-! ## Questions -/

/-- A payload whose key does not depend on the order of the options is graded
alike in every order. -/
theorem grade?_withOptions {payload : Payload}
    {options shown : List ChoiceOption} (free : IsOrderFree payload)
    (choice : payload.options? = some options) (reordered : shown.Perm options)
    (points : Decimal) (answer : Option Answer) :
    grade? (payload.withOptions shown) points answer =
      grade? payload points answer := by
  cases payload with
  | singleChoice given =>
      obtain rfl : given = options := Option.some.inj choice
      cases answer with
      | none => rfl
      | some answer =>
          cases answer with
          | choice chosen =>
              exact congrArg some
                (singleChoice_perm free reordered points chosen)
          | _ => rfl
  | multiChoice given =>
      obtain rfl : given = options := Option.some.inj choice
      cases answer with
      | none => rfl
      | some answer =>
          cases answer with
          | choices selected =>
              exact multiChoice?_perm reordered points selected
          | _ => rfl
  | _ => cases choice

theorem isOrderFree_of_grade? {payload : Payload} {options : List ChoiceOption}
    (choice : payload.options? = some options)
    (fixed : ∀ shown, shown.Perm options → ∀ points answer,
      Decimal.zero ≤ points → grade? (payload.withOptions shown) points answer =
        grade? payload points answer) : IsOrderFree payload := by
  cases payload with
  | singleChoice given =>
      obtain rfl : given = options := Option.some.inj choice
      refine haveOneKey_of_singleChoice_perm
        (?_ : ∀ shown, shown.Perm given → ∀ chosen,
          singleChoice shown .zero chosen = singleChoice given .zero chosen)
      intro shown reordered chosen
      have := fixed shown reordered .zero (some (.choice chosen)) (by decide)
      exact Option.some.inj this
  | _ => trivial

/-- A question as a variant shows it is graded like the question itself. -/
theorem grade?_of_shownAs {question shown : VariantQuestion}
    (free : IsOrderFree question.payload) (shownAs : question.ShownAs shown)
    (points : Decimal) (answer : Option Answer) :
    grade? shown.payload points answer =
      grade? question.payload points answer := by
  rcases shownAs.payload
    with same | ⟨options, order, choice, reordered, shuffled⟩
  · rw [same]
  · rw [shuffled]
    exact grade?_withOptions free choice reordered points answer

/-- The grades of a choice question are the same in every order of its options
exactly when its payload has a choice of several options or a single key; then
no layout of a test makes a difference to any answer. -/
theorem grade?_reordered_iff {payload : Payload} {options : List ChoiceOption}
    (choice : payload.options? = some options) :
    ((∀ shown, shown.Perm options → ∀ points answer, Decimal.zero ≤ points →
      grade? (payload.withOptions shown) points answer =
        grade? payload points answer) ↔ IsOrderFree payload) ∧
    ∀ layout base generator, (∀ question ∈ base, IsOrderFree question.payload) →
      ∀ variant ∈ (arrange layout base generator).1,
        ∀ shown ∈ variant.questions, ∃ question ∈ base,
            shown.questionId = question.questionId ∧ ∀ points answer,
              grade? shown.payload points answer =
                grade? question.payload points answer := by
  refine ⟨⟨isOrderFree_of_grade? choice,
    fun free shown reordered points answer _ => ?_⟩, ?_⟩
  · exact grade?_withOptions free choice reordered points answer
  · intro layout base generator free variant membership shown inside
    obtain ⟨question, listed, shownAs⟩ :=
      exists_shownAs_of_arrange membership inside
    exact ⟨question, listed, shownAs.questionId,
      grade?_of_shownAs (free question listed) shownAs⟩

/-- A choice of one option whose two correct options have different ids. -/
def twoKeys : List ChoiceOption := [⟨"a", "A", true⟩, ⟨"b", "B", true⟩]

theorem grade?_reordered_iff_twoKeys :
    (Payload.singleChoice twoKeys).options? = some twoKeys ∧
    ¬ ∀ shown, shown.Perm twoKeys → ∀ points answer, Decimal.zero ≤ points →
        grade? ((Payload.singleChoice twoKeys).withOptions shown) points
          answer = grade? (.singleChoice twoKeys) points answer := by
  refine ⟨rfl, fun fixed => ?_⟩
  have choice : (Payload.singleChoice twoKeys).options? = some twoKeys := rfl
  exact absurd ((grade?_reordered_iff choice).1.mp fixed) (by decide)

/-- A test with one question, which the generator may use and which has two
keys. -/
def twoKeyedQuestion : VariantQuestion :=
  { questionId := "q1", version := 1, prompt := "Pick", difficulty := .easy,
    points := .one
    payload := .singleChoice twoKeys, optionOrder := none, answerKey := "" }

/-- Of the two variants that the seed 0 makes, the first gives all points for
the option `a` and the second none, although the generator accepts the
question. -/
theorem two_keys_graded_by_variant :
    twoKeyedQuestion.payload.isUsable = true ∧
    (arrange ⟨2, false, true⟩ [twoKeyedQuestion] (.ofSeed 0)).1.map
      (fun variant => variant.questions.map fun shown =>
        grade? shown.payload shown.points (some (.choice "a"))) =
      [[some (.full .one)], [some .unanswered]] := by
  decide +kernel

end ExamHall.Grading
