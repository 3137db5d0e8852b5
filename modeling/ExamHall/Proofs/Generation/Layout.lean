import ExamHall.Generation.Arrangement
import ExamHall.Proofs.Lists
import ExamHall.Proofs.Random.Shuffling

/-!
# What a layout changes

A variant shows the questions of its base in some order.  Of a question it
changes the order of the options, the record of that order and the key, and
nothing else.
-/

namespace ExamHall

open ExamHall.Random

/-- A question as some variant may show it. -/
structure VariantQuestion.ShownAs (question shown : VariantQuestion) :
    Prop where
  questionId : shown.questionId = question.questionId
  version : shown.version = question.version
  prompt : shown.prompt = question.prompt
  difficulty : shown.difficulty = question.difficulty
  points : shown.points = question.points
  payload : shown.payload = question.payload ∨ ∃ options order,
    question.payload.options? = some options ∧ order.Perm options ∧
    shown.payload = question.payload.withOptions order

namespace VariantQuestion.ShownAs

theorem refl (question : VariantQuestion) : question.ShownAs question :=
  ⟨rfl, rfl, rfl, rfl, rfl, .inl rfl⟩

end VariantQuestion.ShownAs

theorem shuffleOptions_shownAs (question : VariantQuestion)
    (generator : Generator) :
    question.ShownAs (shuffleOptions question generator).1 := by
  unfold shuffleOptions
  split
  · exact .refl question
  · next options found =>
      exact ⟨rfl, rfl, rfl, rfl, rfl,
        .inr ⟨options, (shuffle options generator).1, found,
          shuffle_perm options generator, rfl⟩⟩

theorem layOutQuestion_shownAs (layout : Layout) (question : VariantQuestion)
    (generator : Generator) :
    question.ShownAs (layOutQuestion layout question generator).1 := by
  unfold layOutQuestion
  split
  next shown generator' chosen =>
    have shownAs : question.ShownAs shown := by
      split at chosen
      · have := shuffleOptions_shownAs question generator
        rwa [chosen] at this
      · cases chosen
        exact .refl question
    exact { shownAs with }

/-- Laying out a list of questions keeps their number and order. -/
theorem layOutQuestions_shownAs (layout : Layout)
    (questions : List VariantQuestion) (generator : Generator) :
    List.Forall₂ VariantQuestion.ShownAs questions
      (layOutQuestions layout questions generator).1 := by
  induction questions generalizing generator with
  | nil => exact List.Forall₂.nil
  | cons question rest ih =>
      exact List.Forall₂.cons (layOutQuestion_shownAs layout question generator)
        (ih _)

/-- The questions of a variant are those of its base in some order, each as it
may be shown. -/
theorem layOut_shownAs (layout : Layout) (base : List VariantQuestion)
    (generator : Generator) :
    ∃ ordered, ordered.Perm base ∧ List.Forall₂ VariantQuestion.ShownAs ordered
        (layOut layout base generator).1 := by
  unfold layOut
  split
  next ordered generator' chosen =>
    refine ⟨ordered, ?_, layOutQuestions_shownAs layout ordered generator'⟩
    split at chosen
    · have := shuffle_perm base generator
      rwa [chosen] at this
    · cases chosen
      exact List.Perm.refl base

theorem mem_arrangeWith {layout : Layout} {base : List VariantQuestion}
    {labels : List String} {generator : Generator} {variant : LabelledVariant}
    (membership : variant ∈ (arrangeWith layout base labels generator).1) :
    ∃ start, variant.questions = (layOut layout base start).1 := by
  induction labels generalizing generator with
  | nil => simp [arrangeWith] at membership
  | cons label rest ih =>
      simp only [arrangeWith, List.mem_cons] at membership
      rcases membership with here | later
      · exact ⟨generator, by rw [here]⟩
      · exact ih later

theorem map_label_arrangeWith (layout : Layout) (base : List VariantQuestion)
    (labels : List String) (generator : Generator) :
    (arrangeWith layout base labels generator).1.map (·.label) = labels := by
  induction labels generalizing generator with
  | nil => rfl
  | cons label rest ih => rw [arrangeWith, List.map_cons, ih]

/-- The variants are lettered in order. -/
theorem map_label_arrange (layout : Layout) (base : List VariantQuestion)
    (generator : Generator) :
    (arrange layout base generator).1.map (·.label) =
      variantLabels.take layout.variantCount :=
  map_label_arrangeWith layout base _ generator

/-- There is a variant as soon as one is wanted. -/
theorem arrange_ne_nil {layout : Layout} {base : List VariantQuestion}
    {generator : Generator} (wanted : 0 < layout.variantCount) :
    (arrange layout base generator).1 ≠ [] := by
  obtain ⟨count, same⟩ :=
    Nat.exists_eq_succ_of_ne_zero (Nat.pos_iff_ne_zero.mp wanted)
  rw [arrange, same, variantLabels, Nat.succ_eq_add_one, List.take_succ_cons]
  exact nofun

/-- Every variant of an arrangement shows the base in some order. -/
theorem arrange_shownAs {layout : Layout} {base : List VariantQuestion}
    {generator : Generator} {variant : LabelledVariant}
    (membership : variant ∈ (arrange layout base generator).1) :
    ∃ ordered, ordered.Perm base ∧
      List.Forall₂ VariantQuestion.ShownAs ordered variant.questions := by
  obtain ⟨start, shown⟩ := mem_arrangeWith membership
  rw [shown]
  exact layOut_shownAs layout base start

/-- A layout that shuffles no questions shows the base in its order. -/
theorem arrange_inOrder {layout : Layout} {base : List VariantQuestion}
    {generator : Generator} {variant : LabelledVariant}
    (fixed : layout.shuffleQuestions = false)
    (membership : variant ∈ (arrange layout base generator).1) :
    List.Forall₂ VariantQuestion.ShownAs base variant.questions := by
  obtain ⟨start, shown⟩ := mem_arrangeWith membership
  rw [shown, layOut, fixed]
  exact layOutQuestions_shownAs layout base start

/-- What showing a question does not change is the same in every variant, up to
the order. -/
theorem map_perm_of_arrange {α : Type} {key : VariantQuestion → α}
    {layout : Layout} {base : List VariantQuestion} {generator : Generator}
    {variant : LabelledVariant}
    (kept : ∀ question shown : VariantQuestion, question.ShownAs shown →
      key shown = key question)
    (membership : variant ∈ (arrange layout base generator).1) :
    (variant.questions.map key).Perm (base.map key) := by
  obtain ⟨ordered, reordered, pairs⟩ := arrange_shownAs membership
  rw [map_eq_of_forall₂ pairs kept]
  exact reordered.map key

/-- Every question of a variant is a question of the base as it may be shown. -/
theorem exists_shownAs_of_arrange {layout : Layout}
    {base : List VariantQuestion} {generator : Generator}
    {variant : LabelledVariant} {shown : VariantQuestion}
    (membership : variant ∈ (arrange layout base generator).1)
    (inside : shown ∈ variant.questions) :
    ∃ question ∈ base, question.ShownAs shown := by
  obtain ⟨ordered, reordered, pairs⟩ := arrange_shownAs membership
  obtain ⟨question, listed, shownAs⟩ := exists_mem_left_of_forall₂ pairs inside
  exact ⟨question, reordered.mem_iff.mp listed, shownAs⟩

end ExamHall
