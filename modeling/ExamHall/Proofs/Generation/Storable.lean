import ExamHall.Proofs.Generation.Selection
import ExamHall.Proofs.Question.Stored

/-!
# What is generated can be stored

The questions of a bank hold nothing that a column would not keep.  Freezing
them and laying them out adds nothing of the kind, so the documents of all
variants can be stored and read back.
-/

namespace ExamHall

open Column ExamHall.Random

/-- A row of a bank whose columns keep its values as they are. -/
structure Question.IsStorable (row : Question (Stored Payload)) : Prop where
  prompt : hasNul row.prompt = false
  subjectId : ∀ id, row.subjectId = some id → FitsId id
  topicId : ∀ id, row.topicId = some id → FitsId id
  points : Column.points row.points = .ok row.points
  version : Column.int32 row.version = .ok row.version
  payload : ∀ payload, row.payload.value? = some payload →
    documentHasNul payload.toJson = false

/-- A question of a variant that a document can hold, and that is read back from
it. -/
structure VariantQuestion.IsStorable (question : VariantQuestion) : Prop
    extends question.IsReadable where
  plain : documentHasNul question.toJson = false

variable {layout : Layout} {question shown : VariantQuestion}
  {base : List VariantQuestion} {generator : Generator}

/-! ## Freezing -/

theorem plainZero_of_coefficient_ne {value : Decimal}
    (positive : value.coefficient ≠ 0) : value.plainZero = value := by
  apply if_neg
  intro zero
  apply positive
  simp [Decimal.coefficient, zero]

/-- What a column of points keeps as it is has no minus sign at zero, and keeps
that when it is rounded. -/
theorem plainZero_roundPoints {value : Decimal}
    (kept : Column.points value = .ok value) :
    (roundPoints value).plainZero = roundPoints value := by
  simp only [Column.points, Column.amount] at kept
  split at kept
  · cases kept
    decide +kernel
  · next positive => exact plainZero_of_coefficient_ne positive

theorem isStorable_snapshot {row : Question (Stored Payload)}
    {question : Question Payload} (storable : row.IsStorable)
    (plain : hasNul row.id = false) (read : row.read? = some question) :
    (snapshot question).IsStorable := by
  obtain ⟨payload, value, rfl⟩ := Option.map_eq_some_iff.mp read
  refine ⟨⟨storable.version, plainZero_roundPoints storable.points⟩, ?_⟩
  apply VariantQuestion.documentHasNul_toJson.mpr
  exact ⟨plain, storable.prompt, storable.payload payload value, nofun, rfl⟩

/-! ## Laying out -/

theorem layOutQuestion_isStorable (storable : question.IsStorable)
    (usable : question.payload.isUsable = true) :
    (layOutQuestion layout question generator).1.IsStorable := by
  obtain ⟨id, prompt, payload, order, -⟩ :=
    VariantQuestion.documentHasNul_toJson.mp storable.plain
  cases choice : question.payload.options? with
  | none =>
      rw [layOutQuestion_of_closed choice]
      refine ⟨⟨storable.version, storable.points⟩, ?_⟩
      apply VariantQuestion.documentHasNul_toJson.mpr
      exact ⟨id, prompt, payload, order, hasNul_answerKey usable⟩
  | some options =>
      obtain ⟨shuffled, reordered, -, same⟩ :=
        @layOutQuestion_of_choice layout _ _ choice generator
      rw [same]
      refine ⟨⟨storable.version, storable.points⟩, ?_⟩
      have shown := options?_withOptions choice shuffled
      have plain : ∀ option ∈ shuffled, hasNul option.id = false ∧
          hasNul option.text = false :=
        fun option inside => (documentHasNul_of_options choice).mp payload
          option (reordered.mem_iff.mp inside)
      apply VariantQuestion.documentHasNul_toJson.mpr
      refine ⟨id, prompt, (documentHasNul_of_options shown).mpr plain, ?_,
        hasNul_answerKey_of_options shown⟩
      intro listed
      split
      · rintro ⟨⟩ id inside
        obtain ⟨option, listed, rfl⟩ := List.mem_map.mp inside
        exact (plain option listed).1
      · exact order listed

theorem mem_layOutQuestions
    (inside : shown ∈ (layOutQuestions layout base generator).1) :
    ∃ question ∈ base, ∃ start,
        shown = (layOutQuestion layout question start).1 := by
  induction base generalizing generator with
  | nil => cases inside
  | cons question rest ih =>
      rcases List.mem_cons.mp inside with here | later
      · exact ⟨question, List.mem_cons_self, generator, here⟩
      · obtain ⟨question, listed, start, same⟩ := ih later
        exact ⟨question, List.mem_cons_of_mem _ listed, start, same⟩

theorem mem_layOut (inside : shown ∈ (layOut layout base generator).1) :
    ∃ question ∈ base, ∃ start,
        shown = (layOutQuestion layout question start).1 := by
  unfold layOut at inside
  split at inside
  next ordered _ chosen =>
    obtain ⟨question, listed, start, same⟩ := mem_layOutQuestions inside
    refine ⟨question, ?_, start, same⟩
    split at chosen
    · have reordered := shuffle_perm base generator
      rw [chosen] at reordered
      exact reordered.mem_iff.mp listed
    · cases chosen
      exact listed

/-- All questions of an arrangement can be stored. -/
theorem arrange_isStorable {variant : LabelledVariant}
    (storable : ∀ question ∈ base, question.IsStorable ∧
      question.payload.isUsable = true)
    (membership : variant ∈ (arrange layout base generator).1) :
    ∀ shown ∈ variant.questions, shown.IsStorable := by
  intro shown inside
  obtain ⟨start, same⟩ := mem_arrangeWith membership
  rw [same] at inside
  obtain ⟨question, listed, start, rfl⟩ := mem_layOut inside
  exact layOutQuestion_isStorable (storable question listed).1
    (storable question listed).2

end ExamHall
