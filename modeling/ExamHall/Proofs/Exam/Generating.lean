import ExamHall.Proofs.Attempt.Pending
import ExamHall.Proofs.Exam.Action
import ExamHall.Proofs.Generation.Selection
import ExamHall.Proofs.Store.Rows

/-!
# Generating and storing a test

The questions of a request are selected and laid out.  Storing the sheet adds
ids and a time to it and nothing else, and a sheet that is not stored leaves
nothing behind.

A test is stored with all its variants.  They stand at the positions counted
from zero, none can be taken for another, and each is a paper if the sheet of
the test has papers.
-/

namespace ExamHall

open Store

variable {now : Instant} {before after : Store}

namespace Store

/-- The number of the next test's id. -/
def nextTestNumber (store : Store) : Nat :=
  freshNumber "test" (store.tests.map (·.id)) store.issued.tests

/-- The number of the next variant's id. -/
def nextVariantNumber (store : Store) : Nat :=
  freshNumber "variant" (store.variants.map (·.id)) store.issued.variants

theorem issueTestId_eq_ok {id : String} :
    issueTestId before = .ok (id, after) ↔
      id = idOf "test" (nextTestNumber before) ∧
    after =
      { before with
        issued := { before.issued with tests := nextTestNumber before } } := by
  constructor
  · intro ended
    cases ended
    exact ⟨rfl, rfl⟩
  · rintro ⟨rfl, rfl⟩
    rfl

theorem issueVariantId_eq_ok {id : String} :
    issueVariantId before = .ok (id, after) ↔
      id = idOf "variant" (nextVariantNumber before) ∧ after =
        { before with issued := { before.issued with
            variants := nextVariantNumber before } } := by
  constructor
  · intro ended
    cases ended
    exact ⟨rfl, rfl⟩
  · rintro ⟨rfl, rfl⟩
    rfl

theorem id_of_testRow {id : String} {test : NewTest} {row : GeneratedTest}
    (made : testRow id test = .ok row) : row.id = id := by
  simp only [testRow, exceptBind_eq_ok, Except.ok.injEq] at made
  obtain ⟨_, -, _, -, _, -, _, -, rfl⟩ := made
  rfl

/-- A new test has an id of its own. -/
theorem createTest_fresh {test : NewTest} {row : GeneratedTest}
    (ended : createTest test before = .ok (row, after)) :
    row.id ∉ before.tests.map (·.id) ∧ IsKey row.id ∧ ∃ issued,
      after = { before with tests := before.tests ++ [row], issued } := by
  simp only [createTest, bind_eq_ok, Statement.plain_eq_ok,
    Statement.reach_eq_ok, issueTestId_eq_ok, Statement.ofExcept_eq_ok,
    Statement.ensure_eq_ok, modify_eq_ok, pure_eq_ok] at ended
  obtain ⟨_, _, ⟨-, rfl⟩, _, store, ⟨-, rfl⟩, _, _, ⟨rfl, rfl⟩, row, _,
    ⟨made, rfl⟩, _, _, ⟨-, rfl⟩, _, _, rfl, rfl, rfl⟩ := ended
  rw [id_of_testRow made]
  exact ⟨idOf_freshNumber_not_mem _ _ _,
    isKey_idOf (by decide +kernel) _, _, rfl⟩

/-- A new variant has an id and a place of its own. -/
theorem createVariant_eq_ok {testId label : String} {position : Int}
    {questions : List VariantQuestion}
    {created : Variant (List VariantQuestion)}
    (ended : createVariant testId label position questions now before =
      .ok (created, after)) :
    ∃ row issued, row.id = idOf "variant" (nextVariantNumber before) ∧
      row.testId = testId ∧ row.position = position ∧
      row.questions = .written questions ∧
      (∀ other ∈ before.variants, clashes row other = false) ∧
      after = { before with variants := before.variants ++ [row], issued } := by
  simp only [createVariant, bind_eq_ok, Statement.plain_eq_ok,
    Statement.reach_eq_ok, issueVariantId_eq_ok, Statement.ofExcept_eq_ok,
    Statement.ensure_eq_ok, get_eq_ok, set_eq_ok,
    pure_eq_ok, Column.document] at ended
  obtain ⟨_, _, ⟨-, rfl⟩, _, store, ⟨-, rfl⟩, _, _, ⟨rfl, rfl⟩, label, _,
    ⟨-, rfl⟩, document, _, ⟨written, rfl⟩, _, _, ⟨rfl, rfl⟩, _, _, ⟨apart, rfl⟩,
    _, _, ⟨-, rfl⟩, _, _, rfl, -, rfl⟩ := ended
  split at written
  · cases written
  · cases written
    refine ⟨_, _, rfl, rfl, rfl, rfl, fun other inside => ?_, rfl⟩
    rw [Bool.eq_false_iff]
    intro clash
    rw [Bool.not_eq_true', List.any_eq_false] at apart
    exact apart other inside clash

theorem clashes_comm {π ρ : Type} (left : Variant π) (right : Variant ρ) :
    clashes left right = clashes right left := by
  simp only [clashes, Bool.beq_comm (a := left.testId)]
  grind

end Store

namespace Exam

/-- What has been added when the variants of a test are stored at the positions
from a first one on. -/
structure VariantsStored (testId : String) (first : Nat)
    (sheets : List TestVariant) (store : Store)
    (added : List (Variant (Stored (List VariantQuestion)))) : Prop where
  ids : (store.variants.map (·.id)).Nodup →
    ((store.variants ++ added).map (·.id)).Nodup
  keys : ∀ variant ∈ added, IsKey variant.id
  tests : ∀ variant ∈ added, variant.testId = testId
  places :
    (store.variants.Pairwise fun left right => clashes left right = false) →
    (store.variants ++ added).Pairwise fun left right =>
      clashes left right = false
  positions :
    added.map (·.position) = (List.range' first added.length).map Int.ofNat
  documents : List.Forall₂ (fun (sheet : TestVariant) variant =>
    variant.questions = .written sheet.questions) sheets added

/-- Storing variants one by one only appends to the variants. -/
theorem storeVariants_stored {testId : String} {first : Nat}
    {sheets stored : List TestVariant}
    (ended : storeVariants testId now first sheets before =
      .ok (stored, after)) :
    ∃ added issued, VariantsStored testId first sheets before added ∧
      after = { before with variants := before.variants ++ added, issued } := by
  induction sheets generalizing before first stored with
  | nil =>
      obtain ⟨-, rfl⟩ := pure_eq_ok.mp ended
      refine ⟨[], after.issued,
        ⟨?_, ?_, ?_, ?_, rfl, .nil⟩, by rw [List.append_nil]⟩
      · rw [List.append_nil]
        exact id
      · intro variant inside
        cases inside
      · intro variant inside
        cases inside
      · rw [List.append_nil]
        exact id
  | cons sheet rest ih =>
      simp only [storeVariants, bind_eq_ok, pure_eq_ok] at ended
      obtain ⟨created, middle, here, others, _, later, -, rfl⟩ := ended
      obtain ⟨row, issued, sameId, rfl, place, document, apart, rfl⟩ :=
        createVariant_eq_ok here
      obtain ⟨added, issued', kept, rfl⟩ := ih later
      have shift : (before.variants ++ [row]) ++ added =
        before.variants ++ row :: added := by simp
      have known : ∀ {good : Variant (Stored (List VariantQuestion)) → Prop},
          good row → (∀ variant ∈ added, good variant) →
          ∀ variant ∈ row :: added, good variant := by
        intro good new old variant inside
        rcases List.mem_cons.mp inside with rfl | listed
        · exact new
        · exact old variant listed
      refine ⟨row :: added, issued',
        ⟨?_, known ?_ kept.keys, known rfl kept.tests, ?_, ?_,
          .cons document kept.documents⟩, by rw [← shift]⟩
      · intro ids
        rw [← shift]
        apply kept.ids
        apply nodup_map_append_singleton ids
        exact sameId ▸ idOf_freshNumber_not_mem _ _ _
      · exact sameId ▸ isKey_idOf (by decide +kernel) _
      · intro places
        rw [← shift]
        apply kept.places
        apply pairwise_append_singleton places
        intro other inside
        rw [clashes_comm]
        exact apart other inside
      · rw [List.map_cons, kept.positions, place, List.length_cons,
          List.range'_succ]
        rfl

/-- Storing a test with its variants appends both. -/
theorem storeTest_stored {test : NewTest} {sheet stored : TestSheet}
    (ended : storeTest test sheet now before = .ok (stored, after)) :
    ∃ created added issued, created.id ∉ before.tests.map (·.id) ∧
      IsKey created.id ∧
      VariantsStored created.id 0 sheet.variants before added ∧
      after = { before with
        tests := before.tests ++ [created]
        variants := before.variants ++ added
        issued } := by
  simp only [storeTest, bind_eq_ok, pure_eq_ok] at ended
  obtain ⟨created, middle, creating, variants, _, storing, -, rfl⟩ := ended
  obtain ⟨fresh, key, issued, rfl⟩ := createTest_fresh creating
  obtain ⟨added, issued', stored, rfl⟩ := storeVariants_stored storing
  exact ⟨created, added, issued', fresh, key, ⟨stored.ids, stored.keys,
    stored.tests, stored.places, stored.positions, stored.documents⟩, rfl⟩

/-- A test is stored with its variants in one change. -/
theorem storeTest_handsOver {test : NewTest} {sheet stored : TestSheet}
    (lawful : before.Lawful) (nonempty : sheet.variants ≠ [])
    (papers : ∀ variant ∈ sheet.variants, IsPaper variant.questions)
    (ended : storeTest test sheet now before = .ok (stored, after)) :
    HandsOver now none before after := by
  obtain ⟨created, added, issued, fresh, key, stored, rfl⟩ :=
    storeTest_stored ended
  refine .single (.generated ⟨fresh, key, stored.ids lawful.tests.variantIds,
    stored.keys, stored.tests, stored.places lawful.tests.places, ?_, ?_,
    ?_⟩) (.of_attempts_eq rfl)
  · rw [stored.positions, List.range_eq_range']
  · rintro rfl
    cases sheets : sheet.variants with
    | nil => exact nonempty sheets
    | cons first rest =>
        rw [sheets] at stored
        cases stored.documents
  · intro variant inside
    obtain ⟨shown, listed, document⟩ :=
      exists_mem_left_of_forall₂ stored.documents inside
    exact ⟨shown.questions, document, papers shown listed⟩

end Exam

/-! ## How generating ends -/

/-- A variant without the id that storing it adds. -/
def TestVariant.content (variant : TestVariant) : TestVariant :=
  { variant with id := none }

/-- What a sheet says of a test, be the test stored or not. -/
def TestSheet.content (sheet : TestSheet) : TestSheet :=
  { sheet with
    id := none
    createdAt := none
    variants := sheet.variants.map TestVariant.content }

namespace Exam

open ExamHall.Action

theorem storeVariants_content {testId : String} {now : Instant} {first : Nat}
    {sheets stored : List TestVariant} {before after : Store}
    (ended : storeVariants testId now first sheets before =
      .ok (stored, after)) :
    stored.map TestVariant.content = sheets.map TestVariant.content := by
  induction sheets generalizing before first stored with
  | nil =>
      obtain ⟨rfl, -⟩ := pure_eq_ok.mp ended
      rfl
  | cons sheet rest ih =>
      simp only [storeVariants, bind_eq_ok, pure_eq_ok] at ended
      obtain ⟨_, _, -, others, _, later, rfl, rfl⟩ := ended
      rw [List.map_cons, List.map_cons, ih later]
      rfl

theorem storeTest_content {test : NewTest} {sheet stored : TestSheet}
    {now : Instant} {before after : Store}
    (ended : storeTest test sheet now before = .ok (stored, after)) :
    stored.content = sheet.content := by
  simp only [storeTest, bind_eq_ok, pure_eq_ok] at ended
  obtain ⟨created, _, -, variants, _, storing, rfl, -⟩ := ended
  simp only [TestSheet.content, storeVariants_content storing]

/-- How generating ends if selecting ends in one of some ways. -/
inductive Generates (context : Context) (store : Store) (author : Caller)
    (request : GenerationRequest)
    (selected : Except (Halt GenerationError) (Selection × Random.Generator) →
      Prop) : Except (Halt GenerationError) TestSheet → Prop where
  | unlettered (outside : ¬(0 < request.layout.variantCount ∧
        request.layout.variantCount ≤ maxVariants)) : Generates context store
      author request selected (.error (.refused .variantCount))
  | unselected {halt : Halt GenerationError}
      (lettered : 0 < request.layout.variantCount ∧
        request.layout.variantCount ≤ maxVariants)
      (failed : selected (.error halt)) :
      Generates context store author request selected (.error halt)
  | unstored
      {selection : Selection} {generator : Random.Generator} {sheet : TestSheet}
      {fault : StorageFault} (stored : request.preview = false)
      (lettered : 0 < request.layout.variantCount ∧
        request.layout.variantCount ≤ maxVariants)
      (chosen : selected (.ok (selection, generator)))
      (content : sheet.content =
        (previewOf request (seedOf request context.now) selection
          (arrange request.layout (selection.questions.map snapshot)
            generator).1 context.now).content)
      (failed : storeTest (newTest author request sheet context.now)
        sheet context.now store = .error fault) : Generates context store author
      request selected (.error (.refused (.storage fault)))
  | generated {selection : Selection} {generator : Random.Generator}
      {sheet : TestSheet} (lettered : 0 < request.layout.variantCount ∧
        request.layout.variantCount ≤ maxVariants)
      (chosen : selected (.ok (selection, generator)))
      (content : sheet.content =
        (previewOf request (seedOf request context.now) selection
          (arrange request.layout (selection.questions.map snapshot)
            generator).1 context.now).content) :
      Generates context store author request selected (.ok sheet)

/-- If selecting may also fail because something cannot be read, generating may
end with that fault. -/
theorem Generates.read_or_unread {context : Context} {store : Store}
    {author : Caller} {request : GenerationRequest} {unread : Prop}
    {selected : Except (Halt GenerationError) (Selection × Random.Generator) →
      Prop} {result : Except (Halt GenerationError) TestSheet}
    (generates : Generates context store author request (fun result =>
      (unread ∧ ∃ fault, result = .error (.refused (.storage fault))) ∨
      selected result) result) :
    Generates context store author request selected result ∨ unread ∧
    ∃ fault, result = .error (.refused (.storage fault)) := by
  cases generates with
  | unlettered outside => exact .inl (.unlettered outside)
  | unselected lettered failed =>
      rcases failed with ⟨lost, fault, same⟩ | failed
      · cases same
        exact .inr ⟨lost, fault, rfl⟩
      · exact .inl (.unselected lettered failed)
  | unstored stored lettered chosen content failed =>
      rcases chosen with ⟨-, _, lost⟩ | chosen
      · cases lost
      · exact .inl (.unstored stored lettered chosen content failed)
  | generated lettered chosen content =>
      rcases chosen with ⟨-, _, lost⟩ | chosen
      · cases lost
      · exact .inl (.generated lettered chosen content)

/-- Generating ends in one of these ways, and a request that fails leaves the
store as it is. -/
theorem generate_ends {context : Context} {store : Store} {author : Caller}
    {request : GenerationRequest}
    {selected : Except (Halt GenerationError) (Selection × Random.Generator) →
      Prop}
    (selects : Ends context (fun world => world.store = store) (selectFor author
      request.source (.ofSeed (UInt64.ofNat (seedOf request context.now))))
      fun result world => world.store = store ∧ selected result) :
    Ends context (fun world => world.store = store) (generate author request)
      fun result world =>
        Generates context store author request selected result ∧
        ∀ halt, result = .error halt → world.store = store := by
  unfold generate
  refine .bind (fun result world => world.store = store ∧ match result with
    | .ok () =>
        0 < request.layout.variantCount ∧
        request.layout.variantCount ≤ maxVariants
    | .error halt =>
        Generates context store author request selected (.error halt))
    (.require ?_ ?_) (fun _ => ?_) fun halt world failed =>
      ⟨failed.2, fun _ _ => failed.1⟩
  · intro passed world same
    exact ⟨same, by simpa using passed⟩
  · intro failed world same
    exact ⟨same, .unlettered (by simpa using failed)⟩
  apply Ends.reading
  refine .bind (fun result world => world.store = store ∧ selected result ∧
      0 < request.layout.variantCount ∧
      request.layout.variantCount ≤ maxVariants)
    (fun world begun => ?_) (fun chosen => ?_) fun halt world reached =>
      ⟨.unselected reached.2.2 reached.2.1, fun _ _ => reached.1⟩
  · obtain ⟨same, chosen⟩ := selects world begun.1
    exact ⟨same, chosen, begun.2⟩
  cases shown : request.preview with
  | true =>
      rintro world ⟨-, chosen, lettered⟩
      exact ⟨.generated lettered chosen rfl, nofun⟩
  | false =>
      refine .query ?_ ?_
      · rintro world ⟨rfl, chosen, lettered⟩ stored after ended
        exact ⟨.generated lettered chosen (storeTest_content ended), nofun⟩
      · rintro world ⟨rfl, chosen, lettered⟩ fault failed
        exact ⟨.unstored shown lettered chosen rfl failed, fun _ _ => rfl⟩

end Exam

end ExamHall
