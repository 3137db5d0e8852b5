import ExamHall.Proofs.Exam.Drafting
import ExamHall.Proofs.Exam.Generating
import ExamHall.Proofs.Store.Enforced

/-!
# Storing a sheet and reading it back

A sheet with nothing on it that the tables would not take is stored.  Its rows
keep every column, check and key, and they make the same sheet again.

Whoever manages a test is shown the sheet that its rows make.  The rows of a
test are written once: whatever else is done to the tables, the sheet stays the
same.
-/

namespace ExamHall

open Store Column

variable {now : Instant} {store : Store} {testId : String}
  {sheets : List TestVariant}

/-! ## Rows -/

/-- A row of a test that the columns and the checks of its table admit. -/
structure GeneratedTest.FitsTable (row : GeneratedTest) : Prop where
  ownerId : FitsId row.ownerId
  title : hasNul row.title = false ∧ row.title.length ≤ titleWidth
  subjectId : ∀ id, row.subjectId = some id → FitsId id
  topicId : ∀ id, row.topicId = some id → FitsId id
  requestedCount : int32 row.requestedCount = .ok row.requestedCount
  percentages : ∀ difficulty, int32 (row.percentages.get difficulty) =
    .ok (row.percentages.get difficulty)
  counts : ∀ difficulty,
    int32 (row.counts.get difficulty) = .ok (row.counts.get difficulty)
  variantCount : 1 ≤ row.variantCount ∧ row.variantCount ≤ 10
  seed : -(twoTo 63 : Int) ≤ row.seed ∧ row.seed < twoTo 63
  whole :
    row.percentages.easy + row.percentages.medium + row.percentages.hard = 100

/-- The rows of the variants of a test that the columns, the checks and the keys
of their table admit.  Their documents are read back. -/
structure VariantsFitTable (testId : String)
    (rows : List (Variant (Stored (List VariantQuestion)))) : Prop where
  number : 1 ≤ rows.length ∧ rows.length ≤ 10
  tests : ∀ row ∈ rows, row.testId = testId
  letters : ∀ row ∈ rows, row.label.length = 1
  apart : (rows.map (·.label)).Nodup
  positions : rows.map (·.position) = (List.range rows.length).map Int.ofNat
  documents : ∀ row ∈ rows, ∃ questions, row.questions = .written questions ∧
    documentHasNul (row.questions.toJson fun questions =>
      .list (questions.map VariantQuestion.toJson)) = false ∧
    Json.asList VariantQuestion.ofJson (row.questions.toJson fun questions =>
      .list (questions.map VariantQuestion.toJson)) = .ok questions

/-- A variant on a sheet is the one of a row. -/
structure TestVariant.IsStoredAs (sheet : TestVariant)
    (row : Variant (Stored (List VariantQuestion))) : Prop where
  id : sheet.id = some row.id
  label : sheet.label = row.label
  questions : row.questions = .written sheet.questions

/-! ## Numbers -/

theorem Exam.signedWord_of_lt {value : Nat} (small : value < twoTo 31) :
    Exam.signedWord 32 value = value := by
  have half : twoTo 31 = 2147483648 := rfl
  have whole : twoTo 32 = 4294967296 := rfl
  rw [Exam.signedWord, whole]
  apply Int.bmod_eq_of_le <;> omega

theorem int32_natCast {value : Nat} (small : value < twoTo 31) :
    int32 (value : Int) = .ok (value : Int) := by
  apply if_pos
  omega

theorem Exam.signedWord_bounds (value : Nat) :
    -(twoTo 63 : Int) ≤ Exam.signedWord 64 value ∧
    Exam.signedWord 64 value < twoTo 63 := by
  have low := @Int.le_bmod value (twoTo 64) (twoTo_pos 64)
  have high := @Int.bmod_lt value (twoTo 64) (twoTo_pos 64)
  have half : twoTo 63 = 9223372036854775808 := rfl
  have whole : twoTo 64 = 18446744073709551616 := rfl
  unfold Exam.signedWord
  omega

/-- A seed of 64 bits is read back from a signed column. -/
theorem Exam.signedWord_toNat {value : Nat} (small : value < twoTo 64) :
    (Exam.signedWord 64 value % (twoTo 64 : Nat)).toNat = value := by
  rw [Exam.signedWord, Int.bmod_emod,
    Int.emod_eq_of_lt (Int.natCast_nonneg value) (Int.ofNat_lt.mpr small),
    Int.toNat_natCast]

/-! ## Letters -/

theorem TestSheet.IsStorable.length_variants {sheet : TestSheet}
    (storable : sheet.IsStorable) :
    1 ≤ sheet.variants.length ∧ sheet.variants.length ≤ 10 := by
  obtain ⟨number, positive, most, labels⟩ := storable.labels
  have length := congrArg List.length labels
  rw [List.length_map, List.length_take_of_le most] at length
  exact length ▸ ⟨positive, most⟩

/-- The variants of a sheet that can be stored have letters of their own. -/
theorem TestSheet.IsStorable.letters {sheet : TestSheet}
    (storable : sheet.IsStorable) :
    (∀ variant ∈ sheet.variants, variant.label.length = 1 ∧
      hasNul variant.label = false) ∧ (sheet.variants.map (·.label)).Nodup := by
  obtain ⟨number, -, -, labels⟩ := storable.labels
  have letters : ∀ label ∈ variantLabels, label.length = 1 ∧
      hasNul label = false := by
    decide +kernel
  have apart : variantLabels.Nodup := by
    decide +kernel
  constructor
  · intro variant inside
    have listed : variant.label ∈ variantLabels.take number :=
      labels ▸ List.mem_map_of_mem inside
    exact letters _ (List.mem_of_mem_take listed)
  · rw [labels]
    exact apart.sublist (List.take_sublist _ _)

/-! ## Storing a test -/

/-- The row of a test whose texts fit into their columns. -/
def NewTest.row (test : NewTest) (id : String) : GeneratedTest :=
  { id
    ownerId := test.ownerId
    title := test.title
    mode := test.mode
    subjectId := test.subjectId
    topicId := test.topicId
    requestedCount := test.requestedCount
    percentages := test.percentages
    counts := test.counts
    shuffleQuestions := test.shuffleQuestions
    shuffleOptions := test.shuffleOptions
    variantCount := test.variantCount
    seed := test.seed
    createdAt := Column.time test.createdAt }

theorem id?_of_fits {id? : Option String}
    (fits : ∀ id, id? = some id → FitsId id) : Column.id? id? = .ok id? := by
  cases id? with
  | none => rfl
  | some id => exact congrArg (some <$> ·) (fits id rfl).id_eq_ok

theorem testRow_of_fits {id : String} {test : NewTest}
    (fits : (test.row id).FitsTable) : testRow id test = .ok (test.row id) := by
  have owner : Column.id test.ownerId = .ok test.ownerId :=
    fits.ownerId.id_eq_ok
  have title : Column.bounded titleWidth test.title = .ok test.title :=
    if_pos fits.title.2
  have subject : Column.id? test.subjectId = .ok test.subjectId :=
    id?_of_fits fits.subjectId
  have topic : Column.id? test.topicId = .ok test.topicId :=
    id?_of_fits fits.topicId
  simp only [testRow, owner, title, subject, topic]
  rfl

/-- A test whose row fits its table is stored. -/
theorem exists_createTest {test : NewTest} (reach : store.CanReach [.tests])
    (fits : ∀ id, (test.row id).FitsTable) :
    ∃ id issued, createTest test store = .ok (test.row id,
      { store with tests := store.tests ++ [test.row id], issued }) := by
  have fit := fits (idOf "test" (nextTestNumber store))
  have texts : ∀ text ∈ [test.ownerId, test.title] ++ test.subjectId.toList ++
      test.topicId.toList, hasNul text = false := by
    simp only [List.forall_mem_append, List.forall_mem_cons, Option.mem_toList]
    exact ⟨⟨⟨fit.ownerId.plain, fit.title.1, List.forall_mem_nil _⟩,
      fun id given => (fit.subjectId id given).plain⟩,
      fun id given => (fit.topicId id given).plain⟩
  have sound : isSoundTest (test.row (idOf "test" (nextTestNumber store))) =
      true := by
    simp [isSoundTest, fit.variantCount, fit.whole]
  refine ⟨idOf "test" (nextTestNumber store),
    { store.issued with tests := nextTestNumber store }, ?_⟩
  simp only [createTest, bind_eq_ok, Statement.plain_eq_ok,
    Statement.reach_eq_ok, issueTestId_eq_ok, Statement.ofExcept_eq_ok,
    Statement.ensure_eq_ok, modify_eq_ok, pure_eq_ok]
  exact ⟨(), store, ⟨texts, rfl⟩, (), store, ⟨reach, rfl⟩, _, _, ⟨rfl, rfl⟩, _,
    _, ⟨testRow_of_fits fit, rfl⟩, (), _, ⟨sound, rfl⟩, (), _, rfl, rfl, rfl⟩

/-! ## Storing variants -/

/-- The document of questions that can be stored has no character zero in it. -/
theorem documentHasNul_of_isStorable {questions : List VariantQuestion}
    (storable : ∀ question ∈ questions, question.IsStorable) :
    documentHasNul (.list (questions.map VariantQuestion.toJson)) = false := by
  simp only [documentHasNul, itemsHaveNul_eq_false, List.forall_mem_map]
  exact fun question inside => (storable question inside).plain

/-- A variant with a letter and a place of its own is stored. -/
theorem exists_createVariant {label : String} {position : Int}
    {questions : List VariantQuestion}
    (plain : hasNul testId = false) (known : testId ∈ store.tests.map (·.id))
    (reach : store.CanReach [.variants]) (letter : label.length = 1)
    (plainLabel : hasNul label = false)
    (storable : ∀ question ∈ questions, question.IsStorable)
    (free : ∀ other ∈ store.variants, other.testId = testId →
      other.label ≠ label ∧ other.position ≠ position) :
    ∃ row issued, row.label = label ∧ row.position = position ∧
      row.testId = testId ∧ row.questions = .written questions ∧
      createVariant testId label position questions now store =
        .ok ({ row with questions },
          { store with variants := store.variants ++ [row], issued }) := by
  have texts : ∀ text ∈ [testId, label], hasNul text = false := by
    simp [plain, plainLabel]
  have kept : Column.bounded 1 label = .ok label := if_pos letter.le
  have document : Column.document
      (fun questions => .list (questions.map VariantQuestion.toJson))
      questions = .ok (.written questions) :=
    if_neg (by simp [documentHasNul_of_isStorable storable])
  have apart : ∀ row : Variant (Stored (List VariantQuestion)),
      row.testId = testId → row.label = label → row.position = position →
      (!store.variants.any (clashes row)) = true := by
    rintro row rfl rfl rfl
    simp only [Bool.not_eq_true', List.any_eq_false, clashes]
    intro other inside
    have := free other inside
    grind
  refine ⟨⟨idOf "variant" (nextVariantNumber store), testId, label, position,
    .written questions, Column.time now⟩,
    { store.issued with variants := nextVariantNumber store }, rfl, rfl,
    rfl, rfl, ?_⟩
  simp only [createVariant, bind_eq_ok, Statement.plain_eq_ok,
    Statement.reach_eq_ok, issueVariantId_eq_ok, Statement.ofExcept_eq_ok,
    Statement.ensure_eq_ok, get_eq_ok, set_eq_ok, pure_eq_ok]
  exact ⟨(), store, ⟨texts, rfl⟩, (), store, ⟨reach, rfl⟩, _, _, ⟨rfl, rfl⟩,
    label, _, ⟨kept, rfl⟩, _, _, ⟨document, rfl⟩, _, _, ⟨rfl, rfl⟩, (), _,
    ⟨apart _ rfl rfl rfl, rfl⟩, (), _, ⟨List.contains_iff_mem.mpr known, rfl⟩,
    ⟨⟩, _, rfl, rfl, rfl⟩

namespace Exam

/-- Variants with letters of their own are stored. -/
theorem exists_storeVariants {first : Nat} (plain : hasNul testId = false)
    (known : testId ∈ store.tests.map (·.id))
    (reach : store.CanReach [.variants])
    (letters : ∀ sheet ∈ sheets, sheet.label.length = 1 ∧
      hasNul sheet.label = false) (apart : (sheets.map (·.label)).Nodup)
    (storable : ∀ sheet ∈ sheets, ∀ question ∈ sheet.questions,
      question.IsStorable)
    (free : ∀ other ∈ store.variants, other.testId = testId →
      other.position < first ∧ other.label ∉ sheets.map (·.label)) :
    ∃ stored added issued, storeVariants testId now first sheets store = .ok
        (stored, { store with variants := store.variants ++ added, issued }) ∧
      List.Forall₂ TestVariant.IsStoredAs stored added ∧
      added.map (·.label) = sheets.map (·.label) := by
  induction sheets generalizing store first with
  | nil => exact ⟨[], [], store.issued, by simp [storeVariants, pure_eq_ok],
    .nil, rfl⟩
  | cons sheet rest ih =>
      obtain ⟨letter, letters⟩ := List.forall_mem_cons.mp letters
      obtain ⟨here, later⟩ := List.forall_mem_cons.mp storable
      obtain ⟨new, apart⟩ := List.nodup_cons.mp apart
      have vacant : ∀ other ∈ store.variants, other.testId = testId →
          other.label ≠ sheet.label ∧ other.position ≠ (first : Int) := by
        intro other inside same
        obtain ⟨before, unused⟩ := free other inside same
        rw [List.map_cons, List.mem_cons, not_or] at unused
        exact ⟨unused.1, Int.ne_of_lt before⟩
      obtain ⟨row, issued, label, position, test, document, created⟩ :=
        @exists_createVariant now store testId sheet.label first
          sheet.questions plain known reach letter.1 letter.2 here vacant
      have still : ∀ other ∈ store.variants ++ [row], other.testId = testId →
          other.position < (first + 1 : Nat) ∧
          other.label ∉ rest.map (·.label) := by
        intro other inside same
        rcases List.mem_append.mp inside with old | listed
        · obtain ⟨before, unused⟩ := free other old same
          rw [List.map_cons, List.mem_cons, not_or] at unused
          exact ⟨by omega, unused.2⟩
        · obtain rfl := List.mem_singleton.mp listed
          rw [position, label]
          exact ⟨by omega, new⟩
      obtain ⟨stored, added, issued', others, made, labels⟩ :=
        @ih { store with variants := store.variants ++ [row], issued }
          (first + 1) known reach letters apart later still
      refine ⟨{ sheet with id := some row.id } :: stored, row :: added, issued',
        ?_, .cons ⟨rfl, label.symm, document⟩ made, by
        rw [List.map_cons, List.map_cons, label, labels]⟩
      simp only [storeVariants, bind_eq_ok, pure_eq_ok]
      refine ⟨_, _, created, _, _, others, rfl, ?_⟩
      simp

/-! ## Storing a sheet -/

/-- Rows of a test and its variants make a sheet. -/
def Makes (test : GeneratedTest)
    (rows : List (Variant (Stored (List VariantQuestion))))
    (sheet : TestSheet) : Prop :=
  ∃ variants, rows.mapM Variant.read? = some variants ∧
    storedSheet test variants = sheet

theorem exists_read {stored : List TestVariant}
    {rows : List (Variant (Stored (List VariantQuestion)))}
    (made : List.Forall₂ TestVariant.IsStoredAs stored rows) :
    ∃ variants, rows.mapM Variant.read? = some variants ∧ variants.map
        (fun variant => ⟨some variant.id, variant.label, variant.questions⟩) =
        stored := by
  induction made with
  | nil => exact ⟨[], rfl, rfl⟩
  | @cons sheet row _ _ here _ ih =>
      obtain ⟨variants, read, same⟩ := ih
      have first
        : row.read? = some { row with questions := sheet.questions } := by
        rw [Variant.read?, here.questions]
        rfl
      refine ⟨{ row with questions := sheet.questions } :: variants, ?_, ?_⟩
      · simp [List.mapM_cons, first, read]
      · rw [List.map_cons, same, ← here.id, ← here.label]

variable {author : Caller} {request : GenerationRequest} {draft : TestSheet}

theorem whole_of_get {values : PerDifficulty Int} {shares : PerDifficulty Nat}
    (same : ∀ difficulty, values.get difficulty = shares.get difficulty) :
    values.easy + values.medium + values.hard = shares.sum := by
  have easy : values.easy = shares.easy := same .easy
  have medium : values.medium = shares.medium := same .medium
  have hard : values.hard = shares.hard := same .hard
  simp [easy, medium, hard, PerDifficulty.sum]

theorem get_map_signedWord {values : PerDifficulty Nat}
    (small : values.sum < twoTo 31) (difficulty : Difficulty) :
    (values.map (signedWord 32)).get difficulty = values.get difficulty := by
  rw [PerDifficulty.map, PerDifficulty.get_of]
  exact signedWord_of_lt ((PerDifficulty.get_le_sum difficulty).trans_lt small)

-- The fields of a new test are read by simp: a check by rfl would evaluate the
-- words that they are kept in.
theorem requestedCount_newTest (small : draft.requestedCount < twoTo 31) :
    (newTest author request draft now).requestedCount =
      draft.requestedCount := by
  simp only [newTest]
  exact signedWord_of_lt small

theorem get_percentages_newTest (small : draft.percentages.sum < twoTo 31)
    (difficulty : Difficulty) :
    (newTest author request draft now).percentages.get difficulty =
      draft.percentages.get difficulty := by
  simp only [newTest]
  exact get_map_signedWord small difficulty

theorem get_counts_newTest (small : draft.counts.sum < twoTo 31)
    (difficulty : Difficulty) :
    (newTest author request draft now).counts.get difficulty =
      draft.counts.get difficulty := by
  simp only [newTest]
  exact get_map_signedWord small difficulty

theorem seed_newTest :
    (newTest author request draft now).seed = signedWord 64 draft.seed := by
  simp only [newTest]

/-- The row of a sheet that can be stored fits its table. -/
theorem row_newTest_fitsTable (owner : FitsId author.id)
    (subject : ∀ id, (filtersOf request.source).1 = some id → FitsId id)
    (topic : ∀ id, (filtersOf request.source).2 = some id → FitsId id)
    (storable : draft.IsStorable) (id : String) :
    ((newTest author request draft now).row id).FitsTable := by
  have number := storable.length_variants
  have sum := storable.percentages
  have whole : draft.percentages.sum < twoTo 31 := sum ▸ by decide
  have counted : draft.counts.sum < twoTo 31 :=
    storable.counts ▸ storable.requested
  have percentage := @get_percentages_newTest now author request draft whole
  exact
    { ownerId := owner
      title := ⟨storable.title, storable.short⟩
      subjectId := subject
      topicId := topic
      requestedCount := by
        simp only [NewTest.row, requestedCount_newTest storable.requested]
        exact int32_natCast storable.requested
      percentages := by
        intro difficulty
        simp only [NewTest.row, percentage]
        exact int32_natCast
          ((PerDifficulty.get_le_sum difficulty).trans_lt whole)
      counts := by
        intro difficulty
        simp only [NewTest.row, get_counts_newTest counted]
        exact int32_natCast
          ((PerDifficulty.get_le_sum difficulty).trans_lt counted)
      variantCount := by
        simp only [NewTest.row, newTest]
        omega
      seed := by
        simp only [NewTest.row, seed_newTest]
        exact signedWord_bounds draft.seed
      whole := by
        simp only [NewTest.row]
        exact (whole_of_get percentage).trans (congrArg Int.ofNat sum) }

theorem map_toNat_signedWord {values : PerDifficulty Nat}
    (small : values.sum < twoTo 31) :
    (values.map (signedWord 32)).map Int.toNat = values := by
  apply PerDifficulty.ext_get
  intro difficulty
  rw [PerDifficulty.map, PerDifficulty.get_of, get_map_signedWord small,
    Int.toNat_natCast]

/-- The row of a sheet keeps all that is on it. -/
theorem storedSheet_row (storable : draft.IsStorable) (id : String)
    (variants : List (Variant (List VariantQuestion))) :
    storedSheet ((newTest author request draft now).row id) variants =
      { draft with
        id := some id
        createdAt := some (Column.time now)
        variants := variants.map fun variant =>
          ⟨some variant.id, variant.label, variant.questions⟩ } := by
  have whole : draft.percentages.sum < twoTo 31 :=
    storable.percentages ▸ by decide
  have counted : draft.counts.sum < twoTo 31 :=
    storable.counts ▸ storable.requested
  simp only [storedSheet, NewTest.row, newTest,
    signedWord_of_lt storable.requested,
    Int.toNat_natCast, map_toNat_signedWord whole, map_toNat_signedWord counted,
    signedWord_toNat storable.seed]

/-- A sheet has been stored: the rows fit their tables, keep out of the way of
all others, and make the sheet. -/
structure StoresSheet (store : Store) (ownerId : String)
    (draft sheet : TestSheet) (test : GeneratedTest)
    (rows : List (Variant (Stored (List VariantQuestion)))) : Prop where
  fits : test.FitsTable
  fit : VariantsFitTable test.id rows
  owned : test.ownerId = ownerId
  fresh : test.id ∉ store.tests.map (·.id)
  makes : Makes test rows sheet
  content : sheet.content = draft.content

/-- Rows that have been stored for a sheet that can be stored fit their
table. -/
theorem VariantsStored.fitTable
    {rows : List (Variant (Stored (List VariantQuestion)))}
    (stored : VariantsStored testId 0 draft.variants store rows)
    (labels : rows.map (·.label) = draft.variants.map (·.label))
    (storable : draft.IsStorable) : VariantsFitTable testId rows := by
  obtain ⟨letters, apart⟩ := storable.letters
  have count : draft.variants.length = rows.length := by
    simpa using (congrArg List.length labels).symm
  exact
    { number := count ▸ storable.length_variants
      tests := stored.tests
      letters := by
        intro row inside
        obtain ⟨sheet, listed, label⟩ :=
          List.mem_map.mp (labels ▸ List.mem_map_of_mem inside)
        exact label ▸ (letters sheet listed).1
      apart := labels ▸ apart
      positions := by rw [stored.positions, List.range_eq_range']
      documents := by
        intro row inside
        obtain ⟨sheet, listed, written⟩ :=
          exists_mem_left_of_forall₂ stored.documents inside
        have keeps := storable.questions sheet listed
        refine ⟨sheet.questions, written, ?_, ?_⟩
        · rw [written]
          exact documentHasNul_of_isStorable keeps
        · rw [written]
          exact VariantQuestion.questionsOfJson_toJson fun question asked =>
            (keeps question asked).toIsReadable }

/-- A sheet that can be stored is stored, and what is stored makes the sheet
that is returned. -/
theorem exists_storeTest (lawful : LawfulTests store.tests store.variants)
    (reach : store.CanReach [.tests, .variants]) (owner : FitsId author.id)
    (subject : ∀ id, (filtersOf request.source).1 = some id → FitsId id)
    (topic : ∀ id, (filtersOf request.source).2 = some id → FitsId id)
    (storable : draft.IsStorable) :
    ∃ sheet test rows issued,
      StoresSheet store author.id draft sheet test rows ∧
      storeTest (newTest author request draft now) draft now store =
        .ok (sheet, { store with
          tests := store.tests ++ [test]
          variants := store.variants ++ rows
          issued }) := by
  obtain ⟨letters, apart⟩ := storable.letters
  have reachTests := reach.of_subset (by decide : [Table.tests] ⊆ _)
  have reachVariants := reach.of_subset (by decide : [Table.variants] ⊆ _)
  have fits :=
    @row_newTest_fitsTable now author request draft owner subject topic storable
  obtain ⟨id, issued, created⟩ := exists_createTest reachTests fits
  obtain ⟨fresh, key, -⟩ := createTest_fresh created
  have free : ∀ other ∈ store.variants, other.testId = id →
      other.position < (0 : Nat) ∧
      other.label ∉ draft.variants.map (·.label) := by
    rintro other inside rfl
    exact (fresh (lawful.variantTests other inside)).elim
  obtain ⟨stored, rows, issued', storing, made, sameLabels⟩ :=
    @exists_storeVariants now { store with
        tests := store.tests ++ [(newTest author request draft now).row id],
        issued }
      id draft.variants 0 key.plain (by simp [NewTest.row]) reachVariants
      letters apart storable.questions free
  have content := storeVariants_content storing
  obtain ⟨variants, read, same⟩ := exists_read made
  obtain ⟨added, _, places, after⟩ := storeVariants_stored storing
  obtain rfl : rows = added :=
    List.append_cancel_left (congrArg Store.variants after)
  refine ⟨storedSheet ((newTest author request draft now).row id) variants, _,
    rows, issued', ⟨fits id, places.fitTable sameLabels storable, rfl, fresh,
      ⟨variants, read, rfl⟩, ?_⟩, ?_⟩
  · rw [storedSheet_row storable, same]
    simp only [TestSheet.content, content]
  · simp only [storeTest, bind_eq_ok, pure_eq_ok]
    refine ⟨_, _, created, _, _, storing, ?_, rfl⟩
    rw [storedSheet_row storable, same]
    rfl

/-- A request whose preview succeeds is met, and its sheet is stored. -/
theorem exists_generated {context : Context} {world : World}
    (lawful : world.store.Lawful)
    (bank : ∀ row ∈ world.store.questions, row.IsStorable)
    (owner : FitsId author.id) (storable : request.IsStorable)
    (stored : request.preview = false)
    (reach : world.store.CanReach [.tests, .variants])
    (drafts : (generate author { request with preview := true } context world).1
      = .ok draft) (few : draft.requestedCount < twoTo 31) :
    ∃ sheet test rows issued,
      StoresSheet world.store author.id draft sheet test rows ∧
      (generate author request context world).1 = .ok sheet ∧
      (generate author request context world).2.store = { world.store with
        tests := world.store.tests ++ [test],
        variants := world.store.variants ++ rows, issued } := by
  obtain ⟨fits, subject, topic⟩ :=
    draft_isStorable lawful.bank bank storable drafts few
  obtain ⟨_, _, middle, -, -, -, same, ends⟩ :=
    exists_drafted lawful.bank.ids drafts
  obtain ⟨sheet, test, rows, issued, stores, storing⟩ :=
    @exists_storeTest context.now world.store author request draft lawful.tests
      reach owner subject topic fits
  rw [← same] at storing
  have published : publish author request draft context.now =
      Action.query (storeTest (newTest author request draft context.now) draft
        context.now) := by
    simp [publish, stored]
  rw [ends, published, Action.query_of_ok storing, same]
  exact ⟨sheet, test, rows, issued, stores, rfl, rfl⟩

end Exam

/-! ## Showing a stored test -/

section Showing

variable {now : Instant} {store before after : Store} {test : GeneratedTest}
  {draft sheet : TestSheet}
  {rows : List (Variant (Stored (List VariantQuestion)))}

namespace Store

/-- The rows of the variants of a test, by position. -/
def variantRows (store : Store) (testId : String) :
    List (Variant (Stored (List VariantQuestion))) :=
  (store.variants.filter fun variant => variant.testId == testId).mergeSort
    fun left right => decide (left.position ≤ right.position)

theorem variantsOf_eq_ok {testId : String}
    {found : List (Variant (List VariantQuestion))} :
    variantsOf testId before = .ok (found, after) ↔
      Column.hasNul testId = false ∧
    before.CanReach [.variants] ∧ after = before ∧
    (before.variantRows testId).mapM Variant.read? = some found := by
  simp only [variantsOf, bind_eq_ok, Statement.plain_eq_ok,
    Statement.reach_eq_ok, Statement.readAll_eq_ok]
  constructor
  · rintro ⟨_, _, ⟨plain, rfl⟩, _, _, ⟨reached, rfl⟩, read, rfl⟩
    exact ⟨plain testId List.mem_cons_self, reached, rfl, read⟩
  · rintro ⟨plain, reached, rfl, read⟩
    exact ⟨⟨⟩, after, ⟨by simpa using plain, rfl⟩, ⟨⟩, after, ⟨reached, rfl⟩,
      read, rfl⟩

/-- A store holds a test whose rows make a sheet. -/
structure Holds (store : Store) (test : GeneratedTest) (sheet : TestSheet) :
    Prop where
  listed : test ∈ store.tests
  makes : Exam.Makes test (store.variantRows test.id) sheet

/-- New variants of other tests are not among the variants of a test. -/
theorem variantRows_of_append {testId : String}
    (same : after.variants = before.variants ++ rows)
    (others : ∀ row ∈ rows, row.testId ≠ testId) :
    after.variantRows testId = before.variantRows testId := by
  have none : rows.filter (fun row => row.testId == testId) = [] := by
    simpa [List.filter_eq_nil_iff] using others
  rw [variantRows, same, List.filter_append, none, List.append_nil]
  rfl

end Store

/-- A stored test stays as it is, whatever is changed. -/
theorem Change.holds (change : Change now before after)
    (holds : before.Holds test sheet) : after.Holds test sheet := by
  obtain ⟨listed, makes⟩ := holds
  cases change with
  | @generated created variants issued generates =>
      have others : ∀ row ∈ variants, row.testId ≠ test.id := by
        intro row inside same
        rw [generates.variantTests row inside] at same
        exact generates.fresh (same ▸ List.mem_map_of_mem listed)
      refine ⟨List.mem_append_left _ listed, ?_⟩
      rw [variantRows_of_append rfl others]
      exact makes
  | _ => exact ⟨listed, makes⟩

namespace Exam

/-- Rows at consecutive positions are in their order. -/
theorem mergeSort_of_positions
    (positions : rows.map (·.position) =
      (List.range rows.length).map Int.ofNat) :
    rows.mergeSort (fun left right => decide (left.position ≤ right.position)) =
      rows := by
  apply List.mergeSort_of_pairwise
  simp only [decide_eq_true_eq]
  apply List.pairwise_map.mp
  rw [positions, List.pairwise_map]
  exact List.pairwise_le_range.imp Int.ofNat_le.mpr

/-- A sheet that has been stored is held. -/
theorem StoresSheet.holds {ownerId : String} {issued : Issued}
    (lawful : LawfulTests store.tests store.variants)
    (stores : StoresSheet store ownerId draft sheet test rows) :
    { store with
      tests := store.tests ++ [test], variants := store.variants ++ rows,
      issued }.Holds test sheet := by
  have none :
      store.variants.filter (fun row => row.testId == test.id) = [] := by
    simp only [List.filter_eq_nil_iff, beq_iff_eq]
    intro row inside same
    exact stores.fresh (same ▸ lawful.variantTests row inside)
  have all : rows.filter (fun row => row.testId == test.id) = rows := by
    simpa [List.filter_eq_self] using stores.fit.tests
  refine ⟨List.mem_append_right _ (List.mem_singleton_self _), ?_⟩
  simp only [variantRows, List.filter_append, none, all, List.nil_append,
    mergeSort_of_positions stores.fit.positions]
  exact stores.makes

/-- A test that is held is shown to whoever manages it. -/
theorem showTest_of_holds {context : Context} {world : World} {caller : Caller}
    (lawful : LawfulTests world.store.tests world.store.variants)
    (reach : world.store.CanReach [.tests, .variants])
    (holds : world.store.Holds test sheet)
    (manages : caller.mayManage test.ownerId = true) :
    showTest caller test.id context world = (.ok sheet, world) := by
  obtain ⟨listed, variants, read, rfl⟩ := holds
  have plain := (lawful.keys test listed).plain
  have found : test? test.id world.store = .ok (some test, world.store) :=
    test?_eq_ok.mpr ⟨plain, reach.of_subset (by decide), rfl,
      (find?_key_eq_some lawful.ids listed).symm⟩
  have shown : variantsOf test.id world.store = .ok (variants, world.store) :=
    variantsOf_eq_ok.mpr ⟨plain, reach.of_subset (by decide), rfl, read⟩
  unfold showTest
  rw [Action.bind_apply_of_ok (Action.query_of_ok found),
    Action.bind_apply_of_ok rfl, manages]
  exact Action.bind_apply_of_ok (Action.query_of_ok shown)

end Exam

end Showing

end ExamHall
