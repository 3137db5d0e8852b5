import ExamHall.Proofs.Exam.Generating
import ExamHall.Proofs.Exam.Scoping
import ExamHall.Proofs.Session.Serving

/-!
# Tests by scope

A request for a number of questions in a scope succeeds exactly if the request
is within its bounds and the scope has enough questions of each difficulty.
Then every variant shows the same questions, as many of each difficulty as asked
for.  Otherwise the author learns of which difficulties there are too few.
-/

namespace ExamHall

open Store Apportion

/-- The bounds of a request for a number of questions, split into
percentages. -/
structure IsInBounds (most count : Nat) (percentages : PerDifficulty Nat) :
    Prop where
  positive : 0 < count
  most : count ≤ most
  each : ∀ difficulty, percentages.get difficulty ≤ 100
  whole : percentages.sum = 100

/-- A sheet of lettered variants that show the same questions of a pool, as many
of each difficulty as counted. -/
structure TestSheet.IsDrawnFrom (pool : List (Question Payload))
    (variantCount count : Nat) (counts : PerDifficulty Nat)
    (sheet : TestSheet) : Prop where
  asked : sheet.counts = counts
  number : sheet.variants.length = variantCount
  labels : sheet.variants.map (·.label) = variantLabels.take variantCount
  size : ∀ variant ∈ sheet.variants, variant.questions.length = count
  ids : ∀ variant ∈ sheet.variants, (variant.questions.map (·.questionId)).Nodup
  split : ∀ variant ∈ sheet.variants, ∀ difficulty,
    (variant.questions.countP fun shown =>
      decide (shown.difficulty = difficulty)) = counts.get difficulty
  pool : ∀ variant ∈ sheet.variants, ∀ shown ∈ variant.questions,
    ∃ question ∈ pool, (snapshot question).ShownAs shown
  same : ∀ variant ∈ sheet.variants, ∀ other ∈ sheet.variants,
    (variant.questions.map (·.questionId)).Perm
      (other.questions.map (·.questionId))

namespace Exam

/-- What a request by scope is answered with: a sheet exactly if the request is
within its bounds and the pool suffices, and else, if it is within its bounds,
the difficulties that lack questions. -/
structure AnswersScope (most : Nat) (pool : List (Question Payload))
    (variantCount count : Nat) (percentages : PerDifficulty Nat)
    (result : Except (Halt GenerationError) TestSheet) : Prop where
  succeeds : (∃ sheet, result = .ok sheet) ↔ IsInBounds most count percentages ∧
    ∃ counts, bucketCounts? count percentages = some counts ∧
      ∀ difficulty, counts.get difficulty ≤ countOf difficulty pool
  drawn : ∀ sheet, result = .ok sheet → ∃ counts,
    bucketCounts? count percentages = some counts ∧
    sheet.IsDrawnFrom pool variantCount count counts
  tooFew : IsInBounds most count percentages →
    ∀ counts, bucketCounts? count percentages = some counts →
      (∃ difficulty, countOf difficulty pool < counts.get difficulty) →
        result = .error (.refused (.tooFew (lacking pool counts)))

variable {most count : Nat} {percentages counts : PerDifficulty Nat}
  {pool : List (Question Payload)} {generator : Random.Generator}

/-! ## Selecting -/

theorem drawSelection_of_enough
    (usable : pool.filter (·.payload.isUsable) = pool)
    (enough : ∀ difficulty, counts.get difficulty ≤ countOf difficulty pool) :
    drawSelection pool count percentages counts generator =
      .ok (⟨(select (pools pool) counts generator).1, count, percentages,
        counts⟩, (select (pools pool) counts generator).2) := by
  unfold drawSelection
  dsimp only
  rw [usable, shortages_eq_lacking, lacking_eq_nil.mpr enough]

theorem drawSelection_of_lacking
    (usable : pool.filter (·.payload.isUsable) = pool)
    (short : ∃ difficulty, countOf difficulty pool < counts.get difficulty) :
    drawSelection pool count percentages counts generator =
      .error (.tooFew (lacking pool counts)) := by
  unfold drawSelection
  dsimp only
  rw [usable, shortages_eq_lacking]
  cases missing : lacking pool counts with
  | nil =>
      obtain ⟨difficulty, short⟩ := short
      exact absurd (lacking_eq_nil.mp missing difficulty) (Nat.not_le.mpr short)
  | cons first rest => rfl

/-- Within its bounds a request draws counts that make up the number of
questions. -/
theorem scopeSelection_of_isInBounds
    (bounds : IsInBounds most count percentages) (small : count < countLimit) :
    ∃ counts, bucketCounts? count percentages = some counts ∧
      counts.sum = count ∧
      scopeSelection most pool count percentages generator =
        (drawSelection pool count percentages counts generator).mapError
          .refused := by
  have sound := splitFault?_eq_none.mpr ⟨bounds.each, bounds.whole⟩
  obtain ⟨counts, asked, whole⟩ := exists_bucketCounts? sound small
  refine ⟨counts, asked, whole, ?_⟩
  rw [scopeSelection, if_pos ⟨bounds.positive, bounds.most⟩, sound]
  dsimp only
  rw [asked]

/-- Before the questions of a request are drawn their numbers are added up in 32
bits, and that does not overflow within the bounds of the request. -/
theorem select?_of_isInBounds (bounds : IsInBounds most count percentages)
    (small : count < countLimit)
    (asked : bucketCounts? count percentages = some counts) :
    select? (pools pool) counts generator =
      some (select (pools pool) counts generator) := by
  have sound := splitFault?_eq_none.mpr ⟨bounds.each, bounds.whole⟩
  obtain ⟨_, same, whole⟩ := exists_bucketCounts? sound small
  obtain rfl := Option.some.inj (asked.symm.trans same)
  exact if_pos (whole.trans_lt small)

theorem scopeSelection_of_not_isInBounds
    (outside : ¬IsInBounds most count percentages) :
    ∃ error, scopeSelection most pool count percentages generator =
        .error (.refused error) ∧ ∀ fault, error ≠ .storage fault := by
  unfold scopeSelection
  split
  next counted =>
    split
    next fault _ =>
      refine ⟨.split fault, rfl, fun storage same => ?_⟩
      cases same
    next sound =>
      obtain ⟨each, whole⟩ := splitFault?_eq_none.mp sound
      exact absurd ⟨counted.1, counted.2, each, whole⟩ outside
  next =>
    refine ⟨.questionCount most, rfl, fun storage same => ?_⟩
    cases same

/-- How selecting from a pool ends. -/
inductive SelectsFrom (most : Nat) (pool : List (Question Payload))
    (count : Nat) (percentages : PerDifficulty Nat)
    (generator : Random.Generator) :
    Except (Halt GenerationError) (Selection × Random.Generator) → Prop where
  | refused
      {error : GenerationError} (outside : ¬IsInBounds most count percentages)
      (apart : ∀ fault, error ≠ .storage fault) : SelectsFrom most pool count
      percentages generator (.error (.refused error))
  | tooFew {counts : PerDifficulty Nat}
      (bounds : IsInBounds most count percentages)
      (asked : bucketCounts? count percentages = some counts)
      (short : ∃ difficulty, countOf difficulty pool < counts.get difficulty) :
      SelectsFrom most pool count percentages generator
        (.error (.refused (.tooFew (lacking pool counts))))
  | drawn {counts : PerDifficulty Nat}
      (bounds : IsInBounds most count percentages)
      (asked : bucketCounts? count percentages = some counts)
      (whole : counts.sum = count)
      (enough : ∀ difficulty, counts.get difficulty ≤ countOf difficulty pool) :
      SelectsFrom most pool count percentages generator
        (.ok (⟨(select (pools pool) counts generator).1, count, percentages,
          counts⟩, (select (pools pool) counts generator).2))

theorem scopeSelection_selectsFrom
    (usable : pool.filter (·.payload.isUsable) = pool)
    (small : count < countLimit) :
    SelectsFrom most pool count percentages generator
      (scopeSelection most pool count percentages generator) := by
  by_cases bounds : IsInBounds most count percentages
  · obtain ⟨counts, asked, whole, ended⟩ :=
      @scopeSelection_of_isInBounds most count percentages pool generator
        bounds small
    rw [ended]
    by_cases enough : ∀ difficulty,
      counts.get difficulty ≤ countOf difficulty pool
    · rw [drawSelection_of_enough usable enough]
      exact .drawn bounds asked whole enough
    · have short : ∃ difficulty,
          countOf difficulty pool < counts.get difficulty := by
        simpa using enough
      rw [drawSelection_of_lacking usable short]
      exact .tooFew bounds asked short
  · obtain ⟨error, ended, apart⟩ :=
      @scopeSelection_of_not_isInBounds most count percentages pool
        generator bounds
    rw [ended]
    exact .refused bounds apart

/-! ## Showing what is selected -/

section Arranged

variable {layout : Layout} {base : List VariantQuestion} {sheet : TestSheet}
  (shown : sheet.variants.map TestVariant.content =
    (arrange layout base generator).1.map fun variant =>
      ⟨none, variant.label, variant.questions⟩)

include shown

theorem map_label_of_arrange :
    sheet.variants.map (·.label) = variantLabels.take layout.variantCount := by
  rw [← map_label_arrange layout base generator]
  simpa [Function.comp_def, TestVariant.content]
    using congrArg (List.map TestVariant.label) shown

theorem length_of_arrange (lettered : layout.variantCount ≤ maxVariants) :
    sheet.variants.length = layout.variantCount := by
  have number := congrArg List.length (map_label_of_arrange shown)
  rw [List.length_map, List.length_take] at number
  exact number.trans (Nat.min_eq_left lettered)

/-- Every variant on the sheet is one of those that are laid out. -/
theorem exists_arranged {variant : TestVariant}
    (inside : variant ∈ sheet.variants) :
    ∃ labelled ∈ (arrange layout base generator).1,
      variant.questions = labelled.questions := by
  have listed : variant.content ∈ sheet.variants.map TestVariant.content :=
    List.mem_map_of_mem inside
  rw [shown] at listed
  obtain ⟨labelled, listed, same⟩ := List.mem_map.mp listed
  exact ⟨labelled, listed, (congrArg TestVariant.questions same).symm⟩

/-- What showing a question does not change is what it was in the base, up to
the order. -/
theorem map_perm_of_arranged {α : Type} {key : VariantQuestion → α}
    (kept : ∀ question shown : VariantQuestion, question.ShownAs shown →
      key shown = key question) {variant : TestVariant}
    (inside : variant ∈ sheet.variants) :
    (variant.questions.map key).Perm (base.map key) := by
  obtain ⟨labelled, listed, same⟩ := exists_arranged shown inside
  rw [same]
  exact map_perm_of_arrange kept listed

theorem exists_shownAs_of_arranged {variant : TestVariant}
    (inside : variant ∈ sheet.variants) {question : VariantQuestion}
    (listed : question ∈ variant.questions) :
    ∃ frozen ∈ base, frozen.ShownAs question := by
  obtain ⟨labelled, arranged, same⟩ := exists_arranged shown inside
  rw [same] at listed
  exact exists_shownAs_of_arrange arranged listed

end Arranged

/-- Large enough pools make a sheet of the requested size. -/
theorem isDrawnFrom_of_select {layout : Layout} {sheet : TestSheet}
    (ids : (pool.map (·.id)).Nodup) (whole : counts.sum = count)
    (enough : ∀ difficulty, counts.get difficulty ≤ countOf difficulty pool)
    (lettered : layout.variantCount ≤ maxVariants)
    (asked : sheet.counts = counts)
    (shown : sheet.variants.map TestVariant.content =
      (arrange layout ((select (pools pool) counts generator).1.map snapshot)
        (select (pools pool) counts generator).2).1.map fun variant =>
          ⟨none, variant.label, variant.questions⟩) :
    sheet.IsDrawnFrom pool layout.variantCount count counts := by
  have size := @length_select pool counts generator enough
  have split : ∀ difficulty, countOf difficulty
    (select (pools pool) counts generator).1 = counts.get difficulty :=
    fun difficulty => countOf_select enough difficulty generator
  have part := select_subperm pool counts generator
  generalize select (pools pool) counts generator =
    drawn at shown size split part
  have apart : (drawn.1.map (·.id)).Nodup := by
    obtain ⟨ordered, reordered, inside⟩ := part
    exact (reordered.map _).nodup_iff.mp (ids.sublist (inside.map _))
  have shownIds : ∀ variant ∈ sheet.variants,
    (variant.questions.map (·.questionId)).Perm (drawn.1.map (·.id)) :=
    fun variant inside =>
      (map_perm_of_arranged shown (fun _ _ shownAs => shownAs.questionId)
        inside).trans (.of_eq (List.map_map ..))
  refine ⟨asked, length_of_arrange shown lettered, map_label_of_arrange shown,
    ?_, ?_, ?_, ?_, ?_⟩
  · intro variant inside
    have same := (shownIds variant inside).length_eq
    rw [List.length_map, List.length_map] at same
    exact same.trans (size.trans whole)
  · intro variant inside
    exact (shownIds variant inside).nodup_iff.mpr apart
  · intro variant inside difficulty
    have same :=
      ((map_perm_of_arranged shown (fun _ _ shownAs => shownAs.difficulty)
        inside).trans (.of_eq (List.map_map ..))).countP_eq fun kind =>
          decide (kind = difficulty)
    rw [List.countP_map, List.countP_map] at same
    exact same.trans (split difficulty)
  · intro variant inside shown' listed
    obtain ⟨_, frozen, shownAs⟩ :=
      exists_shownAs_of_arranged shown inside listed
    obtain ⟨question, chosen, rfl⟩ := List.mem_map.mp frozen
    exact ⟨question, part.subset chosen, shownAs⟩
  · intro variant inside other inside'
    exact (shownIds variant inside).trans (shownIds other inside').symm

/-! ## Generating -/

namespace AnswersScope

variable {variantCount : Nat}

theorem of_outside {halt : Halt GenerationError}
    (outside : ¬IsInBounds most count percentages) :
    AnswersScope most pool variantCount count percentages (.error halt) where
  succeeds := by
    refine ⟨?_, fun met => absurd met.1 outside⟩
    rintro ⟨sheet, ended⟩
    cases ended
  drawn sheet ended := by cases ended
  tooFew bounds := absurd bounds outside

theorem of_short (asked : bucketCounts? count percentages = some counts)
    (short : ∃ difficulty, countOf difficulty pool < counts.get difficulty) :
    AnswersScope most pool variantCount count percentages
      (.error (.refused (.tooFew (lacking pool counts)))) where
  succeeds := by
    constructor
    · rintro ⟨sheet, ended⟩
      cases ended
    · rintro ⟨-, given, same, enough⟩
      obtain rfl := Option.some.inj (asked.symm.trans same)
      obtain ⟨difficulty, short⟩ := short
      exact absurd (enough difficulty) (Nat.not_le.mpr short)
  drawn sheet ended := by cases ended
  tooFew _ given same _ := by
    obtain rfl := Option.some.inj (asked.symm.trans same)
    rfl

theorem of_drawn {sheet : TestSheet}
    (bounds : IsInBounds most count percentages)
    (asked : bucketCounts? count percentages = some counts)
    (enough : ∀ difficulty, counts.get difficulty ≤ countOf difficulty pool)
    (drawn : sheet.IsDrawnFrom pool variantCount count counts) :
    AnswersScope most pool variantCount count percentages (.ok sheet) where
  succeeds := ⟨fun _ => ⟨bounds, counts, asked, enough⟩, fun _ => ⟨sheet, rfl⟩⟩
  drawn given same := by
    cases same
    exact ⟨counts, asked, drawn⟩
  tooFew _ given same short := by
    obtain rfl := Option.some.inj (asked.symm.trans same)
    obtain ⟨difficulty, short⟩ := short
    exact absurd (enough difficulty) (Nat.not_le.mpr short)

end AnswersScope

variable {context : Context} {world : World} {author : Caller}
  {request : GenerationRequest} {subjectId topicId : Option String}

/-- A sheet with what is selected from the pool of a scope is drawn from it. -/
theorem SelectsFrom.isDrawnFrom {bank : List (Question (Stored Payload))}
    {selection : Selection} {drawn : Random.Generator} {sheet : TestSheet}
    (selects : SelectsFrom most (drawable author subjectId topicId bank) count
      percentages generator (.ok (selection, drawn)))
    (ids : (bank.map (·.id)).Nodup)
    (lettered : request.layout.variantCount ≤ maxVariants)
    (content : sheet.content =
      (previewOf request (seedOf request context.now) selection
        (arrange request.layout (selection.questions.map snapshot) drawn).1
        context.now).content) :
    IsInBounds most count percentages ∧ ∃ counts,
      bucketCounts? count percentages = some counts ∧
      (∀ difficulty, counts.get difficulty ≤
        countOf difficulty (drawable author subjectId topicId bank)) ∧
      sheet.IsDrawnFrom (drawable author subjectId topicId bank)
        request.layout.variantCount count
        counts := by
  cases selects with
  | drawn bounds asked whole enough =>
      have shown := congrArg TestSheet.variants content
      exact ⟨bounds, _, asked, enough,
        isDrawnFrom_of_select (nodup_drawable ids) whole enough lettered
          (congrArg TestSheet.counts content) (shown.trans (List.map_map ..))⟩

variable (context author) in
/-- A request by scope selects from the pool of the scope, unless the candidates
cannot be read. -/
theorem generate_scope_generates
    (source : request.source = .scope subjectId topicId count percentages)
    (ids : (world.store.questions.map (·.id)).Nodup)
    (small : count < countLimit) :
    Generates context world.store author request
      (SelectsFrom context.settings.maxQuestions
        (drawable author subjectId topicId world.store.questions) count
        percentages (.ofSeed (UInt64.ofNat (seedOf request context.now))))
      (generate author request context world).1 ∨
    ¬world.store.OffersScope author subjectId topicId ∧ ∃ fault,
      (generate author request context world).1 =
        .error (.refused (.storage fault)) := by
  refine (generate_ends ?_ world rfl).1.read_or_unread
  rw [source]
  refine .weaken (selectFromScope_ends ids) (fun _ same => same) ?_
  rintro result after ⟨same, unread | rfl⟩
  · exact ⟨same, .inl unread⟩
  · exact ⟨same, .inr (scopeSelection_selectsFrom filter_drawable small)⟩

/-- A store fails a request by scope only when it cannot read the candidates or
cannot store what is drawn. -/
theorem generate_scope_fault
    (source : request.source = .scope subjectId topicId count percentages)
    (ids : (world.store.questions.map (·.id)).Nodup)
    (small : count < countLimit) {fault : StorageFault}
    (failed : (generate author request context world).1 =
      .error (.refused (.storage fault))) :
    ¬world.store.OffersScope author subjectId topicId ∨
    request.preview = false ∧ ∃ counts sheet,
      bucketCounts? count percentages = some counts ∧
      sheet.IsDrawnFrom
        (drawable author subjectId topicId world.store.questions)
        request.layout.variantCount count counts ∧
      storeTest (newTest author request sheet context.now) sheet context.now
        world.store = .error fault := by
  have ends := generate_scope_generates context author source ids small
  rw [failed] at ends
  rcases ends with generates | ⟨unread, -⟩
  · cases generates with
    | unselected _ selects =>
        cases selects with
        | refused _ apart => exact absurd rfl (apart fault)
    | unstored stored lettered selects content failed =>
        obtain ⟨-, counts, asked, -, drawn⟩ :=
          selects.isDrawnFrom ids lettered.2 content
        exact .inr ⟨stored, counts, _, asked, drawn, failed⟩
  · exact .inl unread

/-- A preview of what can be read meets no fault of the store. -/
theorem generate_scope_ne_fault
    (source : request.source = .scope subjectId topicId count percentages)
    (ids : (world.store.questions.map (·.id)).Nodup)
    (small : count < countLimit)
    (offers : world.store.OffersScope author subjectId topicId)
    (preview : request.preview = true) (fault : StorageFault) :
    (generate author request context world).1 ≠
      .error (.refused (.storage fault)) := by
  intro failed
  rcases generate_scope_fault source ids small failed with unread | ⟨stored, -⟩
  · exact unread offers
  · exact Bool.noConfusion (preview.symm.trans stored)

/-- Unless the store fails it, a request by scope is met, or denied for a reason
that holds. -/
theorem generate_scope_answers
    (source : request.source = .scope subjectId topicId count percentages)
    (ids : (world.store.questions.map (·.id)).Nodup)
    (small : count < countLimit)
    (lettered : 1 ≤ request.layout.variantCount ∧
      request.layout.variantCount ≤ 10)
    (works : ∀ fault, (generate author request context world).1 ≠
      .error (.refused (.storage fault))) :
    AnswersScope context.settings.maxQuestions
      (drawable author subjectId topicId world.store.questions)
      request.layout.variantCount count
      percentages (generate author request context world).1 := by
  obtain generates | ⟨-, fault, failed⟩ :=
    generate_scope_generates context author source ids small
  · generalize (generate author request context world).1 =
      result at generates works
    cases generates with
    | unlettered outside => exact absurd lettered outside
    | unselected _ selects =>
        cases selects with
        | refused outside => exact .of_outside outside
        | tooFew _ asked short => exact .of_short asked short
    | @unstored _ _ _ fault => exact absurd rfl (works fault)
    | generated _ selects content =>
        obtain ⟨bounds, counts, asked, enough, drawn⟩ :=
          selects.isDrawnFrom ids lettered.2 content
        exact .of_drawn bounds asked enough drawn
  · exact absurd failed (works fault)

/-! ## A small bank -/

/-- A true-or-false question of a bank. -/
def truthQuestion (id ownerId : String) (isPublic : Bool) :
    Question (Stored Payload) where
  id := id
  ownerId := ownerId
  subjectId := none
  topicId := none
  prompt := "P"
  type := .trueFalse
  difficulty := .easy
  points := roundPoints .one
  payload := .written (.trueFalse (.bool true))
  version := 1
  isPublic := isPublic
  createdAt := ⟨0⟩
  updatedAt := ⟨0⟩

/-- A service with an own, a public and a foreign question for an author. -/
def withSmallBank : Session :=
  let service := Session.withOneStudent ⟨0⟩
  { service with
    settings := { service.settings with maxQuestions := 2 }
    store := { service.store with
      questions := [truthQuestion "q1" "o" false, truthQuestion "q2" "p" true,
        truthQuestion "q3" "p" false] } }

/-- A request for two easy questions in two shuffled variants. -/
def twoEasyQuestions : GenerationRequest where
  title := none
  source := .scope none none 2 ⟨100, 0, 0⟩
  layout := ⟨2, true, true⟩
  seed := some 1
  preview := true

theorem withSmallBank_offersScope :
    withSmallBank.store.OffersScope ⟨"o", .teacher⟩ none none := by
  have readable : ∀ row ∈ withSmallBank.store.questions,
    row.read?.isSome := by decide
  exact ⟨by decide +kernel, fun table _ lost => List.not_mem_nil lost,
    fun row inside _ => readable row inside⟩

theorem withSmallBank_isInBounds :
    IsInBounds withSmallBank.context.settings.maxQuestions 2 ⟨100, 0, 0⟩ :=
  ⟨by decide, by decide, fun difficulty => by cases difficulty <;> decide, rfl⟩

theorem withSmallBank_counts :
    bucketCounts? 2 ⟨100, 0, 0⟩ = some ⟨2, 0, 0⟩ := by
  decide +kernel

theorem withSmallBank_suffices (difficulty : Difficulty) :
    PerDifficulty.get ⟨2, 0, 0⟩ difficulty ≤ countOf difficulty
      (drawable ⟨"o", .teacher⟩ none none withSmallBank.store.questions) := by
  cases difficulty <;> decide +kernel

end Exam

end ExamHall
