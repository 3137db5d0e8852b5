import ExamHall.Proofs.Exam.Storing

/-!
# What becomes of a request for a test

A request for a test is met or denied for a reason that holds, and a request
that repeats another one is met in the same way.  All that can come in between
is that the questions cannot be read or that the test cannot be stored.

Neither happens where the tables hold what they should and can be reached.  Then
a request ends as its preview does, and the test that is shown is stored.
-/

namespace ExamHall

open Store

variable {context context' : Context} {world world' : World} {author : Caller}
  {request first second : GenerationRequest} {subjectId topicId : Option String}
  {count : Nat} {percentages : PerDifficulty Nat} {given : List String}

/-! ## Tables that are ready for a request -/

/-- What a source asks for can be read: the candidates in a scope, or the
questions with the ids that are listed. -/
def Store.Offers (store : Store) (author : Caller) : QuestionSource → Prop
  | .scope subjectId topicId _ _ => store.OffersScope author subjectId topicId
  | .manual given => store.OffersListed (Exam.listedIds given)

/-- The number of questions that a source can come to fits into its column. -/
def QuestionSource.IsSmall (settings : Settings) : QuestionSource → Prop
  | .scope _ _ count _ => count < twoTo 31
  | .manual _ => settings.maxManualIds < twoTo 31

/-- Tables that can take a test: they hold what they should, those of the tests
can be reached, and neither the author nor the request brings what does not fit
into them. -/
structure Store.TakesTest (store : Store) (author : Caller)
    (request : GenerationRequest) : Prop where
  lawful : store.Lawful
  bank : ∀ row ∈ store.questions, row.IsStorable
  reach : store.CanReach [.tests, .variants]
  owner : FitsId author.id
  storable : request.IsStorable

/-- Tables that are ready for a request: what it asks for can be read, and the
test can be stored unless it is only to be shown. -/
structure Store.IsReadyFor (store : Store) (settings : Settings)
    (author : Caller) (request : GenerationRequest) : Prop where
  offers : store.Offers author request.source
  small : request.source.IsSmall settings
  takes : request.preview = false → store.TakesTest author request

/-- A sheet has been stored: its rows are new, keep every column, check and key,
and make the sheet, and nothing else of the tables has changed. -/
def TestSheet.IsStored (before : Store) (author : Caller) (sheet : TestSheet)
    (after : Store) : Prop :=
  ∃ draft test rows issued,
      Exam.StoresSheet before author.id draft sheet test rows ∧
    after = { before with
      tests := before.tests ++ [test],
      variants := before.variants ++ rows, issued }

namespace Exam

theorem requestedCount_le_of_listedSelection {most : Nat}
    {found : List (Question Payload)} {selection : Selection}
    (chosen : listedSelection most author given found = .ok selection) :
    selection.requestedCount ≤ most := by
  unfold listedSelection at chosen
  split at chosen
  · cases chosen
  split at chosen
  · cases chosen
  next few =>
  split at chosen
  · cases chosen
  next questions picked =>
  split at chosen
  · cases chosen
  cases chosen
  unfold pickListed at picked
  simp only at picked
  split at picked
  · cases picked
  split at picked
  · cases picked
  split at picked
  · cases picked
  cases picked
  exact ((List.length_filter_le _ _).trans (List.length_filterMap_le _ _)).trans
    (Nat.not_lt.mp few)

theorem requestedCount_lt_of_drafts {draft : TestSheet}
    (ids : (world.store.questions.map (·.id)).Nodup)
    (small : request.source.IsSmall context.settings)
    (drafts : (generate author { request with preview := true } context world).1
      = .ok draft) : draft.requestedCount < twoTo 31 := by
  obtain ⟨selection, drawn, middle, -, chosen, rfl, -, -⟩ :=
    exists_drafted ids drafts
  change selection.requestedCount < twoTo 31
  cases source : request.source with
  | scope subjectId topicId count percentages =>
      rw [source] at chosen small
      exact (requestedCount_of_scopeSelection chosen).trans_lt small
  | manual given =>
      rw [source] at chosen small
      obtain ⟨listed, ended, same⟩ := exists_of_map chosen
      cases same
      exact (requestedCount_le_of_listedSelection ended).trans_lt small

/-- A preview of what can be read meets no fault of the store. -/
theorem generate_preview_ne_fault
    (ids : (world.store.questions.map (·.id)).Nodup)
    (offers : world.store.Offers author request.source)
    (small : request.source.IsSmall context.settings)
    (preview : request.preview = true) (fault : StorageFault) :
    (generate author request context world).1 ≠
      .error (.refused (.storage fault)) := by
  have limit : twoTo 31 ≤ Apportion.countLimit := by decide
  cases source : request.source with
  | scope subjectId topicId count percentages =>
      rw [source] at offers small
      exact generate_scope_ne_fault source ids (Nat.lt_of_lt_of_le small limit)
        offers preview fault
  | manual given =>
      rw [source] at offers small
      exact generate_manual_ne_fault source ids (Nat.lt_of_lt_of_le small limit)
        offers preview fault

/-- What is denied as a preview is denied as well if it is to be stored. -/
theorem generate_of_undrafted {halt : Halt GenerationError}
    (denied : (generate author { request with preview := true } context world).1
      = .error halt) :
    (generate author request context world).1 = .error halt := by
  rw [generate_apply] at denied ⊢
  split at denied
  · next lettered =>
      rw [if_pos lettered]
      rcases selected : selectFor author request.source
        (.ofSeed (UInt64.ofNat (seedOf request context.now))) context world with
        ⟨halted | drawn, middle⟩
      · have same : Except.error halted = Except.error halt :=
          (congrArg Prod.fst (Action.bind_apply_of_error selected)).symm.trans
            denied
        exact (congrArg Prod.fst (Action.bind_apply_of_error selected)).trans
          same
      · cases (congrArg Prod.fst (Action.bind_apply_of_ok selected)).symm.trans
          denied
  · next unlettered =>
      rw [if_neg unlettered]
      exact denied

/-- Where the tables are ready for it, a request meets no fault of the store,
and if it is met and not a preview, its sheet is stored. -/
theorem generate_of_ready (ids : (world.store.questions.map (·.id)).Nodup)
    (ready : world.store.IsReadyFor context.settings author request) :
    (∀ fault, (generate author request context world).1 ≠
      .error (.refused (.storage fault))) ∧
    (request.preview = false → ∀ sheet,
      (generate author request context world).1 = .ok sheet →
      sheet.IsStored world.store author
        (generate author request context world).2.store) := by
  cases preview : request.preview with
  | true =>
      exact ⟨generate_preview_ne_fault ids ready.offers ready.small preview,
        nofun⟩
  | false =>
      obtain ⟨lawful, bank, reach, owner, storable⟩ := ready.takes preview
      have shown : ∀ fault,
          (generate author { request with preview := true } context world).1 ≠
            .error (.refused (.storage fault)) :=
        generate_preview_ne_fault ids ready.offers ready.small rfl
      cases drafts :
          (generate author { request with preview := true } context world).1
          with
      | error halt =>
          have denied := generate_of_undrafted drafts
          rw [denied]
          exact ⟨fun fault same => shown fault (drafts.trans same), nofun⟩
      | ok draft =>
          obtain ⟨sheet, test, rows, issued, stores, ended, after⟩ :=
            exists_generated lawful bank owner storable preview reach drafts
              (requestedCount_lt_of_drafts ids ready.small drafts)
          rw [ended, after]
          refine ⟨nofun, fun _ given same => ?_⟩
          cases same
          exact ⟨draft, test, rows, issued, stores, rfl⟩

/-! ## Requests by scope -/

/-- A request by scope is met if it is within its bounds and the scope has
enough questions, and denied otherwise with the difficulties that lack some.
All that can come in between is that the candidates cannot be read, or that the
test cannot be stored.  Where the tables are ready for the request neither does,
and the test is stored. -/
theorem scope_is_met_or_denied
    (source : request.source = .scope subjectId topicId count percentages)
    (ids : (world.store.questions.map (·.id)).Nodup)
    (small : count < Apportion.countLimit)
    (lettered : 1 ≤ request.layout.variantCount ∧
      request.layout.variantCount ≤ 10) :
    (∀ fault, (generate author request context world).1 =
      .error (.refused (.storage fault)) →
      ¬world.store.OffersScope author subjectId topicId ∨
      request.preview = false ∧ ∃ counts sheet,
        Apportion.bucketCounts? count percentages = some counts ∧
        sheet.IsDrawnFrom
          (drawable author subjectId topicId world.store.questions)
          request.layout.variantCount count counts ∧
        storeTest (newTest author request sheet context.now) sheet context.now
          world.store = .error fault) ∧
    ((∀ fault, (generate author request context world).1 ≠
      .error (.refused (.storage fault))) →
      AnswersScope context.settings.maxQuestions
        (drawable author subjectId topicId world.store.questions)
        request.layout.variantCount count percentages
        (generate author request context world).1) ∧
    (world.store.IsReadyFor context.settings author request →
      (∀ fault, (generate author request context world).1 ≠
        .error (.refused (.storage fault))) ∧
      (request.preview = false → ∀ sheet,
        (generate author request context world).1 = .ok sheet →
          sheet.IsStored world.store author
            (generate author request context world).2.store)) :=
  ⟨fun _ failed => generate_scope_fault source ids small failed,
    generate_scope_answers source ids small lettered, generate_of_ready ids⟩

/-- The questions of the small banks can be stored in variants. -/
theorem truthQuestion_isStorable {id ownerId : String} {isPublic : Bool} :
    (truthQuestion id ownerId isPublic).IsStorable where
  prompt := (by decide +kernel : Column.hasNul "P" = false)
  subjectId := nofun
  topicId := nofun
  points :=
    (by decide +kernel : Column.points (roundPoints
        .one) = .ok (roundPoints .one))
  version := (by decide +kernel : Column.int32 1 = .ok 1)
  payload := by
    intro payload read
    cases read
    decide +kernel

theorem empty_lawful : Store.empty.Lawful where
  bank := ⟨List.nodup_nil, List.forall_mem_nil _, List.forall_mem_nil _⟩
  tests :=
    { ids := List.nodup_nil
      keys := List.forall_mem_nil _
      variantIds := List.nodup_nil
      variantKeys := List.forall_mem_nil _
      variantTests := List.forall_mem_nil _
      places := .nil }
  assignments :=
    { ids := List.nodup_nil
      keys := List.forall_mem_nil _
      tests := List.forall_mem_nil _
      duration := List.forall_mem_nil _
      maxAttempts := List.forall_mem_nil _
      students := List.forall_mem_nil _
      enrolled := List.forall_mem_nil _ }
  sittings := Session.lawfulSittings_nil _ _

/-- A bank of questions that can be stored in variants is ready for what can be
read of it, in tables without outages. -/
theorem takesTest_of_keys {store : Store} (lawful : store.Lawful)
    {questions : List (Question (Stored Payload))}
    (ids : (questions.map (·.id)).Nodup)
    (keys : ∀ row ∈ questions, Column.hasNul row.id = false ∧
      row.id.length ≤ Column.idWidth ∧ Decimal.zero ≤ row.points)
    (bank : ∀ row ∈ questions, row.IsStorable) (reach : store.outages = [])
    (owner : FitsId author.id) (storable : request.IsStorable) :
    Store.TakesTest { store with questions } author request where
  lawful :=
    ⟨⟨ids, fun row inside => ⟨(keys row inside).1, (keys row inside).2.1⟩,
      fun row inside => (keys row inside).2.2⟩, lawful.tests,
      lawful.assignments, lawful.sittings⟩
  bank := bank
  reach := canReach_of_noOutages reach _
  owner := owner
  storable := storable

/-- The small bank is ready to store two easy questions of the author. -/
theorem withSmallBank_isReadyFor
    (source : request.source = twoEasyQuestions.source)
    (storable : request.IsStorable) :
    withSmallBank.store.IsReadyFor withSmallBank.context.settings
      ⟨"o", .teacher⟩ request where
  offers := source ▸ withSmallBank_offersScope
  small := source ▸ (by decide : 2 < twoTo 31)
  takes _ := by
    refine takesTest_of_keys (Session.withOneStudent_lawful ⟨0⟩) (by decide)
      (by decide +kernel) ?_ rfl ⟨by decide +kernel, by decide⟩ storable
    simp only [List.forall_mem_cons]
    exact ⟨truthQuestion_isStorable, truthQuestion_isStorable,
      truthQuestion_isStorable, List.forall_mem_nil _⟩

/-- The request for two easy questions, which are to be stored. -/
def twoStoredQuestions : GenerationRequest :=
  { twoEasyQuestions with preview := false }

/-- Of the small bank just the own and the public question make up the test,
which is stored. -/
theorem withSmallBank_meets_scope :
    let ended := generate ⟨"o", .teacher⟩ twoStoredQuestions
      withSmallBank.context ⟨withSmallBank.store, []⟩
    ∃ sheet, ended.1 = .ok sheet ∧
      sheet.IsDrawnFrom
        (drawable ⟨"o", .teacher⟩ none none withSmallBank.store.questions)
        2 2 ⟨2, 0, 0⟩ ∧
      sheet.IsStored withSmallBank.store ⟨"o", .teacher⟩ ended.2.store := by
  intro ended
  obtain ⟨-, answers, stores⟩ :=
    @scope_is_met_or_denied withSmallBank.context ⟨withSmallBank.store, []⟩
      ⟨"o", .teacher⟩ twoStoredQuestions none none 2 ⟨100, 0, 0⟩
    rfl (by decide) (by decide +kernel) (by decide)
  have storable : twoStoredQuestions.IsStorable :=
    ⟨nofun, nofun, by decide +kernel⟩
  obtain ⟨faultless, stored⟩ := stores (withSmallBank_isReadyFor rfl storable)
  have works := answers faultless
  obtain ⟨sheet, met⟩ := works.succeeds.mpr
    ⟨withSmallBank_isInBounds, _, withSmallBank_counts, withSmallBank_suffices⟩
  obtain ⟨counts, asked, drawn⟩ := works.drawn sheet met
  obtain rfl := Option.some.inj (withSmallBank_counts.symm.trans asked)
  exact ⟨sheet, met, drawn, stored rfl sheet met⟩

/-! ## Lists of questions -/

/-- A list of questions is trimmed and freed of repetitions.  If it is not empty
and not too long, if there are all of the questions and none of them is private
to somebody else, the test shows those that can be used, in the order of the
list unless it is shuffled.  All that can come in between is that the questions
cannot be read, or that the test cannot be stored.  Where the tables are ready
for the request neither does, and the test is stored.  A request that fails
leaves the store as it is. -/
theorem listing_is_met_or_denied (source : request.source = .manual given)
    (keys : (world.store.questions.map (·.id)).Nodup)
    (small : context.settings.maxManualIds < Apportion.countLimit)
    (lettered : 1 ≤ request.layout.variantCount ∧
      request.layout.variantCount ≤ 10) :
    ListsOnce given (listedIds given) ∧
    (∀ fault, (generate author request context world).1 =
      .error (.refused (.storage fault)) →
      ¬world.store.OffersListed (listedIds given) ∨
      request.preview = false ∧ ∃ questions sheet,
        IsListed world.store.questions (listedIds given) questions ∧
        sheet.ShowsAll questions request.layout ∧
        storeTest (newTest author request sheet context.now) sheet context.now
          world.store = .error fault) ∧
    ((∀ fault, (generate author request context world).1 ≠
      .error (.refused (.storage fault))) →
      AnswersListing context.settings.maxManualIds author world.store.questions
        (listedIds given)
        (fun questions sheet => sheet.ShowsAll questions request.layout)
        (generate author request context world).1) ∧
    (world.store.IsReadyFor context.settings author request →
      (∀ fault, (generate author request context world).1 ≠
        .error (.refused (.storage fault))) ∧
      (request.preview = false → ∀ sheet,
        (generate author request context world).1 = .ok sheet →
          sheet.IsStored world.store author
            (generate author request context world).2.store)) ∧
    ∀ halt, (generate author request context world).1 = .error halt →
      (generate author request context world).2.store = world.store :=
  ⟨listsOnce_listedIds given,
    fun _ failed => generate_manual_fault source keys small failed,
    generate_manual_answers source keys small lettered, generate_of_ready keys,
    (generate_manual_generates author source keys small).2⟩

/-- The request for the three listed questions, which are to be stored. -/
def storesThree : GenerationRequest :=
  { listsThree with preview := false }

/-- A context in which three questions may be listed. -/
def mostThree : Context :=
  { withSmallBank.context with
    settings := { withSmallBank.settings with maxManualIds := 3 } }

theorem mixedBank_isReadyFor :
    mixedBank.IsReadyFor mostThree.settings ⟨"o", .teacher⟩ storesThree where
  offers := mixedBank_offersListed
  small := (by decide : 3 < twoTo 31)
  takes _ := by
    have storable : storesThree.IsStorable := ⟨nofun, nofun, by decide +kernel⟩
    refine takesTest_of_keys empty_lawful (by decide) (by decide +kernel) ?_ rfl
      ⟨by decide +kernel, by decide⟩ storable
    simp only [List.forall_mem_cons]
    exact ⟨truthQuestion_isStorable,
      { @truthQuestion_isStorable "q2" "p" true with },
      { @truthQuestion_isStorable "q3" "o" false with },
      truthQuestion_isStorable, List.forall_mem_nil _⟩

/-- The three questions come in the order of the list, in both variants, and are
stored so. -/
theorem mixedBank_meets_listing :
    let ended := generate ⟨"o", .teacher⟩ storesThree mostThree ⟨mixedBank, []⟩
    ∃ sheet, ended.1 = .ok sheet ∧ sheet.counts.sum = 3 ∧
        sheet.percentages.sum = 100 ∧ sheet.variants.length = 2 ∧
        (∀ variant ∈ sheet.variants,
          variant.questions.map (·.questionId) = ["q3", "q1", "q2"]) ∧
        sheet.IsStored mixedBank ⟨"o", .teacher⟩ ended.2.store := by
  intro ended
  obtain ⟨-, -, answers, stores, -⟩ := @listing_is_met_or_denied mostThree
    ⟨mixedBank, []⟩ ⟨"o", .teacher⟩ storesThree ["q3 ", "q1", " ", "q2", "q1"]
    rfl (by decide) (by decide +kernel) (by decide)
  obtain ⟨faultless, stored⟩ := stores mixedBank_isReadyFor
  obtain ⟨questions, sheet, met, ids, shows⟩ :=
    mixedBank_meets (Nat.le_refl 3) (answers faultless)
  have size : questions.length = 3 := by
    rw [← List.length_map, ids]
    rfl
  exact ⟨sheet, met, shows.sum.trans size, shows.percentages, shows.number,
    fun variant inside => (shows.inOrder rfl variant inside).trans ids,
    stored rfl sheet met⟩

/-! ## Requests that repeat another one -/

/-- The small bank a nanosecond later, in another order and with one more
question of somebody else. -/
def withReorderedBank : Session :=
  { withSmallBank with
    now := ⟨1⟩
    store := { withSmallBank.store with
      questions := [truthQuestion "q4" "p" false, truthQuestion "q3" "p" false,
        truthQuestion "q2" "p" true, truthQuestion "q1" "o" false] } }

theorem withReorderedBank_offersScope :
    withReorderedBank.store.OffersScope ⟨"o", .teacher⟩ none none := by
  have readable : ∀ row ∈ withReorderedBank.store.questions,
    row.read?.isSome := by decide
  exact ⟨by decide +kernel, fun table _ lost => List.not_mem_nil lost,
    fun row inside _ => readable row inside⟩

theorem withReorderedBank_haveSame :
    HaveSame ⟨"o", .teacher⟩ withSmallBank.store.questions
      withReorderedBank.store.questions (.scope none none 2 ⟨100, 0, 0⟩) := by
  exact List.Perm.swap _ _ []

/-- Repeating a request gives the same sheet again, but for ids, the time of
storing, and a title that is made from the time.  The tables have to be ready
for both requests, or else not to fail them. -/
theorem generate_repeats (settings : context'.settings = context.settings)
    (repeats : Repeats context.now first second)
    (ids : (world.store.questions.map (·.id)).Nodup)
    (ids' : (world'.store.questions.map (·.id)).Nodup)
    (same :
      HaveSame author world.store.questions world'.store.questions first.source)
    (works : world.store.IsReadyFor context.settings author first ∨
      ∀ fault, (generate author first context world).1 ≠
          .error (.refused (.storage fault)))
    (works' : world'.store.IsReadyFor context'.settings author second ∨
      ∀ fault, (generate author second context' world').1 ≠
          .error (.refused (.storage fault))) :
    (∃ halt, (generate author first context world).1 = .error halt ∧
      (generate author second context' world').1 = .error halt) ∨
    ∃ sheet repeated, (generate author first context world).1 = .ok sheet ∧
      (generate author second context' world').1 = .ok repeated ∧
      sheet.seed = seedOf first context.now ∧
      { repeated.content with title := "" } =
        { sheet.content with title := "" } ∧
      ∀ title, first.title = some title → Text.isBlankText title = false →
        repeated.title = sheet.title := by
  have early := content_generate ids
    (works.elim (fun ready => (generate_of_ready ids ready).1) id)
  have late := content_generate ids'
    (works'.elim (fun ready => (generate_of_ready ids' ready).1) id)
  generalize (generate author first context world).1 = result at early ⊢
  generalize (generate author second context' world').1 = result' at late ⊢
  have seed : seedOf second context'.now = seedOf first context.now := by
    rw [seedOf, repeats.seed, Option.getD_some]
  rw [repeats.source, seed, settings, ← sourceSelection_eq ids ids' same]
    at late
  generalize sourceSelection _ _ _ _ _ = selected at early late
  unfold sheetOf at early late
  rw [repeats.layout] at late
  by_cases lettered :
      0 < first.layout.variantCount ∧ first.layout.variantCount ≤ maxVariants
  · rw [if_pos lettered] at early late
    cases selected with
    | error halt =>
        exact .inl ⟨halt, eq_error_of_map early, eq_error_of_map late⟩
    | ok drawn =>
        obtain ⟨sheet, rfl, content⟩ := exists_of_map early
        obtain ⟨repeated, rfl, content'⟩ := exists_of_map late
        refine .inr ⟨sheet, repeated, rfl, rfl,
          congrArg TestSheet.seed content, ?_, ?_⟩
        · rw [content, content']
          simp only [previewOf, repeats.layout, repeats.source]
          rfl
        · intro title given shown
          have kept : sheet.title = titleOf first.title _ _ :=
            congrArg TestSheet.title content
          have kept' : repeated.title = titleOf second.title _ _ :=
            congrArg TestSheet.title content'
          rw [kept, kept', repeats.title, given, titleOf_some shown,
            titleOf_some shown]
  · rw [if_neg lettered] at early late
    exact .inl ⟨_, eq_error_of_map early, eq_error_of_map late⟩

/-- Two easy questions that have been drawn and stored are drawn again a
nanosecond later, for a preview with the seed that the clock gave. -/
theorem withReorderedBank_repeats :
    let first : GenerationRequest := { twoStoredQuestions with seed := none }
    let ended := generate ⟨"o", .teacher⟩ first withSmallBank.context
      ⟨withSmallBank.store, []⟩
    ∃ sheet repeated, ended.1 = .ok sheet ∧
      sheet.IsStored withSmallBank.store ⟨"o", .teacher⟩ ended.2.store ∧
      (generate ⟨"o", .teacher⟩
        { twoEasyQuestions with seed := some sheet.seed }
        withReorderedBank.context ⟨withReorderedBank.store, []⟩).1 =
          .ok repeated ∧
      repeated.variants.map TestVariant.content =
        sheet.variants.map TestVariant.content := by
  intro first ended
  have storable : first.IsStorable := ⟨nofun, nofun, nofun⟩
  have ready := @withSmallBank_isReadyFor first rfl storable
  obtain ⟨works, stored⟩ := @generate_of_ready withSmallBank.context
    ⟨withSmallBank.store, []⟩ ⟨"o", .teacher⟩ first (by decide) ready
  have works' := fun seed => @generate_preview_ne_fault
    withReorderedBank.context ⟨withReorderedBank.store, []⟩ ⟨"o", .teacher⟩
    { twoEasyQuestions with seed := some seed } (by decide)
      withReorderedBank_offersScope
    (by decide : 2 < twoTo 31) rfl
  have answers := @generate_scope_answers 2 ⟨100, 0, 0⟩ withSmallBank.context
    ⟨withSmallBank.store, []⟩ ⟨"o", .teacher⟩ first none none rfl (by decide)
    (by decide +kernel) (by decide) works
  obtain ⟨sheet, met⟩ := answers.succeeds.mpr
    ⟨withSmallBank_isInBounds, _, withSmallBank_counts, withSmallBank_suffices⟩
  have again := @generate_repeats withSmallBank.context
    withReorderedBank.context ⟨withSmallBank.store, []⟩
    ⟨withReorderedBank.store, []⟩ ⟨"o", .teacher⟩ first
    { twoEasyQuestions with
        seed := some (seedOf first withSmallBank.context.now) } rfl
    ⟨rfl, rfl, rfl, rfl⟩ (by decide) (by decide) withReorderedBank_haveSame
      (.inl ready)
    (.inr (works' _))
  rcases again with ⟨halt, failed, -⟩
    | ⟨given, repeated, met', again, seed, same, -⟩
  · cases met.symm.trans failed
  · rw [← seed] at again
    exact ⟨given, repeated, met', stored rfl given met', again,
      congrArg TestSheet.variants same⟩

end Exam

end ExamHall
