import ExamHall.Proofs.Exam.Reproducing
import ExamHall.Proofs.Generation.Storable
import ExamHall.Proofs.Text.Pieces

/-!
# What a preview promises

A request and its preview come to the same sheet, which the one stores and the
other only shows.  The sheet of a preview holds nothing that the tables would
not take.
-/

namespace ExamHall

open Store ExamHall.Action Apportion Column

/-- What a request brings of its own to the row of a test fits there. -/
structure GenerationRequest.IsStorable (request : GenerationRequest) :
    Prop where
  title : ∀ title, request.title = some title → hasNul title = false
  short : ∀ title, request.title = some title → title.length ≤ titleWidth
  seed : ∀ seed, request.seed = some seed → seed < twoTo 64

/-- A sheet with nothing on it that the tables would not take. -/
structure TestSheet.IsStorable (sheet : TestSheet) : Prop where
  title : hasNul sheet.title = false
  short : sheet.title.length ≤ titleWidth
  requested : sheet.requestedCount < twoTo 31
  percentages : sheet.percentages.sum = 100
  counts : sheet.counts.sum = sheet.requestedCount
  seed : sheet.seed < twoTo 64
  labels : ∃ number, 0 < number ∧ number ≤ maxVariants ∧
    sheet.variants.map (·.label) = variantLabels.take number
  questions : ∀ variant ∈ sheet.variants, ∀ question ∈ variant.questions,
    question.IsStorable

namespace Exam

variable {context : Context} {world : World} {author : Caller}
  {request : GenerationRequest} {draft : TestSheet}
  {bank : List (Question (Stored Payload))} {generator drawn : Random.Generator}
  {selection : Selection} {most count : Nat} {percentages : PerDifficulty Nat}
  {given : List String}

/-! ## Titles -/

theorem hasNul_minuteStamp (now : Instant) :
    hasNul (minuteStamp now) = false := by
  have padded : ∀ width number, ∀ c ∈ Text.paddedNumeral width number,
      c ≠ '\x00' := by
    intro width number c inside
    obtain ⟨digit, rfl⟩ := Text.mem_paddedNumeral inside
    exact Text.digitChar_ne_nul digit
  have sign : ∀ c ∈ (if (Calendar.civil now).year < 0 then ['-'] else []),
      c ≠ '\x00' := by
    split <;> simp
  apply hasNul_eq_false.mpr
  simp only [minuteStamp, Calendar.monthDayChars, String.toList_ofList,
    List.forall_mem_append, List.forall_mem_cons]
  grind

theorem length_minuteStamp_le (now : Instant) :
    (minuteStamp now).length ≤ 17 := by
  simp only [minuteStamp, Calendar.monthDayChars, String.length_ofList,
    List.length_append, List.length_cons, Text.length_paddedNumeral]
  split <;> simp

/-- The title of a test is a title that a column can hold. -/
theorem titleOf_fits {given : Option String} {count : Nat} {now : Instant}
    (plain : ∀ title, given = some title → hasNul title = false)
    (short : ∀ title, given = some title → title.length ≤ titleWidth)
    (few : count < twoTo 31) :
    hasNul (titleOf given count now) = false ∧
    (titleOf given count now).length ≤ titleWidth := by
  unfold titleOf
  split
  · next title kept =>
    obtain ⟨same, -⟩ := Option.filter_eq_some_iff.mp kept
    refine ⟨?_, (Text.length_trim_le title).trans (short title same)⟩
    apply hasNul_eq_false.mpr
    intro c inside
    rw [Text.toList_trim] at inside
    exact hasNul_eq_false.mp (plain title same) c
      ((Text.trimChars_sublist _).subset inside)
  · have words : hasNul "Generated test (" = false ∧
        hasNul " questions) " = false ∧ hasNul " UTC" = false := by
      decide +kernel
    have lengths : "Generated test (".length = 16 ∧ " questions) ".length = 12 ∧
        " UTC".length = 4 := by
      decide +kernel
    have digits : (Text.ofNat count).length ≤ 10 := by
      rw [Text.ofNat, String.length_ofList]
      exact Text.length_numeral_le (Nat.lt_trans few (by decide))
    have stamp := length_minuteStamp_le now
    constructor
    · simp [hasNul_append, words, hasNul_ofNat, hasNul_minuteStamp]
    · simp only [String.length_append, lengths, titleWidth]
      omega

/-! ## Selections -/

/-- A selection from a bank as a test is made of it. -/
structure Selection.IsSound (bank : List (Question (Stored Payload)))
    (selection : Selection) : Prop where
  percentages : selection.percentages.sum = 100
  counts : selection.counts.sum = selection.requestedCount
  size : selection.questions.length = selection.requestedCount
  known : ∀ question ∈ selection.questions, question.payload.isUsable = true ∧
    ∃ row ∈ bank, row.read? = some question

theorem requestedCount_of_scopeSelection {pool : List (Question Payload)}
    (chosen : scopeSelection most pool count percentages generator =
      .ok (selection, drawn)) : selection.requestedCount = count := by
  unfold scopeSelection at chosen
  split at chosen
  · split at chosen
    · cases chosen
    · split at chosen
      · cases chosen
      · next counts _ =>
        unfold drawSelection at chosen
        dsimp only at chosen
        split at chosen
        · cases chosen
          rfl
        · cases chosen
  · cases chosen

theorem mem_drawable {subjectId topicId : Option String}
    {question : Question Payload}
    (inside : question ∈ drawable author subjectId topicId bank) :
    question.IsDrawable author subjectId topicId ∧
    ∃ row ∈ bank, row.read? = some question := by
  obtain ⟨read, suits⟩ := List.mem_filter.mp inside
  obtain ⟨row, listed, read⟩ := List.mem_filterMap.mp read
  exact ⟨of_decide_eq_true suits, row, listed, read⟩

/-- What is drawn in a scope is sound, and shows questions of the scope. -/
theorem scopeSelection_isSound {subjectId topicId : Option String}
    (chosen : scopeSelection most (drawable author subjectId topicId bank) count
      percentages generator = .ok (selection, drawn))
    (few : selection.requestedCount < countLimit) :
    selection.IsSound bank ∧ ∃ question ∈ selection.questions,
      question.IsDrawable author subjectId topicId ∧
      ∃ row ∈ bank, row.read? = some question := by
  rw [requestedCount_of_scopeSelection chosen] at few
  have selects := @scopeSelection_selectsFrom most count percentages _ generator
    (@filter_drawable author subjectId topicId bank) few
  rw [chosen] at selects
  cases selects with
  | @drawn counts bounds asked whole enough =>
      have size := (@length_select _ counts generator enough).trans whole
      have part :=
        select_subperm (drawable author subjectId topicId bank) counts generator
      refine ⟨⟨bounds.whole, whole, size, fun question inside => ?_⟩, ?_⟩
      · obtain ⟨suits, row⟩ := mem_drawable (part.subset inside)
        exact ⟨suits.usable, row⟩
      · obtain ⟨question, inside⟩ :=
          List.exists_mem_of_length_pos (size ▸ bounds.positive)
        exact ⟨question, inside, mem_drawable (part.subset inside)⟩

theorem pickListed_known {ids : List String}
    {found questions : List (Question Payload)}
    (picked : pickListed author ids found = .ok questions) :
    questions ≠ [] ∧ ∀ question ∈ questions, question.payload.isUsable = true ∧
      question ∈ found := by
  unfold pickListed at picked
  simp only at picked
  split at picked
  · cases picked
  split at picked
  · cases picked
  split at picked
  · cases picked
  next nonempty =>
    cases picked
    refine ⟨fun empty => nonempty (by rw [empty]; rfl),
      fun question inside => ?_⟩
    obtain ⟨listed, usable⟩ := List.mem_filter.mp inside
    obtain ⟨id, -, named⟩ := List.mem_filterMap.mp listed
    exact ⟨usable, List.mem_of_find?_eq_some named⟩

/-- What is listed is sound. -/
theorem listedSelection_isSound
    (chosen : listedSelection most author given
      (withIds (listedIds given) bank) = .ok selection) :
    selection.IsSound bank := by
  unfold listedSelection at chosen
  split at chosen
  · cases chosen
  split at chosen
  · cases chosen
  split at chosen
  · cases chosen
  next questions picked =>
    split at chosen
    · cases chosen
    next percentages derived =>
      cases chosen
      obtain ⟨nonempty, known⟩ := pickListed_known picked
      have whole := sum_countsOf questions
      refine ⟨sum_of_derivePercentages? ?_ derived, whole, rfl,
        fun question inside => ?_⟩
      · exact whole.symm ▸ List.length_pos_iff.mpr nonempty
      · obtain ⟨usable, found⟩ := known question inside
        obtain ⟨row, listed, read⟩ := List.mem_filterMap.mp found
        exact ⟨usable, row, (List.mem_filter.mp listed).1, read⟩

/-- Whatever the source, what is selected is sound, and the filters of the
source are in the bank. -/
theorem sourceSelection_isSound {settings : Settings} {source : QuestionSource}
    (chosen : sourceSelection settings author bank generator source =
      .ok (selection, drawn)) (few : selection.requestedCount < countLimit) :
    selection.IsSound bank ∧
    (∀ id, (filtersOf source).1 = some id → ∃ row ∈ bank,
      row.subjectId = some id) ∧ ∀ id, (filtersOf source).2 = some id →
      ∃ row ∈ bank, row.topicId = some id := by
  cases source with
  | scope subjectId topicId count percentages =>
      obtain ⟨sound, question, -, suits, row, listed, read⟩ :=
        scopeSelection_isSound chosen few
      obtain ⟨payload, -, rfl⟩ := Option.map_eq_some_iff.mp read
      exact ⟨sound, fun id same => ⟨row, listed, suits.subject id same⟩,
        fun id same => ⟨row, listed, suits.topic id same⟩⟩
  | manual given =>
      obtain ⟨listed, ended, same⟩ := exists_of_map chosen
      cases same
      exact ⟨listedSelection_isSound ended, nofun, nofun⟩

/-! ## Previews -/

/-- What is done with a sheet: it is shown, or it is stored. -/
def publish (author : Caller) (request : GenerationRequest) (sheet : TestSheet)
    (now : Instant) : Action GenerationError TestSheet :=
  if request.preview then pure sheet
  else query (storeTest (newTest author request sheet now) sheet now)

/-- A request is first checked, then questions are selected, and what is
selected is laid out on a sheet. -/
theorem generate_apply :
    generate author request context world = if 0 < request.layout.variantCount ∧
    request.layout.variantCount ≤ maxVariants then
        (selectFor author request.source
          (.ofSeed (UInt64.ofNat (seedOf request context.now))) >>=
          fun selected => publish author request
            (previewOf request (seedOf request context.now) selected.1
              (arrange request.layout (selected.1.questions.map snapshot)
                selected.2).1 context.now) context.now) context world
      else (.error (.refused .variantCount), world) := by
  have decided : (decide (0 < request.layout.variantCount) &&
        decide (request.layout.variantCount ≤ maxVariants)) =
      decide (0 < request.layout.variantCount ∧
        request.layout.variantCount ≤ maxVariants) := by
    simp
  unfold generate
  rw [decided]
  by_cases lettered :
    0 < request.layout.variantCount ∧ request.layout.variantCount ≤ maxVariants
  · rw [decide_eq_true lettered, if_pos lettered]
    rfl
  · rw [decide_eq_false lettered, if_neg lettered]
    rfl

/-- A request goes the way of its preview, up to what is done with the sheet. -/
theorem exists_drafted (ids : (world.store.questions.map (·.id)).Nodup)
    (drafts : (generate author { request with preview := true } context world).1
      = .ok draft) :
    ∃ selection drawn middle,
      (0 < request.layout.variantCount ∧
        request.layout.variantCount ≤ maxVariants) ∧
      sourceSelection context.settings author world.store.questions
        (.ofSeed (UInt64.ofNat (seedOf request context.now))) request.source =
        .ok (selection, drawn) ∧
      draft = previewOf request (seedOf request context.now) selection
        (arrange request.layout (selection.questions.map snapshot) drawn).1
        context.now ∧ middle.store = world.store ∧
      generate author request context world =
        publish author request draft context.now context middle := by
  rw [generate_apply] at drafts ⊢
  split at drafts
  · next lettered =>
      rw [if_pos lettered]
      obtain ⟨same, chosen⟩ := @selectFor_ends context world.store author
        (.ofSeed (UInt64.ofNat (seedOf request context.now))) request.source ids
        world rfl
      rcases selected : selectFor author request.source
        (.ofSeed (UInt64.ofNat (seedOf request context.now))) context world
        with ⟨ended, middle⟩
      rw [selected] at same chosen
      cases ended with
      | error halt =>
          have failed :=
            (congrArg Prod.fst (bind_apply_of_error selected)).symm.trans drafts
          cases failed
      | ok drawn =>
          obtain ⟨fault, failed⟩ | chosen := chosen
          · cases failed
          have shown :=
            (congrArg Prod.fst (bind_apply_of_ok selected)).symm.trans drafts
          cases shown
          exact ⟨drawn.1, drawn.2, middle, lettered, chosen.symm, rfl, same,
            bind_apply_of_ok selected⟩
  · cases drafts

/-- With preview nothing is stored. -/
theorem store_generate_preview (ids : (world.store.questions.map (·.id)).Nodup)
    (preview : request.preview = true) :
    (generate author request context world).2.store = world.store := by
  rw [generate_apply]
  split
  · obtain ⟨same, -⟩ := @selectFor_ends context world.store author
      (.ofSeed (UInt64.ofNat (seedOf request context.now))) request.source ids
      world rfl
    rw [bind_apply]
    rcases selected : selectFor author request.source
      (.ofSeed (UInt64.ofNat (seedOf request context.now))) context world
      with ⟨ended, middle⟩
    rw [selected] at same
    cases ended with
    | error halt => exact same
    | ok drawn =>
        simp only [publish, preview, if_true]
        exact same
  · rfl

theorem seedOf_lt (storable : request.IsStorable) (now : Instant) :
    seedOf request now < twoTo 64 := by
  cases given : request.seed with
  | some seed =>
      rw [seedOf, given]
      exact storable.seed seed given
  | none =>
      rw [seedOf, given]
      exact Nat.lt_trans (Nat.mod_lt _ (by decide))
        (by decide : seedBound < twoTo 64)

/-- What is laid out of a sound selection from a bank can be stored. -/
theorem previewOf_isStorable {now : Instant} (lawful : LawfulBank bank)
    (rows : ∀ row ∈ bank, row.IsStorable) (storable : request.IsStorable)
    (lettered : 0 < request.layout.variantCount ∧
      request.layout.variantCount ≤ maxVariants)
    (sound : selection.IsSound bank)
    (few : selection.requestedCount < twoTo 31) :
    (previewOf request (seedOf request now) selection
      (arrange request.layout (selection.questions.map snapshot) drawn).1
      now).IsStorable := by
  have title := @titleOf_fits request.title selection.questions.length now
    storable.title storable.short (sound.size ▸ few)
  have base : ∀ question ∈ selection.questions.map snapshot,
      question.IsStorable ∧ question.payload.isUsable = true := by
    intro shown inside
    obtain ⟨question, chosen, rfl⟩ := List.mem_map.mp inside
    obtain ⟨usable, row, listed, read⟩ := sound.known question chosen
    exact ⟨isStorable_snapshot (rows row listed) (lawful.keys row listed).plain
      read, usable⟩
  exact
    { title := title.1
      short := title.2
      requested := few
      percentages := sound.percentages
      counts := sound.counts
      seed := seedOf_lt storable now
      labels := ⟨request.layout.variantCount, lettered.1, lettered.2,
        (List.map_map ..).trans (map_label_arrange _ _ _)⟩
      questions := by
        intro variant inside
        obtain ⟨labelled, arranged, rfl⟩ := List.mem_map.mp inside
        exact arrange_isStorable base arranged }

/-- The sheet of a preview can be stored for the request, and the rest of the
request is stored by its side. -/
theorem draft_isStorable (lawful : LawfulBank world.store.questions)
    (rows : ∀ row ∈ world.store.questions, row.IsStorable)
    (storable : request.IsStorable)
    (drafts : (generate author { request with preview := true } context world).1
      = .ok draft) (few : draft.requestedCount < twoTo 31) :
    draft.IsStorable ∧
    (∀ id, (filtersOf request.source).1 = some id → FitsId id) ∧
    ∀ id, (filtersOf request.source).2 = some id → FitsId id := by
  obtain ⟨selection, drawn, middle, lettered, chosen, rfl, -, -⟩ :=
    exists_drafted lawful.ids drafts
  have small : selection.requestedCount < countLimit :=
    Nat.lt_trans few (by decide)
  obtain ⟨sound, subject, topic⟩ := sourceSelection_isSound chosen small
  refine ⟨previewOf_isStorable lawful rows storable lettered sound few, ?_, ?_⟩
  · intro id same
    obtain ⟨row, listed, found⟩ := subject id same
    exact (rows row listed).subjectId id found
  · intro id same
    obtain ⟨row, listed, found⟩ := topic id same
    exact (rows row listed).topicId id found

end Exam

end ExamHall
