import ExamHall.Proofs.Exam.ScopeGeneration
import ExamHall.Proofs.Generation.Percentages
import ExamHall.Proofs.Settings.Loading

/-!
# Tests of listed questions

An author who lists questions gets all of them that can be used, in the order of
the list.  Otherwise the author learns, in the same order, which of the listed
questions there are not, or else which are private to somebody else.

The sheet of such a test tells its size and the percentages of its difficulties.
Asking for a test by scope with these is asking for the very same counts.
-/

namespace ExamHall

open Store Apportion

/-! ## Ids -/

/-- What comes without repetitions comes in the order in which it occurs
first. -/
theorem pairwise_idxOf_distinct {α : Type} [DecidableEq α] (items : List α) :
    (distinct items).Pairwise fun first second =>
      items.idxOf first < items.idxOf second := by
  induction items with
  | nil => exact .nil
  | cons head rest ih =>
      have later :
          ∀ item ∈ (distinct rest).filter (fun other => decide (other ≠ head)),
            (head :: rest).idxOf item = rest.idxOf item + 1 := by
        intro item inside
        exact List.idxOf_cons_ne rest
          (Ne.symm (of_decide_eq_true (List.mem_filter.mp inside).2))
      refine List.pairwise_cons.mpr ⟨fun item inside => ?_, ?_⟩
      · rw [List.idxOf_cons_self, later item inside]
        exact Nat.succ_pos _
      · refine (ih.filter _).imp_of_mem
          fun {first second} inside inside' less => ?_
        rw [later first inside, later second inside']
        exact Nat.succ_lt_succ less

/-- What is left out between two items does not change which of them comes
first. -/
theorem idxOf_lt_of_filter {α : Type} [DecidableEq α] {test : α → Bool}
    {items : List α} {first second : α} (passes : test first = true)
    (passes' : test second = true)
    (less : (items.filter test).idxOf first <
      (items.filter test).idxOf second) :
    items.idxOf first < items.idxOf second := by
  induction items with
  | nil => exact less
  | cons head rest ih =>
      rcases eq_or_ne head second with rfl | later
      · rw [List.filter_cons_of_pos passes', List.idxOf_cons_self] at less
        exact absurd less (Nat.not_lt_zero _)
      rw [List.idxOf_cons_ne rest later]
      rcases eq_or_ne head first with rfl | other
      · rw [List.idxOf_cons_self]
        exact Nat.succ_pos _
      rw [List.idxOf_cons_ne rest other]
      refine Nat.succ_lt_succ (ih ?_)
      by_cases kept : test head = true
      · rw [List.filter_cons_of_pos kept, List.idxOf_cons_ne _ later,
          List.idxOf_cons_ne _ other] at less
        exact Nat.lt_of_succ_lt_succ less
      · rwa [List.filter_cons_of_neg kept] at less

/-- Ids that stand for some texts: what these say without the blanks around it,
if anything, each id once and in the order of first occurrence. -/
structure ListsOnce (texts ids : List String) : Prop where
  members : ∀ id, id ∈ ids ↔ id ≠ "" ∧ ∃ text ∈ texts, Text.trim text = id
  once : ids.Nodup
  order : ids.Pairwise fun first second =>
    (texts.map Text.trim).idxOf first < (texts.map Text.trim).idxOf second

theorem listsOnce_listedIds (texts : List String) :
    ListsOnce texts (Exam.listedIds texts) where
  members id := by
    rw [Exam.listedIds, mem_distinct, List.mem_filter, List.mem_map]
    simp [and_comm]
  once := nodup_distinct _
  order := by
    refine (pairwise_idxOf_distinct _).imp_of_mem
      fun {first second} inside inside' less => ?_
    have shown := (List.mem_filter.mp (mem_distinct.mp inside)).2
    have shown' := (List.mem_filter.mp (mem_distinct.mp inside')).2
    exact idxOf_lt_of_filter shown shown' less

/-! ## Reading the listed questions -/

variable {store after : Store} {ids : List String}
  {found : List (Question Payload)} {bank : List (Question (Stored Payload))}

/-- What reading the questions with some ids needs: plain texts, the table of
questions, and rows that can be read. -/
structure Store.OffersListed (store : Store) (ids : List String) : Prop where
  texts : ∀ id ∈ ids, Column.hasNul id = false
  reach : store.CanReach [.questions]
  readable : ∀ row ∈ store.questions, row.id ∈ ids → row.read?.isSome

/-- The questions of a bank that have some ids. -/
def withIds (ids : List String) (bank : List (Question (Stored Payload))) :
    List (Question Payload) :=
  (bank.filter fun row => ids.contains row.id).filterMap Question.read?

theorem questionsWithIds_eq_ok :
    questionsWithIds ids store = .ok (found, after) ↔ store.OffersListed ids ∧
    after = store ∧ found = withIds ids store.questions := by
  simp only [questionsWithIds, bind_eq_ok, Statement.plain_eq_ok,
    Statement.reach_eq_ok, Statement.readAll_eq_ok]
  constructor
  · rintro ⟨_, _, ⟨plain, rfl⟩, _, _, ⟨reached, rfl⟩, read, rfl⟩
    refine ⟨⟨plain, reached, fun row inside listed => ?_⟩, rfl,
      mapM_eq_some_filterMap read⟩
    have selected : row ∈ after.questions.filter fun row =>
      ids.contains row.id :=
      List.mem_filter.mpr ⟨inside, List.contains_iff_mem.mpr listed⟩
    obtain ⟨question, -, same⟩ :=
      exists_mem_right_of_forall₂ (mapM_eq_some_iff_forall₂.mp read) selected
    exact Option.isSome_of_eq_some same
  · rintro ⟨⟨plain, reached, readable⟩, rfl, rfl⟩
    obtain ⟨found, read⟩ := @exists_mapM_eq_some _ _ Question.read?
        (after.questions.filter fun row => ids.contains row.id)
        fun row inside => by
        obtain ⟨inside, listed⟩ := List.mem_filter.mp inside
        exact readable row inside (List.contains_iff_mem.mp listed)
    obtain rfl : found = withIds ids after.questions :=
      mapM_eq_some_filterMap read
    exact ⟨(), after, ⟨plain, rfl⟩, (), after, ⟨reached, rfl⟩, read, rfl⟩

theorem mem_withIds {question : Question Payload} :
    question ∈ withIds ids bank ↔
      question.id ∈ ids ∧ ∃ row ∈ bank, row.read? = some question := by
  simp only [withIds, List.mem_filterMap, List.mem_filter,
    List.contains_iff_mem]
  constructor
  · rintro ⟨row, ⟨inside, listed⟩, read⟩
    exact ⟨(IsSelection.read?_fields read).1 ▸ listed, row, inside, read⟩
  · rintro ⟨listed, row, inside, read⟩
    exact ⟨row, ⟨inside, (IsSelection.read?_fields read).1 ▸ listed⟩, read⟩

theorem nodup_withIds (keys : (bank.map (·.id)).Nodup) :
    ((withIds ids bank).map (·.id)).Nodup :=
  nodup_map_id_filterMap (keys.sublist (List.filter_sublist.map _))

/-! ## What a list is answered with -/

/-- The listed ids that no question of a bank has. -/
def unknownIds (bank : List (Question (Stored Payload))) (ids : List String) :
    List String :=
  ids.filter fun id => decide (∀ row ∈ bank, row.id ≠ id)

/-- The listed ids of questions that are private to somebody else. -/
def foreignIds (author : Caller) (bank : List (Question (Stored Payload)))
    (ids : List String) : List String :=
  ids.filter fun id => decide (∃ row ∈ bank, row.id = id ∧
      row.ownerId ≠ author.id ∧ row.isPublic = false)

/-- The questions of a bank that are listed and can be used, in the order of the
list. -/
structure IsListed (bank : List (Question (Stored Payload))) (ids : List String)
    (questions : List (Question Payload)) : Prop where
  order : (questions.map (·.id)).Sublist ids
  members : ∀ question, question ∈ questions ↔ question.id ∈ ids ∧
    question.payload.isUsable = true ∧ ∃ row ∈ bank, row.read? = some question

/-- A sheet of lettered variants that each show all of some questions, with the
numbers and the percentages of its difficulties. -/
structure TestSheet.ShowsAll (questions : List (Question Payload))
    (layout : Layout) (sheet : TestSheet) : Prop where
  requested : sheet.requestedCount = questions.length
  counts : ∀ difficulty,
    sheet.counts.get difficulty = countOf difficulty questions
  sum : sheet.counts.sum = questions.length
  derived : derivePercentages? sheet.counts = some sheet.percentages
  percentages : sheet.percentages.sum = 100
  number : sheet.variants.length = layout.variantCount
  labels : sheet.variants.map (·.label) = variantLabels.take layout.variantCount
  size : ∀ variant ∈ sheet.variants, variant.questions.length = questions.length
  ids : ∀ variant ∈ sheet.variants,
    (variant.questions.map (·.questionId)).Perm (questions.map (·.id))
  shown : ∀ variant ∈ sheet.variants, ∀ shown ∈ variant.questions,
    ∃ question ∈ questions, (snapshot question).ShownAs shown
  inOrder : layout.shuffleQuestions = false → ∀ variant ∈ sheet.variants,
    variant.questions.map (·.questionId) = questions.map (·.id)

theorem IsListed.length_le {questions : List (Question Payload)}
    (listed : IsListed bank ids questions) : questions.length ≤ ids.length := by
  rw [← List.length_map (·.id)]
  exact listed.order.length_le

/-- If all listed questions can be used, they are what is listed. -/
theorem IsListed.map_id_eq {questions : List (Question Payload)}
    (listed : IsListed bank ids questions) (once : ids.Nodup)
    (usable : ∀ id ∈ ids, ∃ row ∈ bank, row.id = id ∧ ∃ question,
      row.read? = some question ∧ question.payload.isUsable = true) :
    questions.map (·.id) = ids := by
  refine listed.order.eq_of_length_le
    (List.subperm_of_subset once fun id inside => ?_).length_le
  obtain ⟨row, stored, rfl, question, read, suits⟩ := usable id inside
  have same := (IsSelection.read?_fields read).1
  exact List.mem_map.mpr ⟨question,
    (listed.members question).mpr ⟨same ▸ inside, suits, row, stored, read⟩,
    same⟩

namespace Exam

open ExamHall.Action

/-- How a list of ids is answered.  What is made of the usable questions is left
open. -/
inductive AnswersListing {α : Type} (most : Nat) (author : Caller)
    (bank : List (Question (Stored Payload))) (ids : List String)
    (makes : List (Question Payload) → α → Prop) :
    Except (Halt GenerationError) α → Prop where
  | empty (none : ids = []) :
      AnswersListing most author bank ids makes (.error (.refused .noIds))
  | tooMany (many : most < ids.length) : AnswersListing most author bank ids
      makes (.error (.refused (.tooManyIds most)))
  | unknown (some : ids ≠ []) (few : ids.length ≤ most)
      (missing : unknownIds bank ids ≠ []) : AnswersListing most author bank ids
      makes (.error (.refused (.unknownIds (unknownIds bank ids))))
  | foreign (some : ids ≠ []) (few : ids.length ≤ most)
      (known : unknownIds bank ids = [])
      (denied : foreignIds author bank ids ≠ []) :
      AnswersListing most author bank ids makes
        (.error (.refused (.foreignIds (foreignIds author bank ids))))
  | noneUsable (some : ids ≠ []) (few : ids.length ≤ most)
      (known : unknownIds bank ids = [])
      (allowed : foreignIds author bank ids = [])
      (unusable : IsListed bank ids []) :
      AnswersListing most author bank ids makes (.error (.refused .noneUsable))
  | made {questions : List (Question Payload)} {value : α} (some : ids ≠ [])
      (few : ids.length ≤ most) (known : unknownIds bank ids = [])
      (allowed : foreignIds author bank ids = [])
      (listed : IsListed bank ids questions)
      (usable : questions ≠ []) (held : makes questions value) :
      AnswersListing most author bank ids makes (.ok value)

variable {author : Caller}

section Picking

variable (keys : (bank.map (·.id)).Nodup)
  (readable : ∀ row ∈ bank, row.id ∈ ids → row.read?.isSome)

include readable in
theorem find?_withIds_isNone {id : String} (listed : id ∈ ids) :
    ((withIds ids bank).find? fun question => question.id == id).isNone =
      decide (∀ row ∈ bank, row.id ≠ id) := by
  rw [Bool.eq_iff_iff, Option.isNone_iff_eq_none, List.find?_eq_none,
    decide_eq_true_iff]
  constructor
  · rintro absent row inside rfl
    obtain ⟨question, read⟩ :=
      Option.isSome_iff_exists.mp (readable row inside listed)
    have same := (IsSelection.read?_fields read).1
    exact absent question (mem_withIds.mpr ⟨same ▸ listed, row, inside, read⟩)
      (beq_iff_eq.mpr same)
  · intro absent question found same
    obtain ⟨-, row, inside, read⟩ := mem_withIds.mp found
    exact absent row inside
      ((IsSelection.read?_fields read).1.symm.trans (beq_iff_eq.mp same))

include keys readable in
theorem find?_withIds_any_foreign {id : String} (listed : id ∈ ids) :
    (((withIds ids bank).find? fun question => question.id == id).any
      fun question => !isVisibleTo author.id question) = decide (∃ row ∈ bank,
        row.id = id ∧ row.ownerId ≠ author.id ∧ row.isPublic = false) := by
  rw [Bool.eq_iff_iff, Option.any_eq_true, decide_eq_true_iff]
  constructor
  · rintro ⟨question, found, denied⟩
    obtain ⟨known, rfl⟩ := mem_and_key_of_find? found
    obtain ⟨-, row, inside, read⟩ := mem_withIds.mp known
    obtain ⟨payload, -, rfl⟩ := Option.map_eq_some_iff.mp read
    exact ⟨row, inside, rfl, by simpa [isVisibleTo] using denied⟩
  · rintro ⟨row, inside, rfl, denied⟩
    obtain ⟨question, read⟩ :=
      Option.isSome_iff_exists.mp (readable row inside listed)
    have same := (IsSelection.read?_fields read).1
    refine ⟨question, ?_, ?_⟩
    · exact (find?_key_eq_some_iff (nodup_withIds keys)).mpr
        ⟨mem_withIds.mpr ⟨same ▸ listed, row, inside, read⟩, same⟩
    · obtain ⟨payload, -, rfl⟩ := Option.map_eq_some_iff.mp read
      simpa [isVisibleTo] using denied

include keys in
/-- What is looked up for a list is what is listed. -/
theorem isListed_filterMap :
    IsListed bank ids
      ((ids.filterMap fun id => (withIds ids bank).find? fun question =>
        question.id == id).filter (·.payload.isUsable)) where
  order := by
    refine (List.filter_sublist.map _).trans
      (map_id_filterMap_sublist fun id question named => ?_)
    exact (mem_and_key_of_find? named).2
  members question := by
    rw [List.mem_filter, List.mem_filterMap]
    constructor
    · rintro ⟨⟨id, listed, named⟩, usable⟩
      obtain ⟨inside, -⟩ := mem_and_key_of_find? named
      obtain ⟨listed, row⟩ := mem_withIds.mp inside
      exact ⟨listed, usable, row⟩
    · rintro ⟨listed, usable, row⟩
      refine ⟨⟨question.id, listed, ?_⟩, usable⟩
      exact find?_key_eq_some (nodup_withIds keys)
        (mem_withIds.mpr ⟨listed, row⟩)

/-- What is picked from the questions with the listed ids, apart from whether
their number is allowed. -/
theorem pickListed_withIds (keys : (bank.map (·.id)).Nodup)
    (readable : ∀ row ∈ bank, row.id ∈ ids → row.read?.isSome) :
    pickListed author ids (withIds ids bank) = if unknownIds bank ids ≠ []
    then .error (.unknownIds (unknownIds bank ids))
      else if foreignIds author bank ids ≠ []
        then .error (.foreignIds (foreignIds author bank ids))
      else
        let usable :=
          (ids.filterMap fun id => (withIds ids bank).find? fun question =>
            question.id == id).filter (·.payload.isUsable)
        if usable = [] then .error .noneUsable else .ok usable := by
  have unknown : (ids.filter fun id => ((withIds ids bank).find? fun question =>
      question.id == id).isNone) = unknownIds bank ids :=
    List.filter_congr fun id listed => find?_withIds_isNone readable listed
  have foreign : (ids.filter fun id => ((withIds ids bank).find? fun question =>
      question.id == id).any fun question => !isVisibleTo author.id question) =
        foreignIds author bank ids :=
    List.filter_congr fun id listed =>
      find?_withIds_any_foreign keys readable listed
  unfold pickListed
  dsimp only
  rw [unknown, foreign]
  simp only [Bool.not_eq_true', List.isEmpty_eq_false_iff, List.isEmpty_iff]

end Picking

theorem pickListed_eq_of_perm {others : List (Question Payload)}
    (perm : found.Perm others) (keys : (found.map (·.id)).Nodup) :
    pickListed author ids found = pickListed author ids others := by
  unfold pickListed
  simp only [find?_key_eq_of_perm perm keys]

/-! ## Selecting -/

/-- A selection of questions with their numbers and the percentages that these
imply. -/
structure Counts (questions : List (Question Payload)) (selection : Selection) :
    Prop where
  chosen : selection.questions = questions
  requested : selection.requestedCount = questions.length
  counts : selection.counts = countsOf questions
  percentages : derivePercentages? (countsOf questions) =
    some selection.percentages

/-- What is selected from the questions that are found for a list of ids. -/
def listedSelection (most : Nat) (author : Caller) (given : List String)
    (found : List (Question Payload)) :
    Except (Halt GenerationError) Selection :=
  if listedIds given = [] then .error (.refused .noIds)
  else if most < (listedIds given).length
    then .error (.refused (.tooManyIds most))
  else
    match pickListed author (listedIds given) found with
    | .error error => .error (.refused error)
    | .ok questions =>
      match derivePercentages? (countsOf questions) with
      | none => .error .outOfRange
      | some percentages =>
        .ok { questions, requestedCount := questions.length, percentages,
              counts := countsOf questions }

variable {given : List String} {most : Nat}

theorem listedSelection_answers (keys : (bank.map (·.id)).Nodup)
    (small : most < countLimit)
    (readable : listedIds given ≠ [] → (listedIds given).length ≤ most →
      ∀ row ∈ bank, row.id ∈ listedIds given → row.read?.isSome) :
    AnswersListing most author bank (listedIds given) Counts
      (listedSelection most author given (withIds (listedIds given) bank)) := by
  unfold listedSelection
  split
  · next none => exact .empty none
  next some =>
  split
  · next many => exact .tooMany many
  next few =>
  have few := Nat.not_lt.mp few
  have listed := @isListed_filterMap (listedIds given) bank keys
  rw [pickListed_withIds keys (readable some few)]
  dsimp only
  generalize ((listedIds given).filterMap _).filter _ = questions at listed ⊢
  by_cases known : unknownIds bank (listedIds given) = []
  · by_cases allowed : foreignIds author bank (listedIds given) = []
    · rw [if_neg (not_not.mpr known), if_neg (not_not.mpr allowed)]
      by_cases unusable : questions = []
      · rw [if_pos unusable]
        exact .noneUsable some few known allowed (unusable ▸ listed)
      · rw [if_neg unusable]
        have whole := sum_countsOf questions
        have size : questions.length ≤ most := listed.length_le.trans few
        obtain ⟨percentages, derived, -⟩ := exists_derivePercentages?
          (whole.symm ▸ List.length_pos_iff.mpr unusable)
          (whole.symm ▸ Nat.lt_of_le_of_lt size small)
        dsimp only
        rw [derived]
        exact .made some few known allowed listed unusable
          ⟨rfl, rfl, rfl, derived⟩
    · rw [if_neg (not_not.mpr known), if_pos allowed]
      exact .foreign some few known allowed
  · rw [if_pos known]
    exact .unknown some few known

/-- A list is answered by the questions of the bank that have the listed ids,
unless these cannot be read. -/
theorem selectListed_ends {context : Context} :
    Ends context (fun world => world.store = store) (selectListed author given)
      fun result world => world.store = store ∧
    ((¬store.OffersListed (listedIds given) ∧
      ∃ fault, result = .error (.refused (.storage fault))) ∨
      result = listedSelection context.settings.maxManualIds author given
        (withIds (listedIds given) store.questions) ∧
      (listedIds given ≠ [] →
        (listedIds given).length ≤ context.settings.maxManualIds →
        store.OffersListed (listedIds given))) := by
  unfold selectListed listedSelection
  apply Ends.reading
  dsimp only
  by_cases none : listedIds given = []
  · rw [if_pos none, none]
    exact fun world same => ⟨same, .inr ⟨rfl, fun some => absurd rfl some⟩⟩
  have passed : (!(listedIds given).isEmpty) = true := by simpa using none
  rw [if_neg none, passed]
  by_cases many : context.settings.maxManualIds < (listedIds given).length
  · rw [if_pos many, decide_eq_false (Nat.not_le.mpr many)]
    exact fun world same =>
      ⟨same, .inr ⟨rfl, fun _ few => absurd few (Nat.not_le.mpr many)⟩⟩
  rw [if_neg many, decide_eq_true (Nat.not_lt.mp many)]
  change Ends context _ (query (questionsWithIds (listedIds given)) >>= _) _
  refine .bind (fun result world => world.store = store ∧ match result with
    | .ok found => store.OffersListed (listedIds given) ∧
        found = withIds (listedIds given) store.questions
    | .error halt => ¬store.OffersListed (listedIds given) ∧
        ∃ fault, halt = .refused (.storage fault))
    (.readQuery (isRead_questionsWithIds _) ?_ ?_) (fun found => ?_) ?_
  · rintro world rfl found ended
    obtain ⟨offers, -, same⟩ := questionsWithIds_eq_ok.mp ended
    exact ⟨rfl, offers, same⟩
  · rintro world rfl fault failed
    refine ⟨rfl, fun offers => ?_, fault, rfl⟩
    cases failed.symm.trans (questionsWithIds_eq_ok.mpr ⟨offers, rfl, rfl⟩)
  · rintro world ⟨same, offers, rfl⟩
    cases pickListed author (listedIds given)
        (withIds (listedIds given) store.questions) with
    | error error => exact ⟨same, .inr ⟨rfl, fun _ _ => offers⟩⟩
    | ok questions =>
        dsimp only
        cases derivePercentages? (countsOf questions) with
        | none => exact ⟨same, .inr ⟨rfl, fun _ _ => offers⟩⟩
        | some percentages => exact ⟨same, .inr ⟨rfl, fun _ _ => offers⟩⟩
  · rintro halt world ⟨same, unread, fault, rfl⟩
    exact ⟨same, .inl ⟨unread, fault, rfl⟩⟩

theorem AnswersListing.of_error {α β : Type}
    {makes : List (Question Payload) → α → Prop}
    {makes' : List (Question Payload) → β → Prop} {halt : Halt GenerationError}
    (answers : AnswersListing most author bank ids makes (.error halt)) :
    AnswersListing most author bank ids makes' (.error halt) := by
  cases answers with
  | empty none => exact .empty none
  | tooMany many => exact .tooMany many
  | unknown some few missing => exact .unknown some few missing
  | foreign some few known denied => exact .foreign some few known denied
  | noneUsable some few known allowed unusable =>
      exact .noneUsable some few known allowed unusable

/-! ## Generating -/

variable {context : Context} {world : World} {request : GenerationRequest}
  {selection : Selection} {generator : Random.Generator}
  {questions : List (Question Payload)} {sheet : TestSheet}

/-- A sheet with a selection of questions shows all of them. -/
theorem Counts.showsAll (counted : Counts questions selection)
    (nonempty : questions ≠ [])
    (lettered : request.layout.variantCount ≤ maxVariants)
    (content : sheet.content =
      (previewOf request (seedOf request context.now) selection
        (arrange request.layout (selection.questions.map snapshot) generator).1
        context.now).content) : sheet.ShowsAll questions request.layout := by
  obtain ⟨rfl, requested, counts, percentages⟩ := counted
  have shown : sheet.variants.map TestVariant.content = (arrange request.layout
        (selection.questions.map snapshot) generator).1.map fun variant =>
          ⟨none, variant.label, variant.questions⟩ :=
    (congrArg TestSheet.variants content).trans (List.map_map ..)
  have sameCounts : sheet.counts = countsOf selection.questions :=
    (congrArg TestSheet.counts content).trans counts
  have samePercentages : sheet.percentages = selection.percentages :=
    congrArg TestSheet.percentages content
  have whole := sum_countsOf selection.questions
  have ids : ∀ variant ∈ sheet.variants,
      (variant.questions.map (·.questionId)).Perm
        (selection.questions.map (·.id)) :=
    fun variant inside =>
      (map_perm_of_arranged shown (fun _ _ shownAs => shownAs.questionId)
        inside).trans (.of_eq (List.map_map ..))
  exact
    { requested := (congrArg TestSheet.requestedCount content).trans requested
      counts := fun difficulty => by rw [sameCounts, get_countsOf]
      sum := by rw [sameCounts, whole]
      derived := by rw [sameCounts, samePercentages, percentages]
      percentages := by
        rw [samePercentages]
        exact sum_of_derivePercentages?
          (whole.symm ▸ List.length_pos_iff.mpr nonempty) percentages
      number := length_of_arrange shown lettered
      labels := map_label_of_arrange shown
      size := fun variant inside => by
        have same := (ids variant inside).length_eq
        rwa [List.length_map, List.length_map] at same
      ids
      shown := fun variant inside shown' listed => by
        obtain ⟨_, frozen, shownAs⟩ :=
          exists_shownAs_of_arranged shown inside listed
        obtain ⟨question, chosen, rfl⟩ := List.mem_map.mp frozen
        exact ⟨question, chosen, shownAs⟩
      inOrder := fun fixed variant inside => by
        obtain ⟨labelled, listed, same⟩ := exists_arranged shown inside
        have pairs := arrange_inOrder fixed listed
        rw [same, map_eq_of_forall₂ pairs fun _ _ shownAs => shownAs.questionId,
          List.map_map]
        rfl }

variable (author) in
/-- A list is answered as it should be, unless the listed questions cannot be
read; a request that fails leaves the store as it is. -/
theorem generate_manual_generates (source : request.source = .manual given)
    (keys : (world.store.questions.map (·.id)).Nodup)
    (small : context.settings.maxManualIds < countLimit) :
    (Generates context world.store author request (AnswersListing
      context.settings.maxManualIds author world.store.questions
      (listedIds given) fun questions (chosen : Selection × Random.Generator) =>
        Counts questions chosen.1) (generate author request context world).1 ∨
      ¬world.store.OffersListed (listedIds given) ∧
      ∃ fault, (generate author request context world).1 =
          .error (.refused (.storage fault))) ∧ ∀ halt,
      (generate author request context world).1 = .error halt →
      (generate author request context world).2.store = world.store := by
  refine (generate_ends ?_ world rfl).imp Generates.read_or_unread id
  rw [source]
  have answers := fun (result : Except (Halt GenerationError) Selection)
      (ended : result = listedSelection context.settings.maxManualIds
        author given (withIds (listedIds given) world.store.questions))
      (offers : listedIds given ≠ [] →
        (listedIds given).length ≤ context.settings.maxManualIds →
        world.store.OffersListed (listedIds given)) =>
    ended ▸ @listedSelection_answers world.store.questions author given _ keys
      small fun some few => (offers some few).readable
  refine .bind _ selectListed_ends (fun selection => ?_) ?_
  · rintro world' ⟨same, ⟨-, fault, failed⟩ | ⟨ended, offers⟩⟩
    · cases failed
    · refine ⟨same, .inr ?_⟩
      cases answers _ ended offers with
      | made some few known allowed listed usable held =>
          exact .made some few known allowed listed usable held
  · rintro halt world' ⟨same, ⟨unread, fault, failed⟩ | ⟨ended, offers⟩⟩
    · cases failed
      exact ⟨same, .inl ⟨unread, fault, rfl⟩⟩
    · exact ⟨same, .inr (answers _ ended offers).of_error⟩

/-- A store fails a request with a list only when it cannot read the listed
questions or cannot store what they make. -/
theorem generate_manual_fault (source : request.source = .manual given)
    (keys : (world.store.questions.map (·.id)).Nodup)
    (small : context.settings.maxManualIds < countLimit) {fault : StorageFault}
    (failed : (generate author request context world).1 =
      .error (.refused (.storage fault))) :
    ¬world.store.OffersListed (listedIds given) ∨ request.preview = false ∧
    ∃ questions sheet,
      IsListed world.store.questions (listedIds given) questions ∧
      sheet.ShowsAll questions request.layout ∧
      storeTest (newTest author request sheet context.now) sheet context.now
        world.store = .error fault := by
  have ends := (generate_manual_generates author source keys small).1
  rw [failed] at ends
  rcases ends with generates | ⟨unread, -⟩
  · cases generates with
    | unselected _ answers => cases answers
    | unstored stored lettered answers content failed =>
        cases answers with
        | made _ _ _ _ listed usable held =>
            exact .inr ⟨stored, _, _, listed,
              held.showsAll usable lettered.2 content, failed⟩
  · exact .inl unread

/-- A preview of what can be read meets no fault of the store. -/
theorem generate_manual_ne_fault (source : request.source = .manual given)
    (keys : (world.store.questions.map (·.id)).Nodup)
    (small : context.settings.maxManualIds < countLimit)
    (offers : world.store.OffersListed (listedIds given))
    (preview : request.preview = true) (fault : StorageFault) :
    (generate author request context world).1 ≠
      .error (.refused (.storage fault)) := by
  intro failed
  rcases generate_manual_fault source keys small failed
    with unread | ⟨stored, -⟩
  · exact unread offers
  · exact Bool.noConfusion (preview.symm.trans stored)

/-- Unless the store fails it, a list is answered as it should be. -/
theorem generate_manual_answers (source : request.source = .manual given)
    (keys : (world.store.questions.map (·.id)).Nodup)
    (small : context.settings.maxManualIds < countLimit)
    (lettered : 1 ≤ request.layout.variantCount ∧
      request.layout.variantCount ≤ 10)
    (works : ∀ fault, (generate author request context world).1 ≠
      .error (.refused (.storage fault))) :
    AnswersListing context.settings.maxManualIds author
      world.store.questions (listedIds given)
      (fun questions sheet => sheet.ShowsAll questions request.layout)
      (generate author request context world).1 := by
  obtain ⟨generates | ⟨-, fault, failed⟩, -⟩ :=
    generate_manual_generates author source keys small
  · generalize (generate author request context world).1 =
      result at generates works
    cases generates with
    | unlettered outside => exact absurd lettered outside
    | unselected _ answers => exact answers.of_error
    | @unstored _ _ _ fault => exact absurd rfl (works fault)
    | generated _ answers content =>
        cases answers with
        | made some few known allowed listed usable held =>
            exact .made some few known allowed listed usable
              (held.showsAll usable lettered.2 content)
  · exact absurd failed (works fault)

/-! ## A mixed bank -/

/-- A bank with an own easy question, a public one, an own hard one, and one
that is private to somebody else. -/
def mixedBank : Store :=
  { Store.empty with
    questions := [truthQuestion "q1" "o" false,
      { truthQuestion "q2" "p" true with difficulty := .medium },
      { truthQuestion "q3" "o" false with difficulty := .hard },
        truthQuestion "q4" "p" false] }

/-- A list of three questions with a repetition and some blanks, for two
variants that keep the order. -/
def listsThree : GenerationRequest where
  title := none
  source := .manual ["q3 ", "q1", " ", "q2", "q1"]
  layout := ⟨2, false, true⟩
  seed := some 1
  preview := true

theorem listedIds_listsThree :
    listedIds ["q3 ", "q1", " ", "q2", "q1"] = ["q3", "q1", "q2"] := by
  decide +kernel

theorem mixedBank_offersListed :
    mixedBank.OffersListed (listedIds ["q3 ", "q1", " ", "q2", "q1"]) := by
  have readable : ∀ row ∈ mixedBank.questions, row.read?.isSome := by decide
  rw [listedIds_listsThree]
  exact ⟨by decide +kernel, fun table _ lost => List.not_mem_nil lost,
    fun row inside _ => readable row inside⟩

/-- The list is met with all three questions. -/
theorem mixedBank_meets {α : Type} {makes : List (Question Payload) → α → Prop}
    {result : Except (Halt GenerationError) α} (enough : 3 ≤ most)
    (answers : AnswersListing most ⟨"o", .teacher⟩ mixedBank.questions
      (listedIds ["q3 ", "q1", " ", "q2", "q1"]) makes result) :
    ∃ questions value, result = .ok value ∧
      questions.map (·.id) = ["q3", "q1", "q2"] ∧ makes questions value := by
  rw [listedIds_listsThree] at answers
  have usable : ∀ id ∈ ["q3", "q1", "q2"], ∃ row ∈ mixedBank.questions,
      row.id = id ∧ ∃ question, row.read? = some question ∧
        question.payload.isUsable = true := by
    have known : ∀ id ∈ ["q3", "q1", "q2"],
      id ∈ mixedBank.questions.map (·.id) := by decide
    have read : ∀ row ∈ mixedBank.questions,
      row.read?.any (fun question => question.payload.isUsable) = true := by
      decide +kernel
    intro id listed
    obtain ⟨row, inside, same⟩ := List.mem_map.mp (known id listed)
    exact ⟨row, inside, same, (Option.any_eq_true _ _).mp (read row inside)⟩
  cases answers with
  | empty none => cases none
  | tooMany many => exact absurd enough (Nat.not_le.mpr many)
  | unknown _ _ missing => exact absurd (by decide +kernel) missing
  | foreign _ _ _ denied => exact absurd (by decide +kernel) denied
  | noneUsable _ _ _ _ unusable => cases unusable.map_id_eq (by decide) usable
  | made _ _ _ _ listed _ held =>
      exact ⟨_, _, rfl, listed.map_id_eq (by decide) usable, held⟩

/-! ## Asking for the same split again -/

/-- The size and the percentages on a sheet ask for the counts on it.  Who asks
for a test by scope with them gets a sheet with these counts, or learns what
lacks for just these. -/
structure AsksForItself (sheet : TestSheet) : Prop where
  size : sheet.counts.sum = sheet.requestedCount
  derived : derivePercentages? sheet.counts = some sheet.percentages
  split : splitFault? sheet.percentages = none
  counts : bucketCounts? sheet.requestedCount sheet.percentages =
    some sheet.counts
  again : ∀ {context : Context} {world : World} {author : Caller}
    {request : GenerationRequest} {subjectId topicId : Option String},
    request.source =
      .scope subjectId topicId sheet.requestedCount sheet.percentages →
    (1 ≤ request.layout.variantCount ∧ request.layout.variantCount ≤ 10) →
    sheet.requestedCount ≤ context.settings.maxQuestions →
    (world.store.questions.map (·.id)).Nodup →
    (∀ fault, (generate author request context world).1 ≠
      .error (.refused (.storage fault))) →
    (∃ drawn, (generate author request context world).1 = .ok drawn ∧
      drawn.IsDrawnFrom
        (drawable author subjectId topicId world.store.questions)
        request.layout.variantCount sheet.requestedCount sheet.counts) ∨
    (generate author request context world).1 =
      .error (.refused (.tooFew (lacking (drawable author subjectId topicId
        world.store.questions) sheet.counts)))

/-- All that is asked for within the bounds is drawn or found to be lacking. -/
theorem AnswersScope.of_counts {pool : List (Question Payload)}
    {count variantCount : Nat} {percentages counts : PerDifficulty Nat}
    {result : Except (Halt GenerationError) TestSheet}
    (answers : AnswersScope most pool variantCount count percentages result)
    (bounds : IsInBounds most count percentages)
    (asked : bucketCounts? count percentages = some counts) :
    (∃ drawn, result = .ok drawn ∧
      drawn.IsDrawnFrom pool variantCount count counts) ∨
    result = .error (.refused (.tooFew (lacking pool counts))) := by
  by_cases enough : ∀ difficulty,
    counts.get difficulty ≤ countOf difficulty pool
  · obtain ⟨drawn, ended⟩ :=
      answers.succeeds.mpr ⟨bounds, counts, asked, enough⟩
    obtain ⟨same, asked', shows⟩ := answers.drawn drawn ended
    obtain rfl := Option.some.inj (asked.symm.trans asked')
    exact .inl ⟨drawn, ended, shows⟩
  · refine .inr (answers.tooFew bounds counts asked ?_)
    simpa using enough

/-- A sheet that shows all of at most one hundred questions asks for itself. -/
theorem asksForItself_of_showsAll {layout : Layout}
    (shows : sheet.ShowsAll questions layout) (nonempty : questions ≠ [])
    (few : questions.length ≤ 100) : AsksForItself sheet := by
  have positive : 0 < sheet.counts.sum :=
    shows.sum.symm ▸ List.length_pos_iff.mpr nonempty
  have size : sheet.counts.sum = sheet.requestedCount :=
    shows.sum.trans shows.requested.symm
  have each : ∀ difficulty, sheet.percentages.get difficulty ≤ 100 :=
    fun difficulty =>
      (PerDifficulty.get_le_sum difficulty).trans shows.percentages.le
  have back := bucketCounts?_derivePercentages? positive
    (shows.sum.trans_le few) shows.derived
  rw [size] at back
  refine ⟨size, shows.derived,
    splitFault?_eq_none.mpr ⟨each, shows.percentages⟩, back, ?_⟩
  intro context world author request subjectId topicId source lettered allowed
    keys works
  have small : sheet.requestedCount < countLimit :=
    Nat.lt_of_le_of_lt (shows.requested.trans_le few) (by decide)
  have bounds : IsInBounds context.settings.maxQuestions sheet.requestedCount
      sheet.percentages :=
    ⟨size ▸ positive, allowed, each, shows.percentages⟩
  exact (generate_scope_answers source keys small lettered works).of_counts
    bounds back

/-- The shares of some counts on a scale that is not coarser give back the
counts.  So a test of listed questions tells with its size and its percentages
how its questions are split, and whoever asks for a test with them asks for just
this split. -/
theorem shares_give_back_counts :
    (∀ counts scale, 0 < counts.sum → counts.sum ≤ scale → scale < countLimit →
      ∃ shares, apportion? scale counts counts.sum = some shares ∧
        apportion? counts.sum shares scale = some counts) ∧
    ∀ {values : Variables} {context : Context} {world : World} {author : Caller}
      {request : GenerationRequest} {given : List String} {sheet : TestSheet},
      Settings.load values = .ok context.settings →
      request.source = .manual given →
      (world.store.questions.map (·.id)).Nodup →
      (generate author request context world).1 = .ok sheet →
      AsksForItself sheet := by
  refine ⟨fun counts scale positive fine small => ?_, ?_⟩
  · obtain ⟨shares, found, -, back⟩ :=
      exists_apportion?_back positive fine small
    exact ⟨shares, found, back⟩
  · intro values context world author request given sheet loaded source
      keys ended
    have most := (Settings.keepsBounds_of_load loaded).maxManualIds.2
    have small : context.settings.maxManualIds < countLimit :=
      Nat.lt_of_le_of_lt most (by decide)
    have ends := (generate_manual_generates author source keys small).1
    rw [ended] at ends
    rcases ends with generates | ⟨-, fault, failed⟩
    · cases generates with
      | generated lettered answers content =>
          cases answers with
          | @made questions _ _ few _ _ listed usable held =>
              have size : questions.length ≤ 100 :=
                listed.length_le.trans (few.trans most)
              exact asksForItself_of_showsAll
                (held.showsAll usable lettered.2 content) usable size
    · cases failed

theorem exists_load_nil :
    ∃ settings, Settings.load [] = .ok settings ∧
      settings.maxManualIds = 100 := by
  have found : (match Settings.load [] with
    | .ok settings => settings.maxManualIds
    | .error _ => 0) = 100 := by decide +kernel
  cases loaded : Settings.load [] with
  | ok settings =>
      rw [loaded] at found
      exact ⟨settings, rfl, found⟩
  | error fault =>
      rw [loaded] at found
      cases found

/-- An installation that sets no variables makes a test of the three questions,
which asks for itself. -/
theorem shares_give_back_counts_three :
    (∃ shares, apportion? 100 ⟨1, 1, 1⟩ 3 = some shares ∧
      apportion? 3 shares 100 = some ⟨1, 1, 1⟩) ∧ ∃ context sheet,
      Settings.load [] = .ok context.settings ∧
      (generate ⟨"o", .teacher⟩ listsThree context ⟨mixedBank, []⟩).1 =
        .ok sheet ∧ sheet.requestedCount = 3 ∧ AsksForItself sheet := by
  obtain ⟨settings, loaded, most⟩ := exists_load_nil
  obtain ⟨back, itself⟩ := shares_give_back_counts
  have small : settings.maxManualIds < countLimit := by
    rw [most]
    decide
  have works := @generate_manual_answers ⟨"o", .teacher⟩
    ["q3 ", "q1", " ", "q2", "q1"] { withSmallBank.context with settings }
    ⟨mixedBank, []⟩ listsThree rfl (by decide) small (by decide)
    (generate_manual_ne_fault rfl (by decide) small mixedBank_offersListed rfl)
  obtain ⟨questions, sheet, ended, ids, shows⟩ :=
    mixedBank_meets (most.symm ▸ by decide) works
  have size : questions.length = 3 := by
    rw [← List.length_map, ids]
    rfl
  refine ⟨?_, _, sheet, loaded, ended, shows.requested.trans size, ?_⟩
  · exact back ⟨1, 1, 1⟩ 100 (by decide) (by decide) (by decide)
  · exact itself loaded rfl (by decide) ended

end Exam

end ExamHall
