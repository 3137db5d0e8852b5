import ExamHall.Proofs.Exam.Listing

/-!
# Generating a test once more

Who repeats a request with the seed of its first sheet gets the same sheet, if
the bank has the same questions for the request.  Neither the order of the rows
matters nor what else there is, nor the time, nor whether sheets are stored.
-/

namespace ExamHall.Exam

open Store ExamHall.Action

variable {context : Context} {store : Store} {author : Caller}
  {given : List String} {generator : Random.Generator}

/-! ## Selecting from the same questions -/

/-- What a source selects from a bank. -/
def sourceSelection (settings : Settings) (author : Caller)
    (bank : List (Question (Stored Payload))) (generator : Random.Generator) :
    QuestionSource →
    Except (Halt GenerationError) (Selection × Random.Generator)
  | .scope subjectId topicId count percentages =>
    scopeSelection settings.maxQuestions
      (drawable author subjectId topicId bank) count percentages generator
  | .manual given =>
    (listedSelection settings.maxManualIds author given
      (withIds (listedIds given) bank)).map fun selection =>
        (selection, generator)

theorem selectFor_ends {source : QuestionSource}
    (ids : (store.questions.map (·.id)).Nodup) :
    Ends context (fun world => world.store = store)
      (selectFor author source generator) fun result world =>
        world.store = store ∧
        ((∃ fault, result = .error (.refused (.storage fault))) ∨
          result = sourceSelection context.settings author store.questions
            generator source) := by
  cases source with
  | scope subjectId topicId count percentages =>
      refine .weaken (selectFromScope_ends ids) (fun _ same => same) ?_
      rintro result world ⟨same, ⟨-, unread⟩ | ended⟩
      · exact ⟨same, .inl unread⟩
      · exact ⟨same, .inr ended⟩
  | manual given =>
      refine .bind _ selectListed_ends (fun selection => ?_) ?_
      · rintro world ⟨same, ⟨-, fault, failed⟩ | ⟨ended, -⟩⟩
        · cases failed
        · refine ⟨same, .inr ?_⟩
          rw [sourceSelection, ← ended]
          rfl
      · rintro halt world ⟨same, ⟨-, fault, failed⟩ | ⟨ended, -⟩⟩
        · cases failed
          exact ⟨same, .inl ⟨fault, rfl⟩⟩
        · refine ⟨same, .inr ?_⟩
          rw [sourceSelection, ← ended]
          rfl

/-- Two banks have the same questions for a source: the same that can be drawn
in its scope, or the same rows with the ids that it lists. -/
def HaveSame (author : Caller) (bank other : List (Question (Stored Payload))) :
    QuestionSource → Prop
  | .scope subjectId topicId _ _ =>
    (drawable author subjectId topicId bank).Perm
      (drawable author subjectId topicId other)
  | .manual given =>
    (bank.filter fun row => (listedIds given).contains row.id).Perm
      (other.filter fun row => (listedIds given).contains row.id)

theorem sourceSelection_eq {settings : Settings}
    {bank other : List (Question (Stored Payload))} {source : QuestionSource}
    (ids : (bank.map (·.id)).Nodup) (ids' : (other.map (·.id)).Nodup)
    (same : HaveSame author bank other source) :
    sourceSelection settings author bank generator source =
      sourceSelection settings author other generator source := by
  cases source with
  | scope subjectId topicId count percentages =>
      have perm : (drawable author subjectId topicId bank).Perm
        (drawable author subjectId topicId other) := same
      have drawn : ∀ counts,
        drawSelection (drawable author subjectId topicId bank) count percentages
          counts generator =
          drawSelection (drawable author subjectId topicId other) count
            percentages counts generator := fun counts =>
              drawSelection_eq_of_perm count percentages counts generator
                (perm.filter _) (nodup_drawable ids')
      simp only [sourceSelection, scopeSelection, drawn]
  | manual given =>
      have perm : (withIds (listedIds given) bank).Perm
          (withIds (listedIds given) other) :=
        List.Perm.filterMap _ same
      simp only [sourceSelection, listedSelection,
        pickListed_eq_of_perm perm (nodup_withIds ids)]

/-! ## Repeating a request -/

/-- A request that repeats another one with the seed of its sheet, as a preview
or not. -/
structure Repeats (now : Instant) (first second : GenerationRequest) :
    Prop where
  title : second.title = first.title
  source : second.source = first.source
  layout : second.layout = first.layout
  seed : second.seed = some (seedOf first now)

/-- The content of the sheet that a selection makes. -/
def sheetOf (request : GenerationRequest) (seed : Nat) (now : Instant)
    (selected : Except (Halt GenerationError) (Selection × Random.Generator)) :
    Except (Halt GenerationError) TestSheet :=
  if 0 < request.layout.variantCount ∧
      request.layout.variantCount ≤ maxVariants then
    selected.map fun drawn => (previewOf request seed drawn.1 (arrange
        request.layout (drawn.1.questions.map snapshot) drawn.2).1 now).content
  else .error (.refused .variantCount)

/-- Unless the store fails it, generating gives what is made of the selection
from the bank. -/
theorem content_generate {request : GenerationRequest} {world : World}
    (ids : (world.store.questions.map (·.id)).Nodup)
    (works : ∀ fault, (generate author request context world).1 ≠
      .error (.refused (.storage fault))) :
    (generate author request context world).1.map TestSheet.content =
      sheetOf request (seedOf request context.now) context.now
        (sourceSelection context.settings author world.store.questions
          (.ofSeed (UInt64.ofNat (seedOf request context.now)))
          request.source) := by
  have generates := (@generate_ends context world.store author request _
      (selectFor_ends ids) world rfl).1
  generalize (generate author request context world).1 =
    result at generates works ⊢
  unfold sheetOf
  cases generates with
  | unlettered outside =>
      rw [if_neg outside]
      rfl
  | unselected lettered failed =>
      rcases failed with ⟨fault, failed⟩ | failed
      · exact absurd (congrArg _ (Except.error.inj failed)) (works fault)
      · rw [if_pos lettered, ← failed]
        rfl
  | @unstored _ _ _ fault => exact absurd rfl (works fault)
  | generated lettered chosen content =>
      rcases chosen with ⟨fault, unread⟩ | chosen
      · cases unread
      · rw [if_pos lettered, ← chosen]
        exact congrArg Except.ok content

theorem titleOf_some {title : String} {questionCount : Nat} {now : Instant}
    (shown : Text.isBlankText title = false) :
    titleOf (some title) questionCount now = Text.trim title := by
  simp [titleOf, Option.filter, shown]

theorem eq_error_of_map {ε α β : Type} {change : α → β} {result : Except ε α}
    {halt : ε} (failed : result.map change = .error halt) :
    result = .error halt := by
  cases result with
  | ok value => cases failed
  | error other =>
      cases failed
      rfl

theorem exists_of_map {ε α β : Type} {change : α → β} {result : Except ε α}
    {changed : β} (ended : result.map change = .ok changed) :
    ∃ value, result = .ok value ∧ change value = changed := by
  cases result with
  | ok value => exact ⟨value, rfl, Except.ok.inj ended⟩
  | error halt => cases ended

end ExamHall.Exam
