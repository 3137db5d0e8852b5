import ExamHall.Proofs.Exam.Action
import ExamHall.Proofs.Generation.Apportion
import ExamHall.Proofs.Generation.Selection

/-!
# What a scope gives

An author who describes a test by a scope draws from the questions that the
scope admits.  Either there are enough of each difficulty, or the author is told
of which there are not.
-/

namespace ExamHall

open Store

/-- A question that an author may draw in a scope: an own or a public one,
inside the filters, of a closed type, with a payload that can be used. -/
structure Question.IsDrawable (author : Caller)
    (subjectId topicId : Option String) (question : Question Payload) :
    Prop where
  visible : question.ownerId = author.id ∨ question.isPublic = true
  subject : ∀ wanted, subjectId = some wanted → question.subjectId = some wanted
  topic : ∀ wanted, topicId = some wanted → question.topicId = some wanted
  closed : question.type ∈ [QuestionType.singleChoice, .multiChoice, .trueFalse]
  usable : question.payload.isUsable = true

variable {author : Caller} {subjectId topicId : Option String}

theorem admitsValue_iff {filter value : Option String} :
    admitsValue filter value = true ↔ ∀ wanted, filter = some wanted →
      value = some wanted := by
  cases filter with
  | none => simp [admitsValue]
  | some wanted => simp [admitsValue]

theorem isClosed_iff {type : QuestionType} :
    type.isClosed = true ↔
      type ∈ [QuestionType.singleChoice, .multiChoice, .trueFalse] := by
  cases type <;> decide

theorem isDrawable_iff {question : Question Payload} :
    question.IsDrawable author subjectId topicId ↔
      (isCandidate author.id subjectId topicId question &&
        question.payload.isUsable) = true := by
  simp only [isCandidate, isVisibleTo, Bool.and_eq_true, Bool.or_eq_true,
    beq_iff_eq, admitsValue_iff, isClosed_iff]
  constructor
  · rintro ⟨visible, subject, topic, closed, usable⟩
    exact ⟨⟨⟨⟨visible, closed⟩, subject⟩, topic⟩, usable⟩
  · rintro ⟨⟨⟨⟨visible, closed⟩, subject⟩, topic⟩, usable⟩
    exact ⟨visible, subject, topic, closed, usable⟩

instance : DecidablePred (Question.IsDrawable author subjectId topicId) :=
  fun _ => decidable_of_iff _ isDrawable_iff.symm

/-- The questions of a bank that an author may draw in a scope. -/
def drawable (author : Caller) (subjectId topicId : Option String)
    (bank : List (Question (Stored Payload))) : List (Question Payload) :=
  (bank.filterMap Question.read?).filter fun question =>
    decide (question.IsDrawable author subjectId topicId)

theorem nodup_map_id_filterMap {bank : List (Question (Stored Payload))}
    (ids : (bank.map (·.id)).Nodup) :
    ((bank.filterMap Question.read?).map (·.id)).Nodup := by
  refine ids.sublist ?_
  induction bank with
  | nil => exact List.Sublist.refl _
  | cons row rest ih =>
      obtain ⟨-, ids⟩ := List.nodup_cons.mp ids
      rw [List.filterMap_cons]
      cases read : row.read? with
      | none => exact (ih ids).trans (List.sublist_cons_self _ _)
      | some question =>
          rw [List.map_cons, List.map_cons, (IsSelection.read?_fields read).1]
          exact (ih ids).cons_cons _

theorem nodup_drawable {bank : List (Question (Stored Payload))}
    (ids : (bank.map (·.id)).Nodup) :
    ((drawable author subjectId topicId bank).map (·.id)).Nodup :=
  (nodup_map_id_filterMap ids).sublist (List.filter_sublist.map _)

theorem filter_drawable {bank : List (Question (Stored Payload))} :
    (drawable author subjectId topicId bank).filter (·.payload.isUsable) =
      drawable author subjectId topicId bank :=
  List.filter_eq_self.mpr fun _ inside =>
    (of_decide_eq_true (List.mem_filter.mp inside).2).usable

/-- It does not matter whether a question is read before or after it is found to
be a candidate. -/
theorem drawable_eq (bank : List (Question (Stored Payload))) :
    drawable author subjectId topicId bank =
      ((bank.filter (isCandidate author.id subjectId topicId)).filterMap
        Question.read?).filter (·.payload.isUsable) := by
  rw [drawable, List.filterMap_filter, List.filter_filterMap,
    List.filter_filterMap]
  congr 1
  funext row
  cases read : row.read? with
  | none => simp
  | some question =>
      have kept : isCandidate author.id subjectId topicId row =
          isCandidate author.id subjectId topicId question := by
        obtain ⟨payload, -, rfl⟩ := Option.map_eq_some_iff.mp read
        rfl
      cases candidate : isCandidate author.id subjectId topicId question <;>
        simp [kept, candidate, isDrawable_iff, Option.filter]

/-- Of the candidates that are found, the usable ones are those that can be
drawn. -/
theorem usable_candidates_perm {store after : Store}
    {found : List (Question Payload)}
    (ended : candidates author.id subjectId topicId store =
      .ok (found, after)) :
    (found.filter (·.payload.isUsable)).Perm
      (drawable author subjectId topicId store.questions) := by
  simp only [candidates, bind_eq_ok, Statement.plain_eq_ok,
    Statement.reach_eq_ok, Statement.readAll_eq_ok] at ended
  obtain ⟨_, _, ⟨-, rfl⟩, _, _, ⟨-, rfl⟩, read, rfl⟩ := ended
  obtain rfl := mapM_eq_some_filterMap read
  rw [drawable_eq]
  exact ((Collation.sortBy_perm _ _ _).filterMap Question.read?).filter _

/-- What reading the candidates of a scope needs: plain texts, the table of
questions, and rows that can be read. -/
structure Store.OffersScope (store : Store) (author : Caller)
    (subjectId topicId : Option String) : Prop where
  texts : ∀ text ∈ author.id :: subjectId.toList ++ topicId.toList,
    Column.hasNul text = false
  reach : store.CanReach [.questions]
  readable : ∀ row ∈ store.questions,
    isCandidate author.id subjectId topicId row = true → row.read?.isSome

theorem Store.OffersScope.exists_candidates {store : Store}
    (offers : store.OffersScope author subjectId topicId) :
    ∃ found,
      candidates author.id subjectId topicId store = .ok (found, store) := by
  simp only [candidates, bind_eq_ok, Statement.plain_eq_ok,
    Statement.reach_eq_ok, Statement.readAll_eq_ok]
  obtain ⟨found, read⟩ :=
    @exists_mapM_eq_some _ _ Question.read? (store.collation.sortBy Question.id
      (store.questions.filter (isCandidate author.id subjectId topicId)))
      fun row inside => by
        obtain ⟨listed, candidate⟩ :=
          List.mem_filter.mp (Collation.mem_sortBy.mp inside)
        exact offers.readable row listed candidate
  exact ⟨found, (), store, ⟨offers.texts, rfl⟩, (), store, ⟨offers.reach, rfl⟩,
    read, rfl⟩

/-! ## Enough questions, or which are missing -/

namespace Exam

open ExamHall.Action Apportion

/-- The difficulties of which there are fewer questions than asked for, with
both numbers. -/
def lacking (questions : List (Question Payload)) (counts : PerDifficulty Nat) :
    List Shortage :=
  [Difficulty.easy, .medium, .hard].filterMap fun difficulty =>
    if countOf difficulty questions < counts.get difficulty then
      some ⟨difficulty, countOf difficulty questions, counts.get difficulty⟩
    else none

theorem shortages_eq_lacking (questions : List (Question Payload))
    (counts : PerDifficulty Nat) :
    shortages (poolSizes (pools questions)) counts =
      lacking questions counts := by
  unfold shortages lacking
  simp only [get_poolSizes, Difficulty.all]
  induction [Difficulty.easy, .medium, .hard] with
  | nil => rfl
  | cons difficulty rest ih =>
      rw [List.filterMap_cons, List.filter_cons]
      by_cases short : countOf difficulty questions < counts.get difficulty
      · simp only [short, decide_true, if_true, List.map_cons, ih]
      · simp only [short, decide_false, if_false, Bool.false_eq_true, ih]

theorem lacking_eq_nil {questions : List (Question Payload)}
    {counts : PerDifficulty Nat} :
    lacking questions counts = [] ↔ ∀ difficulty,
      counts.get difficulty ≤ countOf difficulty questions := by
  rw [lacking, List.filterMap_eq_nil_iff]
  constructor
  · intro none difficulty
    have listed : difficulty ∈ [Difficulty.easy, .medium, .hard] := by
      cases difficulty <;> decide
    have enough := none difficulty listed
    split at enough
    · cases enough
    · next bounded => exact Nat.not_lt.mp bounded
  · intro enough difficulty _
    exact if_neg (Nat.not_lt.mpr (enough difficulty))

/-- A draw from candidates depends on those that can be used, and not on their
order. -/
theorem drawSelection_eq_of_perm {candidates others : List (Question Payload)}
    (count : Nat) (percentages counts : PerDifficulty Nat)
    (generator : Random.Generator)
    (perm : (candidates.filter (·.payload.isUsable)).Perm
      (others.filter (·.payload.isUsable))) (ids : (others.map (·.id)).Nodup) :
    drawSelection candidates count percentages counts generator =
      drawSelection others count percentages counts generator := by
  have apart :=
    (perm.map (·.id)).nodup_iff.mpr (ids.sublist (List.filter_sublist.map _))
  unfold drawSelection
  dsimp only
  rw [poolSizes_eq_of_perm perm, select_eq_of_perm perm apart]

/-- What is selected from the questions that can be drawn. -/
def scopeSelection (most : Nat) (drawable : List (Question Payload))
    (count : Nat) (percentages : PerDifficulty Nat)
    (generator : Random.Generator) :
    Except (Halt GenerationError) (Selection × Random.Generator) :=
  if 0 < count ∧ count ≤ most then
    match splitFault? percentages with
    | some fault => .error (.refused (.split fault))
    | none =>
      match bucketCounts? count percentages with
      | none => .error .outOfRange
      | some counts =>
        (drawSelection drawable count percentages counts generator).mapError
          .refused
  else .error (.refused (.questionCount most))

/-- A scope gives what can be drawn in it, unless the candidates cannot be
read. -/
theorem selectFromScope_ends {context : Context} {store : Store} {count : Nat}
    {percentages : PerDifficulty Nat} {generator : Random.Generator}
    (ids : (store.questions.map (·.id)).Nodup) :
    Ends context (fun world => world.store = store)
      (selectFromScope author subjectId topicId count percentages generator)
      fun result world => world.store = store ∧
    ((¬store.OffersScope author subjectId topicId ∧
      ∃ fault, result = .error (.refused (.storage fault))) ∨
      result = scopeSelection context.settings.maxQuestions (drawable author
        subjectId topicId store.questions) count percentages generator) := by
  unfold selectFromScope scopeSelection
  apply Ends.reading
  dsimp only
  by_cases counted : 0 < count ∧ count ≤ context.settings.maxQuestions
  · have passed :
        (decide (0 < count) && decide (count ≤ context.settings.maxQuestions)) =
          true := by
      simpa using counted
    rw [if_pos counted, passed]
    change Ends context _
      (match splitFault? percentages with | some fault => _ | none => _) _
    cases splitFault? percentages with
    | some fault => exact Ends.refuse fun world same => ⟨same, .inr rfl⟩
    | none =>
        cases bucketCounts? count percentages with
        | none => exact fun world same => ⟨same, .inr rfl⟩
        | some counts =>
            change Ends context _
              (query (candidates author.id subjectId topicId) >>= _) _
            refine .bind
                (fun result world => world.store = store ∧ match result with
              | .ok found =>
                  candidates author.id subjectId topicId store =
                    .ok (found, store)
              | .error halt => ¬store.OffersScope author subjectId topicId ∧
                  ∃ fault, halt = .refused (.storage fault))
              (.readQuery (isRead_candidates _ _ _) ?_ ?_) (fun found => ?_) ?_
            · rintro world rfl found ended
              exact ⟨rfl, ended⟩
            · rintro world rfl fault failed
              refine ⟨rfl, fun offers => ?_, fault, rfl⟩
              obtain ⟨found, ended⟩ := offers.exists_candidates
              cases failed.symm.trans ended
            · rintro world ⟨same, ended⟩
              have usable := (usable_candidates_perm ended).trans
                (.of_eq filter_drawable.symm)
              dsimp only
              rw [drawSelection_eq_of_perm count percentages counts generator
                usable (nodup_drawable ids)]
              cases drawSelection (drawable author subjectId topicId
                    store.questions) count percentages counts generator with
              | error error => exact ⟨same, .inr rfl⟩
              | ok selection => exact ⟨same, .inr rfl⟩
            · rintro halt world ⟨same, unread, fault, rfl⟩
              exact ⟨same, .inl ⟨unread, fault, rfl⟩⟩
  · have failed :
        (decide (0 < count) && decide (count ≤ context.settings.maxQuestions)) =
          false := by
      simpa using counted
    rw [if_neg counted, failed]
    exact fun world same => ⟨same, .inr rfl⟩

end Exam

end ExamHall
