import ExamHall.Proofs.Attempt.Frame

/-!
# Grading looks at one attempt only

What an attempt is graded with is its variant and its own rows.  Whatever else
the tables hold and whenever it is graded, it gets the same scores, and its rows
get the same points.  Only the ids of the rows that grading adds and the times
that it writes may differ.
-/

namespace ExamHall

open Store

/-! ## Rows that look alike -/

/-- A row but for its id. -/
def SavedAnswer.withoutId {π : Type} (row : SavedAnswer π) : SavedAnswer π :=
  { row with id := "" }

/-- A row but for the time of its grading and, unless it is one of those that
are known, for its id and the time at which it has been saved. -/
def SavedAnswer.withoutTimes {π : Type} (known : List String)
    (row : SavedAnswer π) : SavedAnswer π :=
  if row.id ∈ known then { row with gradedAt := none }
  else { row with id := "", savedAt := default, gradedAt := none }

/-- A view of rows in which two gradings look the same.  It shows nothing of the
ids of the rows that they add, and nothing of the times at which they have been
done. -/
structure HidesGrading (known : List String) (now later : Instant)
    (view : SavedAnswer (Stored Answer) → SavedAnswer (Stored Answer)) :
    Prop where
  questionId : ∀ row, (view row).questionId = row.questionId
  value : ∀ row, (view row).value = row.value
  added : ∀ {id id' : String} (attemptId questionId : String)
    (maxPoints : Decimal), id ∉ known → id' ∉ known →
    view (unscored id' attemptId questionId maxPoints later) =
      view (unscored id attemptId questionId maxPoints now)
  graded : ∀ {row other} (earned most : Decimal) (outcome : GradeOutcome)
    (points : Decimal), view other = view row →
    view (gradedAnswer earned most ⟨outcome, points, later⟩ other) =
      view (gradedAnswer earned most ⟨outcome, points, now⟩ row)

namespace HidesGrading

variable {known : List String} {now later : Instant}
  {view : SavedAnswer (Stored Answer) → SavedAnswer (Stored Answer)}

theorem symm (hides : HidesGrading known now later view) :
    HidesGrading known later now view where
  questionId := hides.questionId
  value := hides.value
  added attemptId questionId maxPoints new new' :=
    (hides.added attemptId questionId maxPoints new' new).symm
  graded earned most outcome points same :=
    (hides.graded earned most outcome points same.symm).symm

/-- Gradings at one time differ in ids only. -/
theorem withoutId (known : List String) (now : Instant) :
    HidesGrading known now now SavedAnswer.withoutId where
  questionId _ := rfl
  value _ := rfl
  added _ _ _ _ _ := rfl
  graded _ _ _ _ same := congrArg (gradedAnswer _ _ _) same

theorem withoutTimes (known : List String) (now later : Instant) :
    HidesGrading known now later (SavedAnswer.withoutTimes known) where
  questionId row := by
    unfold SavedAnswer.withoutTimes
    split <;> rfl
  value row := by
    unfold SavedAnswer.withoutTimes
    split <;> rfl
  added attemptId questionId maxPoints new new' :=
    (if_neg new').trans (if_neg new).symm
  graded {row other} earned most outcome points same := by
    have graded : ∀ (row : SavedAnswer (Stored Answer)) (score : AnswerScore),
        (gradedAnswer earned most score row).withoutTimes known =
          { gradedAnswer earned most score (row.withoutTimes known) with
              gradedAt := none } := by
      intro row score
      by_cases old : row.id ∈ known
      · rw [show row.withoutTimes known = _ from if_pos old]
        exact if_pos old
      · rw [show row.withoutTimes known = _ from if_neg old]
        exact if_neg old
    rw [graded, graded, same]
    rfl

end HidesGrading

/-- Two stores have the same variants and the same rows of an attempt, and sort
texts alike. -/
structure Store.AgreesOn (attemptId : String) (first second : Store) :
    Prop where
  variants : second.variants = first.variants
  rows : rowsOf attemptId second.answers = rowsOf attemptId first.answers
  collation : second.collation = first.collation

/-- Two tables hold rows of an attempt that look the same. -/
def RowsLookAlike
    (view : SavedAnswer (Stored Answer) → SavedAnswer (Stored Answer))
    (attemptId : String)
    (first second : List (SavedAnswer (Stored Answer))) : Prop :=
  ∀ row, row ∈ (rowsOf attemptId first).map view ↔
    row ∈ (rowsOf attemptId second).map view

/-- Two tables hold the same rows of an attempt, but for their ids. -/
def RowsAlike (attemptId : String)
    (first second : List (SavedAnswer (Stored Answer))) : Prop :=
  ∀ row, row ∈ (rowsOf attemptId first).map SavedAnswer.withoutId ↔
    row ∈ (rowsOf attemptId second).map SavedAnswer.withoutId

variable {view : SavedAnswer (Stored Answer) → SavedAnswer (Stored Answer)}
  {now later : Instant} {known : List String} {first second : Store}
  {attempt : Attempt} {questions : List VariantQuestion}
  {added added' : List (SavedAnswer (Stored Answer))}

namespace RowsLookAlike

variable {attemptId : String} {rows others : List (SavedAnswer (Stored Answer))}

/-- A row of an attempt has a counterpart that looks the same. -/
theorem exists_counterpart (alike : RowsLookAlike view attemptId rows others)
    {row : SavedAnswer (Stored Answer)} (inside : row ∈ rowsOf attemptId rows) :
    ∃ other ∈ rowsOf attemptId others, view other = view row :=
  List.mem_map.mp ((alike _).mp (List.mem_map_of_mem inside))

theorem symm (alike : RowsLookAlike view attemptId rows others) :
    RowsLookAlike view attemptId others rows :=
  fun row => (alike row).symm

theorem of_counterparts
    (there : ∀ row ∈ rowsOf attemptId rows, ∃ other ∈ rowsOf attemptId others,
      view other = view row)
    (back : ∀ row ∈ rowsOf attemptId others, ∃ other ∈ rowsOf attemptId rows,
      view other = view row) : RowsLookAlike view attemptId rows others := by
  intro row
  simp only [List.mem_map]
  constructor
  · rintro ⟨original, inside, rfl⟩
    exact there original inside
  · rintro ⟨original, inside, rfl⟩
    exact back original inside

/-- Rows for different questions that look alike are the same rows in another
order. -/
theorem perm (alike : RowsLookAlike view attemptId rows others)
    (keyed : ∀ row, (view row).questionId = row.questionId)
    (distinct : ((rowsOf attemptId rows).map (·.questionId)).Nodup)
    (distinct' : ((rowsOf attemptId others).map (·.questionId)).Nodup) :
    ((rowsOf attemptId rows).map view).Perm
      ((rowsOf attemptId others).map view) := by
  have nodup : ∀ rows : List (SavedAnswer (Stored Answer)),
      (rows.map (·.questionId)).Nodup → (rows.map view).Nodup := by
    intro rows distinct
    apply List.Nodup.of_map (·.questionId)
    simpa [Function.comp_def, keyed] using distinct
  exact (List.perm_ext_iff_of_nodup (nodup _ distinct) (nodup _ distinct')).mpr
    alike

end RowsLookAlike

/-! ## Filling a sheet -/

/-- The ids of the rows that are added have not been used. -/
theorem Fills.id_not_mem (fills : Fills now first attempt questions added)
    {row : SavedAnswer (Stored Answer)} (inside : row ∈ added)
    (attemptId : String) :
    row.id ∉ (rowsOf attemptId first.answers).map (·.id) := by
  intro used
  obtain ⟨old, listed, same⟩ := List.mem_map.mp used
  have apart := List.nodup_append.mp (List.map_append ▸ fills.ids)
  exact apart.2.2 _ (List.mem_map_of_mem (mem_rowsOf.mp listed).1) _
    (List.mem_map_of_mem inside) same

/-- A row that is there or is added for a question has its counterpart in the
other store. -/
theorem Fills.exists_counterpart
    (hides : HidesGrading ((rowsOf attempt.id first.answers).map (·.id)) now
      later view) (paper : IsPaper questions)
    (agrees : rowsOf attempt.id second.answers =
      rowsOf attempt.id first.answers)
    (fills : Fills now first attempt questions added)
    (fills' : Fills later second attempt questions added')
    {row : SavedAnswer (Stored Answer)}
    (inside : row ∈ rowsOf attempt.id (first.answers ++ added)) :
    ∃ other ∈ rowsOf attempt.id (second.answers ++ added'),
      view other = view row := by
  obtain ⟨listed, same⟩ := mem_rowsOf.mp inside
  rcases List.mem_append.mp listed with old | new
  · have kept : row ∈ rowsOf attempt.id second.answers :=
      agrees ▸ mem_rowsOf.mpr ⟨old, same⟩
    exact ⟨row,
      mem_rowsOf.mpr ⟨List.mem_append_left _ (mem_rowsOf.mp kept).1, same⟩, rfl⟩
  · obtain ⟨⟨question, asked, isFor⟩, made⟩ := fills.rows row new
    have named : row.questionId = question.questionId :=
      Except.ok.inj (isFor.questionId.symm.trans
          (paper.keys question asked).id_eq_ok)
    obtain ⟨other, present, sameAttempt, sameQuestion⟩ :=
      fills'.complete question asked
    have namesake : other.questionId = question.questionId := by
      rcases sameQuestion with same | kept
      · exact same
      · exact Except.ok.inj
          (kept.symm.trans (paper.keys question asked).id_eq_ok)
    rcases List.mem_append.mp present with old | new'
    · -- A question that has a row in one of the stores has it in the other
      -- one, and none is added.
      have shared : other ∈ rowsOf attempt.id first.answers :=
        agrees ▸ mem_rowsOf.mpr ⟨old, sameAttempt⟩
      have apart := (List.pairwise_append.mp fills.apart).2.2 other
        (mem_rowsOf.mp shared).1 row new
      simp [isAnswerTo, sameAttempt, same, namesake, named] at apart
    · obtain ⟨⟨question', asked', isFor'⟩, made'⟩ := fills'.rows other new'
      have named' : other.questionId = question'.questionId :=
        Except.ok.inj (isFor'.questionId.symm.trans
            (paper.keys question' asked').id_eq_ok)
      obtain rfl :=
        eq_of_key paper.ids asked' asked (named'.symm.trans namesake)
      have points : other.maxPoints = row.maxPoints :=
        Except.ok.inj (isFor'.maxPoints.symm.trans isFor.maxPoints)
      refine ⟨other,
        mem_rowsOf.mpr ⟨List.mem_append_right _ new', sameAttempt⟩, ?_⟩
      rw [made, made', named, namesake, points]
      exact hides.added _ _ _ (fills.id_not_mem new _)
        (agrees ▸ fills'.id_not_mem new' _)

theorem Fills.rowsLookAlike
    (hides : HidesGrading ((rowsOf attempt.id first.answers).map (·.id)) now
      later view) (paper : IsPaper questions)
    (agrees : rowsOf attempt.id second.answers =
      rowsOf attempt.id first.answers)
    (fills : Fills now first attempt questions added)
    (fills' : Fills later second attempt questions added') :
    RowsLookAlike view attempt.id
      (first.answers ++ added) (second.answers ++ added') :=
  .of_counterparts (fun _ => fills.exists_counterpart hides paper agrees fills')
    fun _ =>
      fills'.exists_counterpart (agrees ▸ hides.symm) paper agrees.symm fills

/-! ## Adding up a sheet -/

/-- What the value of a row reads as is up to that value. -/
theorem read?_value_congr {row other : SavedAnswer (Stored Answer)}
    (same : other.value = row.value) :
    other.read?.map (·.value) = row.read?.map (·.value) := by
  cases read : row.read? with
  | none =>
      rw [Option.map_none, Option.map_eq_none_iff,
        ← Option.not_isSome_iff_eq_none]
      intro readable
      have readable := isSome_read?_congr same.symm readable
      rw [read] at readable
      cases readable
  | some answer =>
      obtain ⟨value, rfl⟩ := exists_value_of_read? read
      rw [read?_congr same read]
      rfl

/-- What a row adds to the totals is up to its question and its value. -/
theorem tally?_congr {row other : SavedAnswer (Stored Answer)}
    (question : other.questionId = row.questionId)
    (value : other.value = row.value) :
    tally? questions other = tally? questions row := by
  have read := read?_value_congr value
  unfold tally?
  cases here : row.read? with
  | none => simp_all
  | some answer =>
      obtain ⟨content, rfl⟩ := exists_value_of_read? here
      rw [read?_congr value here]
      simp only [Option.bind_some, answerTally?, question]

theorem filterMap_tally?_view (hides : HidesGrading known now later view)
    (rows : List (SavedAnswer (Stored Answer))) :
    (rows.map view).filterMap (tally? questions) =
      rows.filterMap (tally? questions) := by
  rw [List.filterMap_map]
  exact List.filterMap_congr fun row _ =>
    tally?_congr (hides.questionId row) (hides.value row)

/-- Rows that look alike are the same sheet. -/
theorem sheet_eq_of_rowsLookAlike
    (alike : RowsLookAlike view attempt.id first.answers second.answers)
    (sorts : second.collation = first.collation)
    (keyed : ∀ row, (view row).questionId = row.questionId)
    (distinct : ((rowsOf attempt.id first.answers).map (·.questionId)).Nodup)
    (distinct' :
      ((rowsOf attempt.id second.answers).map (·.questionId)).Nodup) :
    (first.sheet attempt.id).map view = (second.sheet attempt.id).map view := by
  have sorted : ∀ store : Store, (store.sheet attempt.id).map view =
      store.collation.sortBy SavedAnswer.questionId
        ((rowsOf attempt.id store.answers).map view) :=
    fun store => List.map_mergeSort fun left _ right _ => by rw [keyed, keyed]
  rw [sorted, sorted, sorts]
  refine Collation.sortBy_eq_of_perm (alike.perm keyed distinct distinct')
    fun _ inside _ inside' same =>
      List.inj_on_of_nodup_map ?_ inside inside' same
  simpa [Function.comp_def, keyed] using distinct

/-! ## Grading rows -/

/-- What grading makes of a row is up to how the row looks. -/
theorem RowGraded.view_eq (hides : HidesGrading known now later view)
    {row other graded graded' : SavedAnswer (Stored Answer)}
    (here : RowGraded questions now row graded)
    (there : RowGraded questions later other graded')
    (same : view other = view row) : view graded' = view graded := by
  have sameQuestion : other.questionId = row.questionId := by
    rw [← hides.questionId, same, hides.questionId]
  cases here with
  | passedOver foreign =>
      cases there with
      | passedOver => exact same
      | scored found => simp [sameQuestion, foreign] at found
  | @scored question answer outcome earned most found read gradedTo keptEarned
      keptMost =>
      cases there with
      | passedOver foreign => simp [sameQuestion, found] at foreign
      | @scored question' answer' outcome' earned' most' found' read' gradedTo'
          keptEarned' keptMost' =>
          rw [sameQuestion, found] at found'
          obtain rfl := Option.some.inj found'
          have sameValue : answer'.value = answer.value := by
            have both : other.value = row.value := by
              rw [← hides.value, same, hides.value]
            have both := read?_value_congr both
            rw [read, read'] at both
            exact Option.some.inj both
          rw [sameValue, gradedTo] at gradedTo'
          obtain rfl := Option.some.inj gradedTo'
          obtain rfl := Except.ok.inj (keptEarned.symm.trans keptEarned')
          obtain rfl := Except.ok.inj (keptMost.symm.trans keptMost')
          exact hides.graded _ _ _ _ same

/-- The rows of an attempt have been graded, and no others. -/
abbrev RowsGraded (questions : List VariantQuestion) (now : Instant)
    (attemptId : String)
    (rows graded : List (SavedAnswer (Stored Answer))) : Prop :=
  List.Forall₂ (fun row after => if row.attemptId = attemptId then
    RowGraded questions now row after else after = row) rows graded

variable {rows rows' graded graded' : List (SavedAnswer (Stored Answer))}

theorem RowsGraded.exists_counterpart
    (hides : HidesGrading known now later view)
    (here : RowsGraded questions now attempt.id rows graded)
    (there : RowsGraded questions later attempt.id rows' graded')
    (alike : RowsLookAlike view attempt.id rows rows')
    {after : SavedAnswer (Stored Answer)}
    (inside : after ∈ rowsOf attempt.id graded) :
    ∃ other ∈ rowsOf attempt.id graded', view other = view after := by
  have pairs := filter_forall₂ here fun _ _ change => change.kept.attemptId
  have pairs' := filter_forall₂ there fun _ _ change => change.kept.attemptId
  obtain ⟨row, listed, change⟩ := exists_mem_left_of_forall₂ pairs inside
  obtain ⟨other, present, same⟩ := alike.exists_counterpart listed
  obtain ⟨after', inside', change'⟩ :=
    exists_mem_right_of_forall₂ pairs' present
  exact ⟨after', inside', change.view_eq hides change' same⟩

/-- Rows that are graded still look alike. -/
theorem RowsGraded.rowsLookAlike (hides : HidesGrading known now later view)
    (alike : RowsLookAlike view attempt.id rows rows')
    (here : RowsGraded questions now attempt.id rows graded)
    (there : RowsGraded questions later attempt.id rows' graded') :
    RowsLookAlike view attempt.id graded graded' :=
  .of_counterparts (fun _ => here.exists_counterpart hides there alike)
    fun _ => there.exists_counterpart hides.symm here alike.symm

/-! ## Grading attempts -/

/-- Grading writes its time into the attempt. -/
theorem GradesInto.times {after : Store} {graded : Attempt}
    (into : GradesInto now first attempt graded after) :
    graded.gradedAt = some (Column.time now) ∧
    graded.updatedAt = Column.time now := by
  obtain ⟨_, _, _, _, _, _, _, -, -, rfl, -⟩ := into
  exact ⟨rfl, rfl⟩

/-- An attempt is graded alike in stores that have the same rows of it, whenever
that happens. -/
theorem GradesInto.looksAlike {firstAfter secondAfter : Store}
    {graded graded' : Attempt}
    (hides : HidesGrading ((rowsOf attempt.id first.answers).map (·.id)) now
      later view) (into : GradesInto now first attempt graded firstAfter)
    (into' : GradesInto later second attempt graded' secondAfter)
    (agrees : rowsOf attempt.id second.answers =
      rowsOf attempt.id first.answers)
    (sorts : second.collation = first.collation)
    (shows : ∀ questions, HasVariant first attempt.variantId questions →
      HasVariant second attempt.variantId questions)
    (ids : (second.variants.map (·.id)).Nodup)
    (papers : ∀ questions, HasVariant first attempt.variantId questions →
      IsPaper questions) :
    graded' =
      { graded with
        gradedAt := graded'.gradedAt, updatedAt := graded'.updatedAt } ∧
    RowsLookAlike view attempt.id firstAfter.answers secondAfter.answers := by
  obtain ⟨added, answers, totals, rawScore, maxScore, percentage, issued,
    grades, scores, rfl, rfl⟩ := into
  obtain ⟨added', answers', totals', rawScore', maxScore', percentage', issued',
    grades', scores', rfl,
    rfl⟩ := into'
  obtain ⟨questions, shown, fills, pairs, summed⟩ := grades.rows
  obtain ⟨questions', shown', fills', pairs', summed'⟩ := grades'.rows
  obtain rfl := (shows questions shown).unique ids shown'
  have paper := papers questions shown
  have alike := fills.rowsLookAlike hides paper agrees fills'
  have sheets := @sheet_eq_of_rowsLookAlike _
    { first with answers := first.answers ++ added }
    { second with answers := second.answers ++ added' } attempt alike sorts
      hides.questionId
    (nodup_rowsOf fills.apart) (nodup_rowsOf fills'.apart)
  rw [← filterMap_tally?_view hides] at summed summed'
  obtain rfl := Option.some.inj (summed.symm.trans (sheets ▸ summed'))
  obtain rfl := Except.ok.inj (scores.rawScore.symm.trans scores'.rawScore)
  obtain rfl := Except.ok.inj (scores.maxScore.symm.trans scores'.maxScore)
  obtain rfl := Except.ok.inj (scores.percentage.symm.trans scores'.percentage)
  exact ⟨rfl, RowsGraded.rowsLookAlike hides alike pairs pairs'⟩

/-- An attempt is graded alike in stores that agree on it. -/
theorem GradesInto.alike {firstAfter secondAfter : Store}
    {graded graded' : Attempt}
    (into : GradesInto now first attempt graded firstAfter)
    (into' : GradesInto now second attempt graded' secondAfter)
    (agrees : first.AgreesOn attempt.id second)
    (ids : (first.variants.map (·.id)).Nodup)
    (papers : ∀ questions, HasVariant first attempt.variantId questions →
      IsPaper questions) :
    graded' = graded ∧
    RowsAlike attempt.id firstAfter.answers secondAfter.answers := by
  have shows : ∀ questions, HasVariant first attempt.variantId questions →
      HasVariant second attempt.variantId questions := by
    rintro questions ⟨row, dealt, kept⟩
    exact ⟨row, agrees.variants ▸ dealt, kept⟩
  obtain ⟨same, alike⟩ := into.looksAlike (.withoutId _ now) into' agrees.rows
    agrees.collation shows (agrees.variants ▸ ids) papers
  obtain ⟨gradedAt, updatedAt⟩ := into.times
  rw [into'.times.1, into'.times.2, ← gradedAt, ← updatedAt] at same
  exact ⟨same, alike⟩

end ExamHall
