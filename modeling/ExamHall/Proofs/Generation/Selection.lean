import ExamHall.Exam.Generating
import ExamHall.Proofs.Decimal.Rounding
import ExamHall.Proofs.Generation.Apportion
import ExamHall.Proofs.Generation.Layout
import ExamHall.Proofs.Store.Lawful
import Mathlib.Data.List.Perm.Subperm

/-!
# From the bank to a paper

Whatever is drawn or listed, a selection takes questions of the bank and none of
them twice.  Frozen and laid out, it makes papers.

From pools that are large enough a draw takes as many questions of each
difficulty as it is asked for.  As it sorts the pools first, it does not depend
on the order in which they were filled.
-/

namespace ExamHall

open ExamHall.Random

/-- Questions that can be put into a test: different ones, as a bank keeps
them. -/
structure IsSelection (questions : List (Question Payload)) : Prop where
  ids : (questions.map (·.id)).Nodup
  keys : ∀ question ∈ questions, FitsId question.id
  points : ∀ question ∈ questions, Decimal.zero ≤ question.points

namespace IsSelection

theorem of_subperm {questions chosen : List (Question Payload)}
    (selection : IsSelection questions) (part : chosen.Subperm questions) :
    IsSelection chosen where
  ids := by
    obtain ⟨ordered, reordered, inside⟩ := part
    rw [← (reordered.map _).nodup_iff]
    exact selection.ids.sublist (inside.map _)
  keys question membership := selection.keys question (part.subset membership)
  points question membership :=
    selection.points question (part.subset membership)

theorem read?_fields {row : Question (Stored Payload)}
    {question : Question Payload} (read : row.read? = some question) :
    question.id = row.id ∧ question.points = row.points := by
  obtain ⟨payload, -, rfl⟩ := Option.map_eq_some_iff.mp read
  exact ⟨rfl, rfl⟩

/-- Rows of a bank that are read make a selection. -/
theorem of_rows {bank rows : List (Question (Stored Payload))}
    {questions : List (Question Payload)} (lawful : LawfulBank bank)
    (part : rows.Subperm bank)
    (read : rows.mapM Question.read? = some questions) :
    IsSelection questions := by
  have pairs := mapM_eq_some_iff_forall₂.mp read
  have ids : questions.map (·.id) = rows.map (·.id) :=
    map_eq_of_forall₂ pairs fun row question value => (read?_fields value).1
  have known : ∀ question ∈ questions, ∃ row ∈ bank, question.id = row.id ∧
      question.points = row.points := by
    intro question membership
    obtain ⟨row, inside, value⟩ := exists_mem_left_of_forall₂ pairs membership
    exact ⟨row, part.subset inside, read?_fields value⟩
  refine ⟨?_, fun question membership => ?_, fun question membership => ?_⟩
  · rw [ids]
    obtain ⟨ordered, reordered, inside⟩ := part
    rw [← (reordered.map _).nodup_iff]
    exact lawful.ids.sublist (inside.map _)
  · obtain ⟨row, inside, same, -⟩ := known question membership
    exact same ▸ lawful.keys row inside
  · obtain ⟨row, inside, -, same⟩ := known question membership
    exact same ▸ lawful.points row inside

end IsSelection

/-! ## Drawing -/

theorem drawFrom_subperm (pool : List (Question Payload)) (count : Nat)
    (generator : Generator) :
    (drawFrom pool count generator).1.Subperm pool := by
  have settled := (sampleTail_perm (byId pool) count generator).trans
    (List.mergeSort_perm pool _)
  exact (takeTail_sublist _ count).subperm.trans settled.subperm

theorem drawEach_subperm (questions : PerDifficulty (List (Question Payload)))
    (counts : PerDifficulty Nat)
    (difficulties : List Difficulty) (generator : Generator) :
    (drawEach questions counts difficulties generator).1.Subperm
      (difficulties.map questions.get).flatten := by
  induction difficulties generalizing generator with
  | nil => exact List.Subperm.refl _
  | cons difficulty rest ih =>
      rw [List.map_cons, List.flatten_cons]
      exact List.Subperm.append (drawFrom_subperm _ _ _) (ih _)

theorem get_pools (questions : List (Question Payload))
    (difficulty : Difficulty) :
    (pools questions).get difficulty = questions.filter fun question =>
      decide (question.difficulty = difficulty) :=
  PerDifficulty.get_of _ difficulty

/-- The pools share out the questions. -/
theorem pools_perm (questions : List (Question Payload)) :
    (Difficulty.all.map (pools questions).get).flatten.Perm questions := by
  simp only [Difficulty.all, List.map_cons, List.map_nil, List.flatten_cons,
    List.flatten_nil, List.append_nil, get_pools]
  induction questions with
  | nil => exact List.Perm.refl _
  | cons question rest ih =>
      cases kind : question.difficulty with
      | easy => simpa [List.filter_cons, kind] using ih
      | medium =>
          simp only [List.filter_cons, kind, reduceCtorEq, decide_false,
            decide_true, if_true, Bool.false_eq_true, if_false,
            List.cons_append]
          exact List.perm_middle.trans (ih.cons question)
      | hard =>
          simp only [List.filter_cons, kind, reduceCtorEq, decide_false,
            decide_true, if_true, Bool.false_eq_true, if_false]
          rw [← List.append_assoc] at ih ⊢
          exact List.perm_middle.trans (ih.cons question)

theorem select_subperm (questions : List (Question Payload))
    (counts : PerDifficulty Nat) (generator : Generator) :
    (select (pools questions) counts generator).1.Subperm questions :=
  (drawEach_subperm _ counts Difficulty.all generator).trans
    (pools_perm questions).subperm

theorem drawSelection_isSelection {candidates : List (Question Payload)}
    {count : Nat} {percentages counts : PerDifficulty Nat}
    {generator : Generator} {drawn : Exam.Selection × Generator}
    (selection : IsSelection candidates)
    (chosen : Exam.drawSelection candidates count percentages counts generator =
      .ok drawn) : IsSelection drawn.1.questions := by
  unfold Exam.drawSelection at chosen
  simp only at chosen
  split at chosen
  · cases chosen
    apply selection.of_subperm
    exact (select_subperm _ counts generator).trans List.filter_sublist.subperm
  · cases chosen

/-! ## Listing -/

theorem map_id_filterMap_sublist {ids : List String}
    {lookup : String → Option (Question Payload)}
    (named : ∀ id question, lookup id = some question → question.id = id) :
    ((ids.filterMap lookup).map (·.id)).Sublist ids := by
  induction ids with
  | nil => exact List.Sublist.refl _
  | cons id rest ih =>
      rw [List.filterMap_cons]
      cases found : lookup id with
      | none => exact ih.trans (List.sublist_cons_self id rest)
      | some question =>
          rw [List.map_cons, named id question found]
          exact ih.cons_cons id

theorem pickListed_isSelection {author : Caller} {ids : List String}
    {found questions : List (Question Payload)} (distinct : ids.Nodup)
    (selection : IsSelection found)
    (picked : Exam.pickListed author ids found = .ok questions) :
    IsSelection questions := by
  unfold Exam.pickListed at picked
  simp only at picked
  split at picked
  · cases picked
  split at picked
  · cases picked
  split at picked
  · cases picked
  cases picked
  have present : ∀ question ∈
      (ids.filterMap fun id => found.find? fun question =>
        question.id == id).filter (·.payload.isUsable), question ∈ found := by
    intro question membership
    obtain ⟨id, -, named⟩ :=
      List.mem_filterMap.mp (List.mem_filter.mp membership).1
    exact List.mem_of_find?_eq_some named
  refine ⟨?_,
    fun question inside => selection.keys question (present question inside),
    fun question inside => selection.points question (present question inside)⟩
  have listed : ((ids.filterMap fun id => found.find? fun question =>
        question.id == id).map (·.id)).Sublist ids :=
    map_id_filterMap_sublist fun id question named => by
      simpa using List.find?_some named
  exact (distinct.sublist listed).sublist (List.filter_sublist.map _)

/-! ## Freezing and laying out -/

theorem isPaper_snapshot {questions : List (Question Payload)}
    (selection : IsSelection questions) : IsPaper (questions.map snapshot) where
  ids := by
    rw [List.map_map]
    exact selection.ids
  keys question membership := by
    obtain ⟨original, inside, rfl⟩ := List.mem_map.mp membership
    exact selection.keys original inside
  points question membership := by
    obtain ⟨original, inside, rfl⟩ := List.mem_map.mp membership
    exact Decimal.isAmount_roundPoints
      (Decimal.nonneg_iff.mp (selection.points original inside))

/-- Each variant of an arrangement is a paper like its base. -/
theorem isPaper_arrange {layout : Layout} {base : List VariantQuestion}
    {generator : Generator} {variant : LabelledVariant} (paper : IsPaper base)
    (membership : variant ∈ (arrange layout base generator).1) :
    IsPaper variant.questions := by
  obtain ⟨ordered, reordered, pairs⟩ := arrange_shownAs membership
  have ids : variant.questions.map (·.questionId) =
      ordered.map (·.questionId) :=
    map_eq_of_forall₂ pairs fun _ _ shownAs => shownAs.questionId
  have known : ∀ shown ∈ variant.questions, ∃ question ∈ base,
      question.ShownAs shown := by
    intro shown inside
    obtain ⟨question, listed, shownAs⟩ :=
      exists_mem_left_of_forall₂ pairs inside
    exact ⟨question, reordered.mem_iff.mp listed, shownAs⟩
  refine ⟨?_, fun shown inside => ?_, fun shown inside => ?_⟩
  · rw [ids, (reordered.map _).nodup_iff]
    exact paper.ids
  · obtain ⟨question, listed, shownAs⟩ := known shown inside
    exact shownAs.questionId ▸ paper.keys question listed
  · obtain ⟨question, listed, shownAs⟩ := known shown inside
    exact shownAs.points ▸ paper.points question listed

/-! ## What is drawn -/

variable {questions others pool : List (Question Payload)}
  {counts : PerDifficulty Nat} {generator : Generator}

/-- How many of some questions have a difficulty. -/
def countOf (difficulty : Difficulty)
    (questions : List (Question Payload)) : Nat :=
  questions.countP fun question => decide (question.difficulty = difficulty)

/-- Each question has one of the difficulties. -/
theorem sum_countOf (questions : List (Question Payload)) :
    (PerDifficulty.of fun difficulty => countOf difficulty questions).sum =
      questions.length := by
  unfold countOf
  induction questions with
  | nil => rfl
  | cons question rest ih =>
      simp only [PerDifficulty.of, PerDifficulty.sum, List.countP_cons,
        List.length_cons, decide_eq_true_eq] at ih ⊢
      cases question.difficulty <;>
        simp only [if_true, reduceCtorEq, if_false] <;> omega

theorem countOf_eq_of_perm (perm : questions.Perm others)
    (difficulty : Difficulty) :
    countOf difficulty questions = countOf difficulty others :=
  perm.countP_eq _

/-! ### Pools -/

theorem get_poolSizes (questions : List (Question Payload))
    (difficulty : Difficulty) :
    (Exam.poolSizes (pools questions)).get difficulty =
      countOf difficulty questions := by
  rw [Exam.poolSizes, PerDifficulty.map, PerDifficulty.get_of, get_pools,
    ← List.countP_eq_length_filter, countOf]

theorem get_countsOf (questions : List (Question Payload))
    (difficulty : Difficulty) :
    (Exam.countsOf questions).get difficulty = countOf difficulty questions :=
  get_poolSizes questions difficulty

theorem sum_countsOf (questions : List (Question Payload)) :
    (Exam.countsOf questions).sum = questions.length := by
  rw [← sum_countOf]
  congr 1
  refine PerDifficulty.ext_get fun difficulty => ?_
  rw [PerDifficulty.get_of, get_countsOf]

theorem poolSizes_eq_of_perm (perm : questions.Perm others) :
    Exam.poolSizes (pools questions) = Exam.poolSizes (pools others) := by
  refine PerDifficulty.ext_get fun difficulty => ?_
  rw [get_poolSizes, get_poolSizes, countOf_eq_of_perm perm]

/-- A pool that is sorted by id does not show the order in which it was
filled. -/
theorem byId_eq_of_perm (perm : questions.Perm others)
    (ids : (questions.map (·.id)).Nodup) : byId questions = byId others :=
  mergeSort_text_eq_of_perm perm fun _ inside _ inside' same =>
    List.inj_on_of_nodup_map ids inside inside' same

/-! ### Draws -/

theorem length_drawFrom {count : Nat} (enough : count ≤ pool.length) :
    (drawFrom pool count generator).1.length = count := by
  have settled : (sampleTail (byId pool) count generator).1.length =
      pool.length :=
    ((sampleTail_perm (byId pool) count generator).trans
      (List.mergeSort_perm pool _)).length_eq
  change (takeTail (sampleTail (byId pool) count generator).1 count).length =
    count
  rw [takeTail, List.length_drop, settled]
  omega

theorem countOf_drawFrom {difficulty : Difficulty} {count : Nat}
    (enough : count ≤ countOf difficulty questions) (other : Difficulty)
    (generator : Generator) :
    countOf other
      (drawFrom ((pools questions).get difficulty) count generator).1 =
      if difficulty = other then count else 0 := by
  have kind : ∀ question ∈
      (drawFrom ((pools questions).get difficulty) count generator).1,
      question.difficulty = difficulty := by
    intro question drawn
    have pooled := (drawFrom_subperm _ count generator).subset drawn
    rw [get_pools] at pooled
    exact of_decide_eq_true (List.mem_filter.mp pooled).2
  have large : count ≤ ((pools questions).get difficulty).length := by
    rwa [get_pools, ← List.countP_eq_length_filter]
  split
  next same =>
    rw [countOf, List.countP_eq_length.mpr, length_drawFrom large]
    exact fun question drawn =>
      decide_eq_true ((kind question drawn).trans same)
  next apart =>
    refine List.countP_eq_zero.mpr fun question drawn same => apart ?_
    exact (kind question drawn).symm.trans (of_decide_eq_true same)

theorem countOf_drawEach
    (enough : ∀ difficulty,
      counts.get difficulty ≤ countOf difficulty questions)
    {difficulties : List Difficulty} (distinct : difficulties.Nodup)
    (other : Difficulty) (generator : Generator) :
    countOf other (drawEach (pools questions) counts difficulties generator).1 =
      if other ∈ difficulties then counts.get other else 0 := by
  induction difficulties generalizing generator with
  | nil => rfl
  | cons difficulty rest ih =>
      obtain ⟨fresh, distinct⟩ := List.nodup_cons.mp distinct
      simp only [drawEach]
      rw [countOf, List.countP_append]
      change countOf other _ + countOf other _ = _
      rw [countOf_drawFrom (enough difficulty), ih distinct]
      by_cases same : difficulty = other
      · subst same
        simp [fresh]
      · simp [same, Ne.symm same]

/-- Large enough pools give what is asked for of each difficulty. -/
theorem countOf_select
    (enough : ∀ difficulty,
      counts.get difficulty ≤ countOf difficulty questions)
    (difficulty : Difficulty) (generator : Generator) :
    countOf difficulty (select (pools questions) counts generator).1 =
      counts.get difficulty := by
  rw [select, countOf_drawEach enough (by decide), if_pos]
  cases difficulty <;> decide

theorem length_select
    (enough : ∀ difficulty,
      counts.get difficulty ≤ countOf difficulty questions) :
    (select (pools questions) counts generator).1.length = counts.sum := by
  rw [← sum_countOf]
  change countOf .easy _ + countOf .medium _ + countOf .hard _ = _
  rw [countOf_select enough, countOf_select enough, countOf_select enough]
  rfl

/-- Pools with the same questions give the same draw. -/
theorem select_eq_of_perm (perm : questions.Perm others)
    (ids : (questions.map (·.id)).Nodup) :
    select (pools questions) counts generator =
      select (pools others) counts generator := by
  have same : ∀ difficulty, byId ((pools questions).get difficulty) =
      byId ((pools others).get difficulty) := by
    intro difficulty
    rw [get_pools, get_pools]
    exact byId_eq_of_perm (perm.filter _)
      (ids.sublist (List.filter_sublist.map _))
  unfold select
  induction Difficulty.all generalizing generator with
  | nil => rfl
  | cons difficulty rest ih =>
      have drawn : drawFrom ((pools questions).get difficulty)
          (counts.get difficulty) generator =
          drawFrom ((pools others).get difficulty) (counts.get difficulty)
            generator := by
        rw [drawFrom, drawFrom, same]
      simp only [drawEach]
      rw [drawn, ih]

end ExamHall
