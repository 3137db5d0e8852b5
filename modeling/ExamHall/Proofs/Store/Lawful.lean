import ExamHall.Proofs.Store.Rows
import ExamHall.Proofs.Text.Numeral
import ExamHall.Store.Answers
import ExamHall.Store.Assignments
import ExamHall.Store.Basic
import ExamHall.Store.Tests
import Mathlib.Data.List.Nodup
import Mathlib.Data.List.Perm.Subperm

/-!
# What the tables enforce

Each table has a key, refers only to rows that are there, and keeps the checks
and the uniqueness of its own.  These are properties of the rows alone: a store
that has them is lawful, whoever has filled it.

The store tries one number more than there are ids in use, and different numbers
make different ids.  So one of the numbers it tries makes an id that is not in
use.
-/

namespace ExamHall

/-! ## New ids are new -/

theorem idOf_injective (word : String) : Function.Injective (idOf word) := by
  intro left right same
  exact Text.ofNat_injective ((String.append_right_inj _).mp same)

theorem hasNul_append (front back : String) :
    Column.hasNul (front ++ back) =
      (Column.hasNul front || Column.hasNul back) := by
  simp [Column.hasNul, List.any_append]

theorem hasNul_eq_false {text : String} :
    Column.hasNul text = false ↔ ∀ c ∈ text.toList, c ≠ '\x00' := by
  have zero : ∀ c : Char, c.toNat = 0 ↔ c = '\x00' := fun c => by
    rw [← Char.toNat_inj]
    rfl
  simp [Column.hasNul, zero]

theorem hasNul_ofNat (number : Nat) :
    Column.hasNul (Text.ofNat number) = false := by
  apply hasNul_eq_false.mpr
  intro c membership
  obtain ⟨digit, rfl⟩ := Text.mem_toList_ofNat membership
  exact Text.digitChar_ne_nul digit

/-- An id of something with a plain name is plain. -/
theorem hasNul_idOf {word : String} (plain : Column.hasNul word = false)
    (number : Nat) : Column.hasNul (idOf word number) = false := by
  have dash : Column.hasNul "-" = false := by decide +kernel
  rw [idOf, hasNul_append, hasNul_append, plain, dash, hasNul_ofNat]
  rfl

/-- One of the numbers that are tried makes an id that is not in use. -/
theorem exists_unused (word : String) (used : List String) (last : Nat) :
    ∃ number ∈ (List.range (used.length + 1)).map (last + 1 + ·),
      idOf word number ∉ used := by
  by_contra full
  push Not at full
  have ids : (((List.range (used.length + 1)).map (last + 1 + ·)).map
        (idOf word)).Nodup := by
    apply List.Nodup.map (idOf_injective word)
    apply List.Nodup.map (fun left right same => Nat.add_left_cancel same)
    exact List.nodup_range
  have inside : ((List.range (used.length + 1)).map (last + 1 + ·)).map
      (idOf word) ⊆ used := by
    intro id membership
    obtain ⟨number, tried, rfl⟩ := List.mem_map.mp membership
    exact full number tried
  have few := (ids.subperm inside).length_le
  simp only [List.length_map, List.length_range] at few
  omega

theorem idOf_freshNumber_not_mem (word : String) (used : List String)
    (last : Nat) : idOf word (freshNumber word used last) ∉ used := by
  obtain ⟨number, tried, unused⟩ := exists_unused word used last
  unfold freshNumber
  cases found : List.find?
      (fun number => !used.contains (word ++ "-" ++ Text.ofNat number))
      ((List.range (used.length + 1)).map (last + 1 + ·)) with
  | none =>
      have taken := List.find?_eq_none.mp found number tried
      simp only [Bool.not_eq_true', Bool.not_eq_false, List.contains_iff_mem]
        at taken
      exact absurd taken unused
  | some first =>
      have free := List.find?_some found
      rw [Bool.not_eq_true'] at free
      intro taken
      rw [idOf, Option.getD_some] at taken
      exact absurd (List.contains_iff_mem.mpr taken) (free ▸ Bool.false_ne_true)

/-! ## Columns of ids -/

/-- A text that a column of ids keeps as it is, if it keeps it at all. -/
structure IsKey (text : String) : Prop where
  plain : Column.hasNul text = false
  kept : ∀ stored, Column.id text = .ok stored → stored = text

/-- A text that fits into a column of ids. -/
structure FitsId (text : String) : Prop where
  plain : Column.hasNul text = false
  short : text.length ≤ Column.idWidth

theorem FitsId.id_eq_ok {text : String} (fits : FitsId text) :
    Column.id text = .ok text :=
  if_pos fits.short

theorem FitsId.isKey {text : String} (fits : FitsId text) : IsKey text :=
  ⟨fits.plain, fun stored kept => by
      rw [fits.id_eq_ok] at kept; exact (Except.ok.inj kept).symm⟩

/-- What is cut off a text are spaces at its end. -/
theorem bounded_eq_ok {width : Nat} {text stored : String}
    (kept : Column.bounded width text = .ok stored) :
    stored.length ≤ width ∧
    (stored = text ∨ ∃ spaces, text.toList = stored.toList ++ spaces ∧
      spaces ≠ [] ∧ ∀ c ∈ spaces, c = ' ') := by
  unfold Column.bounded at kept
  split at kept
  · next short =>
      cases kept
      exact ⟨short, .inl rfl⟩
  · next long =>
      split at kept
      · next blank =>
          cases kept
          refine ⟨?_, .inr ⟨text.toList.drop width, ?_, ?_, ?_⟩⟩
          · rw [String.length_ofList, List.length_take]
            exact Nat.min_le_left width _
          · simp
          · intro empty
            have := congrArg List.length empty
            simp only [List.length_drop, String.length_toList, List.length_nil]
              at this
            omega
          · intro c inside
            simpa using List.all_eq_true.mp blank c inside
      · cases kept

theorem hasNul_of_bounded {width : Nat} {text stored : String}
    (kept : Column.bounded width text = .ok stored)
    (plain : Column.hasNul text = false) : Column.hasNul stored = false := by
  rcases (bounded_eq_ok kept).2 with rfl | ⟨spaces, cut, -, -⟩
  · exact plain
  · unfold Column.hasNul at plain ⊢
    rw [cut, List.any_append] at plain
    exact (Bool.or_eq_false_iff.mp plain).1

theorem fitsId_of_id_eq_ok {text stored : String}
    (kept : Column.id text = .ok stored) (plain : Column.hasNul text = false) :
    FitsId stored :=
  ⟨hasNul_of_bounded kept plain, (bounded_eq_ok kept).1⟩

/-- Issued ids end in a digit, so nothing can be cut off them. -/
theorem isKey_idOf {word : String} (plain : Column.hasNul word = false)
    (number : Nat) : IsKey (idOf word number) := by
  refine ⟨hasNul_idOf plain number, fun stored kept => ?_⟩
  rcases (bounded_eq_ok kept).2 with same | ⟨spaces, cut, nonempty, blank⟩
  · exact same
  · obtain ⟨front, numeral⟩ := Text.numeral_eq_append number
    have ending : (idOf word number).toList =
        (word.toList ++ ['-'] ++ front) ++ [Text.digitChar number] := by
      simp [idOf, Text.ofNat, numeral, String.toList_append]
    have last :
        (idOf word number).toList.getLast? = some (Text.digitChar number) := by
      rw [ending, List.getLast?_concat]
    rw [cut, List.getLast?_append_of_ne_nil _ nonempty] at last
    have space := blank _ (List.mem_of_getLast? last)
    exact absurd space (Text.digitChar_ne_space number)

/-! ## Lawful tables -/

/-- The rows of a question bank. -/
structure LawfulBank (questions : List (Question (Stored Payload))) : Prop where
  ids : (questions.map (·.id)).Nodup
  keys : ∀ question ∈ questions, FitsId question.id
  points : ∀ question ∈ questions, Decimal.zero ≤ question.points

/-- The rows of generated tests and their variants. -/
structure LawfulTests (tests : List GeneratedTest)
    (variants : List (Variant (Stored (List VariantQuestion)))) : Prop where
  ids : (tests.map (·.id)).Nodup
  keys : ∀ test ∈ tests, IsKey test.id
  variantIds : (variants.map (·.id)).Nodup
  variantKeys : ∀ variant ∈ variants, IsKey variant.id
  variantTests : ∀ variant ∈ variants, variant.testId ∈ tests.map (·.id)
  places : variants.Pairwise fun left right => Store.clashes left right = false

/-- The rows of assignments and rosters. -/
structure LawfulAssignments (tests : List GeneratedTest)
    (assignments : List Assignment) (roster : List RosterEntry) : Prop where
  ids : (assignments.map (·.id)).Nodup
  keys : ∀ assignment ∈ assignments, IsKey assignment.id
  tests : ∀ assignment ∈ assignments, assignment.testId ∈ tests.map (·.id)
  duration : ∀ assignment ∈ assignments, 0 < assignment.durationMinutes
  maxAttempts : ∀ assignment ∈ assignments, 0 < assignment.maxAttempts
  students : ∀ entry ∈ roster, FitsId entry.studentId
  enrolled : ∀ entry ∈ roster, entry.assignmentId ∈ assignments.map (·.id)

/-- The rows of attempts and their answers. -/
structure LawfulSittings (assignments : List Assignment)
    (variants : List (Variant (Stored (List VariantQuestion))))
    (attempts : List Attempt) (answers : List (SavedAnswer (Stored Answer))) :
    Prop where
  ids : (attempts.map (·.id)).Nodup
  keys : ∀ attempt ∈ attempts, IsKey attempt.id
  assignments : ∀ attempt ∈ attempts,
    attempt.assignmentId ∈ assignments.map (·.id)
  variants : ∀ attempt ∈ attempts, attempt.variantId ∈ variants.map (·.id)
  apart : attempts.Pairwise fun left right => Store.conflicts left right = false
  answerIds : (answers.map (·.id)).Nodup
  answerKeys : ∀ answer ∈ answers, Column.hasNul answer.id = false
  answered : ∀ answer ∈ answers, answer.attemptId ∈ attempts.map (·.id)
  answersApart : answers.Pairwise fun left right =>
    Store.isAnswerTo left.attemptId left.questionId right = false

/-- A store whose rows its tables admit. -/
structure Store.Lawful (store : Store) : Prop where
  bank : LawfulBank store.questions
  tests : LawfulTests store.tests store.variants
  assignments : LawfulAssignments store.tests store.assignments store.roster
  sittings :
    LawfulSittings store.assignments store.variants store.attempts store.answers

/-- The questions of a variant that can be sat and graded: each of them once,
and an amount of points for each. -/
structure IsPaper (questions : List VariantQuestion) : Prop where
  ids : (questions.map (·.questionId)).Nodup
  keys : ∀ question ∈ questions, FitsId question.questionId
  points : ∀ question ∈ questions, question.points.IsAmount

end ExamHall
