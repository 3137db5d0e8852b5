import ExamHall.Generation.AnswerKey
import ExamHall.Proofs.Generation.Layout
import ExamHall.Proofs.Lists
import ExamHall.Proofs.Text.Pieces
import Mathlib.Logic.Function.Defs

/-!
# Answer keys

A key is read back, and tells where the correct options of a question are shown.
-/

/-!
## Reading answer keys

A label is a numeral of bijective base 26, whose digits are the letters with the
values from 1 to 26.  Reading a label inverts writing it, and labels have no
commas in them, so a key tells which options are correct.
-/

namespace ExamHall

/-- The value of a letter as a digit. -/
def letterValue? (c : Char) : Option Nat :=
  if 'A' ≤ c ∧ c ≤ 'Z' then some (c.toNat - 64) else none

/-- Reads the digits that follow a number. -/
def readLabelFrom? : Nat → List Char → Option Nat
  | number, [] => some number
  | number, c :: rest =>
    (letterValue? c).bind fun digit => readLabelFrom? (26 * number + digit) rest

/-- The number of a label. -/
def readLabel? (label : List Char) : Option Nat :=
  readLabelFrom? 0 label

/-- The numbers of the labels between the commas of a key. -/
def readKey? (key : String) : Option (List Nat) :=
  if key = "" then some [] else (Text.pieces ',' key.toList).mapM readLabel?

/-! ### Labels -/

theorem letter_mod (digit : Nat) : letter (digit % 26) = letter digit := by
  simp [letter]

theorem letterValue?_letter (digit : Nat) :
    letterValue? (letter digit) = some (digit % 26 + 1) := by
  have letters : ∀ digit < 26,
    letterValue? (letter digit) = some (digit + 1) := by decide
  rw [← letter_mod]
  exact letters _ (Nat.mod_lt digit (by decide))

/-- Letters are none of the other characters. -/
theorem letter_ne {c : Char} (other : ∀ digit < 26, letter digit ≠ c)
    (digit : Nat) : letter digit ≠ c := by
  rw [← letter_mod]
  exact other _ (Nat.mod_lt digit (by decide))

theorem letter_ne_comma (digit : Nat) : letter digit ≠ ',' :=
  letter_ne (by decide) digit

theorem readLabelFrom?_append (number : Nat) (front back : List Char) :
    readLabelFrom? number (front ++ back) =
      (readLabelFrom? number front).bind fun read =>
        readLabelFrom? read back := by
  induction front generalizing number with
  | nil => rfl
  | cons c rest ih =>
      simp only [List.cons_append, readLabelFrom?]
      cases letterValue? c with
      | none => rfl
      | some digit => exact ih _

/-- The last digit comes off at the end, and what is left is the numeral of a
smaller number. -/
theorem readLabel?_labelChars {fuel number : Nat} (enough : number ≤ fuel) :
    readLabel? (labelChars fuel number) = some number := by
  induction fuel generalizing number with
  | zero =>
      obtain rfl := Nat.le_zero.mp enough
      rfl
  | succ fuel ih =>
      cases number with
      | zero => rfl
      | succ number =>
          have read : readLabelFrom? 0 (labelChars fuel (number / 26)) =
              some (number / 26) :=
            ih (by omega)
          rw [readLabel?, labelChars, readLabelFrom?_append, read,
            Option.bind_some, readLabelFrom?,
            letterValue?_letter, Option.bind_some, readLabelFrom?]
          congr 1
          omega

theorem readLabel?_optionLabel (index : Nat) :
    readLabel? (optionLabel index).toList = some (index + 1) := by
  rw [optionLabel, String.toList_ofList]
  exact readLabel?_labelChars (Nat.le_refl _)

theorem optionLabel_injective : Function.Injective optionLabel := by
  intro left right same
  have read := readLabel?_optionLabel left
  rw [same, readLabel?_optionLabel] at read
  exact (Nat.succ.inj (Option.some.inj read)).symm

theorem mem_labelChars {fuel number : Nat} {c : Char}
    (inside : c ∈ labelChars fuel number) : ∃ digit, c = letter digit := by
  induction fuel generalizing number with
  | zero => cases inside
  | succ fuel ih =>
      cases number with
      | zero => cases inside
      | succ number =>
          rw [labelChars, List.mem_append, List.mem_singleton] at inside
          rcases inside with front | last
          · exact ih front
          · exact ⟨number, last⟩

theorem comma_not_mem_optionLabel (index : Nat) :
    ',' ∉ (optionLabel index).toList := by
  rw [optionLabel, String.toList_ofList]
  intro inside
  obtain ⟨digit, same⟩ := mem_labelChars inside
  exact letter_ne_comma digit same.symm

/-! ### Keys -/

theorem optionLabel_ne_empty (index : Nat) : optionLabel index ≠ "" := by
  intro empty
  have read := readLabel?_optionLabel index
  rw [empty] at read
  cases read

theorem intercalate_ne_empty {indexes : List Nat} (nonempty : indexes ≠ []) :
    String.intercalate "," (indexes.map optionLabel) ≠ "" := by
  intro empty
  have chars := congrArg String.toList empty
  rw [String.toList_intercalate] at chars
  cases indexes with
  | nil => exact nonempty rfl
  | cons first rest =>
      apply optionLabel_ne_empty first
      apply String.toList_injective
      cases rest with
      | nil => simpa using chars
      | cons second rest =>
          simp only [List.map_cons, List.intercalate_cons_cons] at chars
          exact (List.append_eq_nil_iff.mp
              (List.append_eq_nil_iff.mp chars).1).1

/-- A list of labels is read back as the numbers of the indexes. -/
theorem readKey?_intercalate (indexes : List Nat) :
    readKey? (String.intercalate "," (indexes.map optionLabel)) =
      some (indexes.map (· + 1)) := by
  by_cases nonempty : indexes = []
  · subst nonempty
    rfl
  · have labels : indexes.map (String.toList ∘ optionLabel) ≠ [] := by
      simpa using nonempty
    have free : ∀ label ∈ indexes.map (String.toList ∘ optionLabel),
        ',' ∉ label := by
      simpa using fun index _ => comma_not_mem_optionLabel index
    rw [readKey?, if_neg (intercalate_ne_empty nonempty),
      String.toList_intercalate, List.map_map]
    change (Text.pieces ',' (List.intercalate [','] _)).mapM readLabel? = _
    rw [Text.pieces_intercalate labels free, mapM_eq_some_iff_forall₂,
      List.forall₂_map_left_iff, List.forall₂_map_right_iff, List.forall₂_same]
    exact fun index _ => readLabel?_optionLabel index

end ExamHall

/-!
## Printed answer keys

In every variant the key of a choice question lists the places of its correct
options as they are shown there.  A variant reorders the questions and options
only where this is asked for.
-/

namespace ExamHall

open ExamHall.Random

/-- An option at a place is marked correct. -/
def IsCorrectAt (options : List ChoiceOption) (place : Nat) : Prop :=
  ∃ option, options[place]? = some option ∧ option.isCorrect = true

theorem isCorrectAt_cons_zero {option : ChoiceOption}
    {rest : List ChoiceOption} :
    IsCorrectAt (option :: rest) 0 ↔ option.isCorrect = true := by
  simp [IsCorrectAt]

theorem isCorrectAt_cons_succ {option : ChoiceOption} {rest : List ChoiceOption}
    {place : Nat} :
    IsCorrectAt (option :: rest) (place + 1) ↔ IsCorrectAt rest place := by
  simp [IsCorrectAt]

/-- The places that the labels of a key stand for are those of the correct
options, in their order. -/
structure IsKeyOf (options : List ChoiceOption) (key : String) : Prop where
  places : ∃ places : List Nat, readKey? key = some (places.map (· + 1)) ∧
    places.Pairwise (· < ·) ∧
    ∀ place, place ∈ places ↔ IsCorrectAt options place
  empty : key = "" ↔ ∀ option ∈ options, option.isCorrect = false

/-- A question of a variant is a question of the base, with its options in some
order, the list of them if they are shuffled, and the key for that order. -/
structure VariantQuestion.PrintedAs (layout : Layout)
    (question shown : VariantQuestion) : Prop where
  questionId : shown.questionId = question.questionId
  version : shown.version = question.version
  prompt : shown.prompt = question.prompt
  difficulty : shown.difficulty = question.difficulty
  points : shown.points = question.points
  choices : ∀ options, question.payload.options? = some options → ∃ order,
    order.Perm options ∧ (layout.shuffleOptions = false → order = options) ∧
    shown.payload = question.payload.withOptions order ∧
    shown.optionOrder = (if layout.shuffleOptions then some (order.map (·.id))
      else question.optionOrder) ∧ IsKeyOf order shown.answerKey
  others : question.payload.options? = none →
    shown.payload = question.payload ∧ shown.optionOrder = question.optionOrder
  truth : ∀ key, question.payload = .trueFalse key →
    shown.answerKey = key.normal

/-! ### Keys -/

theorem mem_correctIndexes {first index : Nat} {options : List ChoiceOption} :
    index ∈ correctIndexes first options ↔
      ∃ place, index = first + place ∧ IsCorrectAt options place := by
  induction options generalizing first with
  | nil => simp [correctIndexes, IsCorrectAt]
  | cons option rest ih =>
      have split : (∃ place, index = first
            + place ∧ IsCorrectAt (option :: rest) place) ↔
          (index = first ∧ option.isCorrect = true) ∨
          ∃ place, index = first + 1 + place ∧ IsCorrectAt rest place := by
        constructor
        · rintro ⟨_ | place, same, marked⟩
          · exact .inl ⟨same, isCorrectAt_cons_zero.mp marked⟩
          · exact .inr ⟨place, by omega, isCorrectAt_cons_succ.mp marked⟩
        · rintro (⟨same, marked⟩ | ⟨place, same, marked⟩)
          · exact ⟨0, same, isCorrectAt_cons_zero.mpr marked⟩
          · exact ⟨place + 1, by omega, isCorrectAt_cons_succ.mpr marked⟩
      rw [split, ← ih, correctIndexes]
      cases marked : option.isCorrect with
      | true => simp
      | false => simp

theorem pairwise_correctIndexes (first : Nat) (options : List ChoiceOption) :
    (correctIndexes first options).Pairwise (· < ·) := by
  induction options generalizing first with
  | nil => exact .nil
  | cons option rest ih =>
      unfold correctIndexes
      split
      · apply List.Pairwise.cons _ (ih (first + 1))
        intro index inside
        obtain ⟨place, rfl, -⟩ := mem_correctIndexes.mp inside
        omega
      · exact ih (first + 1)

theorem mem_correctIndexes_zero {index : Nat} {options : List ChoiceOption} :
    index ∈ correctIndexes 0 options ↔ IsCorrectAt options index := by
  rw [mem_correctIndexes]
  simp

/-- Where 64 bits hold the number of options, no label of a key is missing. -/
theorem mapM_optionLabel?_correctIndexes {options : List ChoiceOption}
    (fits : options.length < twoTo 64) :
    (correctIndexes 0 options).mapM optionLabel? =
      some ((correctIndexes 0 options).map optionLabel) := by
  rw [mapM_eq_some_iff_forall₂, List.forall₂_map_right_iff, List.forall₂_same]
  intro index inside
  obtain ⟨option, there, -⟩ := mem_correctIndexes_zero.mp inside
  obtain ⟨before, -⟩ := List.getElem?_eq_some_iff.mp there
  exact if_pos (Nat.lt_of_le_of_lt before fits)

theorem correctIndexes_eq_nil_iff {first : Nat} {options : List ChoiceOption} :
    correctIndexes first options = [] ↔ ∀ option ∈ options,
      option.isCorrect = false := by
  induction options generalizing first with
  | nil => simp [correctIndexes]
  | cons option rest ih =>
      rw [correctIndexes, List.forall_mem_cons]
      cases option.isCorrect with
      | true => simp
      | false => simp [ih]

/-- The key of a choice question lists the labels of the correct options;
without one it is the empty list. -/
theorem answerKey_of_options {payload : Payload} {options : List ChoiceOption}
    (choice : payload.options? = some options) :
    answerKey payload =
      String.intercalate "," ((correctIndexes 0 options).map optionLabel) := by
  cases payload with
  | singleChoice given | multiChoice given =>
      obtain rfl := Option.some.inj choice
      simp only [answerKey, answerKey?]
      cases correctIndexes 0 given with
      | nil => rfl
      | cons index rest => rfl
  | _ => cases choice

theorem isKeyOf_answerKey {payload : Payload} {options : List ChoiceOption}
    (choice : payload.options? = some options) :
    IsKeyOf options (answerKey payload) := by
  rw [answerKey_of_options choice]
  refine ⟨⟨correctIndexes 0 options, readKey?_intercalate _,
    pairwise_correctIndexes 0 options, fun place => mem_correctIndexes_zero⟩,
    ?_⟩
  rw [← @correctIndexes_eq_nil_iff 0 options]
  constructor
  · intro empty
    by_contra nonempty
    exact intercalate_ne_empty nonempty empty
  · intro none
    rw [none]
    rfl

/-- Two keys are the same only if they stand for the same places. -/
theorem isCorrectAt_iff_of_answerKey_eq {payload other : Payload}
    {options options' : List ChoiceOption}
    (choice : payload.options? = some options)
    (choice' : other.options? = some options')
    (same : answerKey payload = answerKey other) (place : Nat) :
    IsCorrectAt options place ↔ IsCorrectAt options' place := by
  obtain ⟨places, read, -, inside⟩ := (isKeyOf_answerKey choice).places
  obtain ⟨places', read', -, inside'⟩ := (isKeyOf_answerKey choice').places
  rw [same, read'] at read
  have equal : places' = places :=
    List.map_injective_iff.mpr (fun _ _ => Nat.succ.inj) (Option.some.inj read)
  rw [← inside, ← inside', equal]

/-! ### Variants -/

theorem options?_withOptions {payload : Payload} {options : List ChoiceOption}
    (choice : payload.options? = some options) (order : List ChoiceOption) :
    (payload.withOptions order).options? = some order := by
  cases payload with
  | singleChoice | multiChoice => rfl
  | _ => cases choice

theorem withOptions_self {payload : Payload} {options : List ChoiceOption}
    (choice : payload.options? = some options) :
    payload.withOptions options = payload := by
  cases payload with
  | singleChoice | multiChoice =>
      obtain rfl := Option.some.inj choice
      rfl
  | _ => rfl

theorem layOutQuestion_of_closed {layout : Layout} {question : VariantQuestion}
    (closed : question.payload.options? = none) (generator : Generator) :
    (layOutQuestion layout question generator).1 =
      { question with answerKey := answerKey question.payload } := by
  have kept : shuffleOptions question generator = (question, generator) := by
    simp only [shuffleOptions, closed]
  simp only [layOutQuestion, kept, ite_self]

theorem layOutQuestion_of_choice {layout : Layout} {question : VariantQuestion}
    {options : List ChoiceOption}
    (choice : question.payload.options? = some options)
    (generator : Generator) :
    ∃ order, order.Perm options ∧
      (layout.shuffleOptions = false → order = options) ∧
      (layOutQuestion layout question generator).1 =
        { question with
          payload := question.payload.withOptions order
          optionOrder :=
            if layout.shuffleOptions then some (order.map (·.id))
            else question.optionOrder
          answerKey := answerKey (question.payload.withOptions order) } := by
  cases shuffled : layout.shuffleOptions with
  | false =>
      refine ⟨options, .refl options, fun _ => rfl, ?_⟩
      simp [layOutQuestion, shuffled, withOptions_self choice]
  | true =>
      refine ⟨(shuffle options generator).1, shuffle_perm options generator,
        nofun, ?_⟩
      simp [layOutQuestion, shuffled, shuffleOptions, choice]

theorem layOutQuestion_printedAs (layout : Layout) (question : VariantQuestion)
    (generator : Generator) :
    question.PrintedAs layout (layOutQuestion layout question generator).1 := by
  cases choice : question.payload.options? with
  | none =>
      rw [layOutQuestion_of_closed choice]
      refine ⟨rfl, rfl, rfl, rfl, rfl, ?_, fun _ => ⟨rfl, rfl⟩, ?_⟩
      · intro options found
        cases choice.symm.trans found
      · intro key truth
        rw [truth]
        rfl
  | some options =>
      obtain ⟨order, reordered, kept, shown⟩ :=
        @layOutQuestion_of_choice layout _ _ choice generator
      rw [shown]
      refine ⟨rfl, rfl, rfl, rfl, rfl, ?_, ?_, ?_⟩
      · intro given found
        obtain rfl := Option.some.inj (choice.symm.trans found)
        exact ⟨order, reordered, kept, rfl, rfl,
          isKeyOf_answerKey (options?_withOptions choice order)⟩
      · intro closed
        cases choice.symm.trans closed
      · intro key truth
        rw [truth] at choice
        cases choice

theorem layOutQuestions_printedAs (layout : Layout)
    (questions : List VariantQuestion) (generator : Generator) :
    List.Forall₂ (VariantQuestion.PrintedAs layout) questions
      (layOutQuestions layout questions generator).1 := by
  induction questions generalizing generator with
  | nil => exact .nil
  | cons question rest ih =>
      exact .cons (layOutQuestion_printedAs layout question generator) (ih _)

theorem layOut_printedAs (layout : Layout) (base : List VariantQuestion)
    (generator : Generator) :
    ∃ ordered, ordered.Perm base ∧
      (layout.shuffleQuestions = false → ordered = base) ∧
      List.Forall₂ (VariantQuestion.PrintedAs layout) ordered
        (layOut layout base generator).1 := by
  cases shuffled : layout.shuffleQuestions with
  | false =>
      refine ⟨base, .refl base, fun _ => rfl, ?_⟩
      simpa [layOut, shuffled]
        using layOutQuestions_printedAs layout base generator
  | true =>
      refine ⟨(shuffle base generator).1, shuffle_perm base generator,
        Bool.noConfusion, ?_⟩
      simpa [layOut, shuffled]
        using layOutQuestions_printedAs layout (shuffle base generator).1 _

/-- Every variant prints the questions of its base with the keys of what it
shows.  The labels of different places are different, and so are the keys of
choices with different correct places, whatever the number of options. -/
theorem arrange_prints_keys :
    (∀ layout base generator, ∀ variant ∈ (arrange layout base generator).1,
      ∃ ordered, ordered.Perm base ∧
        (layout.shuffleQuestions = false → ordered = base) ∧
        List.Forall₂ (VariantQuestion.PrintedAs layout) ordered
          variant.questions) ∧ Function.Injective optionLabel ∧
    ∀ payload other options options', Payload.options? payload = some options →
      Payload.options? other = some options' →
      answerKey payload = answerKey other →
      ∀ place, IsCorrectAt options place ↔ IsCorrectAt options' place := by
  refine ⟨?_, optionLabel_injective,
    fun _ _ _ _ => isCorrectAt_iff_of_answerKey_eq⟩
  intro layout base generator variant membership
  obtain ⟨start, shown⟩ := mem_arrangeWith membership
  rw [shown]
  exact layOut_printedAs layout base start

/-- A question that comes with a list of its options. -/
def listedQuestion : VariantQuestion :=
  { questionId := "q", version := 1, prompt := "Pick", difficulty := .easy,
    points := .one
    payload := .singleChoice [⟨"a", "A", true⟩, ⟨"b", "B", false⟩]
    optionOrder := some ["b", "a"], answerKey := "" }

/-- Where no options are shuffled, a question keeps the list of options that it
came with. -/
theorem arrange_keeps_given_option_order :
    ¬∀ layout base generator, ∀ variant ∈ (arrange layout base generator).1,
        ∀ shown ∈ variant.questions, shown.optionOrder.isSome = true →
          layout.shuffleOptions = true ∧
          shown.payload.options?.isSome = true := by
  intro claimed
  have listed := claimed ⟨1, false, false⟩ [listedQuestion] (.ofSeed 0)
  revert listed
  decide +kernel

end ExamHall
