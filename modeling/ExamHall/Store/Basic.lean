import ExamHall.Store.Column
import ExamHall.Text.Numeral

/-!
# The store

The store keeps seven tables. A statement reads or changes it, or fails and
leaves it as it was. Ids of new rows are issued by the store: the name of what
is stored with a running number that is not in use. A table may be out of reach,
and then every statement that needs it fails. Lists that are asked for by a text
come in an order of texts that belongs to the store.
-/

namespace ExamHall

/-- The tables of the store. -/
inductive Table where
  | questions
  | tests
  | variants
  | assignments
  | roster
  | attempts
  | answers
deriving DecidableEq, Repr

namespace Table

/-- The tables in the order of their references. -/
def all : List Table :=
  [.questions, .tests, .variants, .assignments, .roster, .attempts, .answers]

/-- The name of a table. -/
def word : Table → String
  | .questions => "questions"
  | .tests => "generated_tests"
  | .variants => "generated_test_variants"
  | .assignments => "assignments"
  | .roster => "assignment_students"
  | .attempts => "attempts"
  | .answers => "attempt_answers"

/-- The table with a name. -/
def ofWord? (word : String) : Option Table :=
  all.find? fun table => table.word == word

end Table

/-- How many ids have been issued, by what they name. -/
structure Issued where
  tests : Nat
  variants : Nat
  assignments : Nat
  attempts : Nat
  answers : Nat
deriving DecidableEq, Repr

/-- An order in which texts are sorted. Any two texts can be compared, and no
two of them are in the same place. -/
structure Collation where
  le : String → String → Bool
  trans : ∀ {first second third : String}, le first
    second = true → le second third = true → le first third = true
  total : ∀ left right : String, le left right = true ∨ le right left = true
  antisymm : ∀ {left right : String}, le left right = true →
    le right left = true → left = right

namespace Collation

/-- The order of texts by the codes of their characters. -/
def byCode : Collation where
  le left right := decide (left ≤ right)
  trans early late :=
    decide_eq_true (String.le_trans (of_decide_eq_true early)
        (of_decide_eq_true late))
  total left right :=
    (String.le_total left right).imp decide_eq_true decide_eq_true
  antisymm below above :=
    String.le_antisymm (of_decide_eq_true below) (of_decide_eq_true above)

/-- Items in the order of their keys. -/
def sortBy {α : Type} (collation : Collation) (key : α → String)
    (items : List α) : List α :=
  items.mergeSort fun left right => collation.le (key left) (key right)

/-- Texts in order. -/
def sort (collation : Collation) (texts : List String) : List String :=
  collation.sortBy (fun text => text) texts

end Collation

/-- Everything that is kept, and the order in which texts are sorted. -/
structure Store where
  questions : List (Question (Stored Payload))
  tests : List GeneratedTest
  variants : List (Variant (Stored (List VariantQuestion)))
  assignments : List Assignment
  roster : List RosterEntry
  attempts : List Attempt
  answers : List (SavedAnswer (Stored Answer))
  issued : Issued
  outages : List Table
  collation : Collation

/-- A store without rows that sorts texts by code. -/
def Store.empty : Store :=
  ⟨[], [], [], [], [], [], [], ⟨0, 0, 0, 0, 0⟩, [], .byCode⟩

/-- A step on the store that is done as a whole or not at all. -/
abbrev Statement := StateT Store (Except StorageFault)

namespace Statement

/-- A statement that fails. -/
def fail {α : Type} (fault : StorageFault) : Statement α :=
  fun _ => .error fault

/-- A statement with a given result. -/
def ofExcept {α : Type} (result : Except StorageFault α) : Statement α :=
  fun store => result.map fun value => (value, store)

/-- Fails unless a condition holds. -/
def ensure (holds : Bool) (fault : StorageFault) :
    Statement Unit := fun store =>
  if holds then .ok ((), store) else .error fault

/-- Fails if one of the tables is out of reach. -/
def reach (tables : List Table) : Statement Unit := fun store =>
  if tables.any store.outages.contains then .error .unavailable
  else .ok ((), store)

/-- Fails if one of the texts has a character with the code zero. -/
def plain (texts : List String) : Statement Unit :=
  ensure (!texts.any Column.hasNul) .nulInText

/-- The rows that a reader of the store finds, where each has to be readable. -/
def readAll {ρ α : Type} (read? : ρ → Option α) (rows : Store → List ρ) :
    Statement (List α) :=
  fun store =>
    match (rows store).mapM read? with
    | some values => .ok (values, store)
    | none => .error .unreadableDocument

end Statement

/-- The first number after `last` whose id is not in use. -/
def freshNumber (word : String) (used : List String) (last : Nat) : Nat :=
  (((List.range (used.length + 1)).map (last + 1 + ·)).find? fun number =>
    !used.contains (word ++ "-" ++ Text.ofNat number)).getD (last + 1)

/-- The id with a number. -/
def idOf (word : String) (number : Nat) : String :=
  word ++ "-" ++ Text.ofNat number

/-- The rows of a list with one of them replaced where a condition holds. -/
def updateWhere {ρ : Type} (holds : ρ → Bool) (change : ρ → ρ) (rows : List ρ) :
    List ρ :=
  rows.map fun row => if holds row then change row else row

end ExamHall
