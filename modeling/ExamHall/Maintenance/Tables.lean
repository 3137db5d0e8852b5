import ExamHall.Maintenance.Bank
import ExamHall.Maintenance.Sittings

/-!
# Maintaining the store

The work of a maintainer on any table: to show it, to add a row, and to change
or remove the rows with an id.
-/

namespace ExamHall.Maintenance

/-- A table together with how it is maintained. -/
def viewOf : Table → (ρ : Type) × TableView ρ
  | .questions => ⟨_, questionView⟩
  | .tests => ⟨_, testView⟩
  | .variants => ⟨_, variantView⟩
  | .assignments => ⟨_, assignmentView⟩
  | .roster => ⟨_, rosterView⟩
  | .attempts => ⟨_, attemptView⟩
  | .answers => ⟨_, answerView⟩

/-- The columns that a record gives; of several with one name the last
counts. -/
def fieldsOf (members : List (String × Json)) : Json.Fields :=
  ⟨Json.lastMember? members⟩

/-- The rows of a table. -/
def rows (table : Table) (store : Store) : List Json :=
  (viewOf table).2.records store

/-- Adds a row to a table. -/
def insert (table : Table) (row : List (String × Json)) : Statement Unit :=
  (viewOf table).2.insert (fieldsOf row)

/-- Changes the rows of a table that have an id, and counts them. -/
def change (table : Table) (id : String) (row : List (String × Json)) :
    Statement Nat :=
  (viewOf table).2.change id (fieldsOf row)

/-- Removes the rows of a table that have an id, and counts them. -/
def remove (table : Table) (id : String) : Statement Nat :=
  (viewOf table).2.remove id

end ExamHall.Maintenance
