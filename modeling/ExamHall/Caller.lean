import ExamHall.Vocabulary

/-!
# Callers

Every request but a few comes from a person with a role. Administrators may act
on what others own.
-/

namespace ExamHall

/-- A caller known by a verified token. -/
structure Caller where
  id : String
  role : Role
deriving DecidableEq, Repr

namespace Caller

/-- Whether the caller is an administrator. -/
def isAdmin (caller : Caller) : Bool :=
  decide (caller.role = .admin)

/-- Whether the caller owns something or is an administrator. -/
def mayManage (caller : Caller) (ownerId : String) : Bool :=
  caller.id == ownerId || caller.isAdmin

end Caller

end ExamHall
