/-!
# Requests outside their bounds

A request that reads well may still break a bound on one of its fields. All
broken bounds are reported together, one line each, in the order of the lines.
-/

namespace ExamHall

/-- A field of a request that breaks a bound. -/
structure RangeFault where
  field : String
  rule : String
deriving DecidableEq, Repr

namespace RangeFault

/-- The line of a fault in a report. -/
def line (fault : RangeFault) : String :=
  fault.field ++ ": " ++ fault.rule

/-- The report of a list of faults. -/
def report (faults : List RangeFault) : String :=
  String.intercalate "\n"
    ((faults.map line).mergeSort fun left right => decide (left ≤ right))

/-- The fault of a field whose condition does not hold. -/
def require (holds : Bool) (field rule : String) : List RangeFault :=
  if holds then [] else [⟨field, rule⟩]

end RangeFault

end ExamHall
