import ExamHall.Generation.Apportion
import ExamHall.Store.Fault

/-!
# Why a test is not generated

The reasons in the order in which they are looked for: bounds of the request,
then what is wrong with the questions, then the store.
-/

namespace ExamHall

open Apportion

/-- The most variants of one test. -/
def maxVariants : Nat := 10

/-- Why a test is not generated or not shown. -/
inductive GenerationError where
  | variantCount
  | questionCount (most : Nat)
  | split (fault : SplitFault)
  | noIds
  | tooManyIds (most : Nat)
  | tooFew (shortages : List Shortage)
  | noneUsable
  | unknownIds (ids : List String)
  | foreignIds (ids : List String)
  | unknownTest
  | foreignTest
  | storage (fault : StorageFault)
deriving DecidableEq, Repr

/-- What a generation error says. -/
def GenerationError.message : GenerationError → String
  | .variantCount =>
      "variant_count must be between 1 and " ++ Text.ofNat maxVariants
  | .questionCount most => "count must be between 1 and " ++ Text.ofNat most
  | .split fault => fault.message
  | .noIds => "question_ids must not be empty"
  | .tooManyIds most =>
    "at most " ++ Text.ofNat most ++ " question ids can be selected manually"
  | .tooFew shortages =>
    "not enough questions: " ++
      String.intercalate "; " (shortages.map Shortage.describe)
  | .noneUsable => "none of the selected questions can be graded automatically"
  | .unknownIds ids => "questions not found: " ++ String.intercalate ", " ids
  | .foreignIds ids =>
      "questions not accessible: " ++ String.intercalate ", " ids
  | .unknownTest => "generated test not found"
  | .foreignTest => "not allowed to access this generated test"
  | .storage fault => fault.message

end ExamHall
