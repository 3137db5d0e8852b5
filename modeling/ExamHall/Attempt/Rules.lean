import ExamHall.Digest.Sha256
import ExamHall.Records
import ExamHall.Text.Bytes

/-!
# Rules of an attempt

When an assignment can be started, which variant a student is dealt, what
leaving the exam window leads to, and how long an attempt lasts. The window of
an assignment includes both of its ends; a deadline has passed as soon as it is
reached.
-/

namespace ExamHall

/-- Whether an assignment can be started at a given time. -/
inductive WindowState where
  | open
  | notActive
  | notOpenYet
  | closed
deriving DecidableEq, Repr

/-- The window of an assignment at a given time. -/
def Assignment.window (assignment : Assignment) (now : Instant) : WindowState :=
  if assignment.status ≠ .active then .notActive
  else if now < assignment.startsAt then .notOpenYet
  else if assignment.endsAt < now then .closed
  else .open

/-- The number that bytes write, most significant byte first. -/
def numberOfBytes (bytes : List UInt8) : Nat :=
  bytes.foldl (fun value byte => value * 256 + byte.toNat) 0

/-- A number that depends on the student, the assignment and the ordinal of the
attempt alone. -/
def dealingNumber (studentId assignmentId : String) (ordinal : Nat) : Nat :=
  let text := studentId ++ "|" ++ assignmentId ++ "|" ++ Text.ofNat ordinal
  numberOfBytes ((Sha256.hash (Text.utf8 text)).take 8)

/-- The position of the variant for an attempt, whose ordinals start with one.
Variants follow each other in turn, or each attempt of each student gets a
variant of its own. -/
def variantIndex (studentId assignmentId : String) (ordinal variantCount : Nat)
    (perStudent : Bool) : Nat :=
  if variantCount = 0 then 0
  else if perStudent
    then dealingNumber studentId assignmentId ordinal % variantCount
  else (ordinal - 1) % variantCount

theorem variantIndex_lt {variantCount : Nat} (positive : 0 < variantCount)
    (studentId assignmentId : String) (ordinal : Nat) (perStudent : Bool) :
    variantIndex studentId assignmentId ordinal variantCount perStudent <
      variantCount := by
  unfold variantIndex
  split
  · omega
  · split
    · exact Nat.mod_lt _ positive
    · exact Nat.mod_lt _ positive

/-- What a number of violations leads to. -/
inductive Escalation where
  | none
  | warn
  | flag
  | autoSubmit
deriving DecidableEq, Repr

namespace Escalation

/-- The spelling of an escalation. -/
def word : Escalation → String
  | .none => "none"
  | .warn => "warn"
  | .flag => "flag"
  | .autoSubmit => "auto_submit"

/-- The escalation that an action asks for. -/
def ofAction : IntegrityAction → Escalation
  | .warn => .warn
  | .flag => .flag
  | .autoSubmit => .autoSubmit

end Escalation

/-- What violations lead to; a threshold of zero switches escalation off. -/
def escalation (violations threshold : Int) (action : IntegrityAction) :
    Escalation :=
  if threshold ≤ 0 ∨ violations < threshold then .none else .ofAction action

/-- Why an attempt is flagged. -/
def flagReason (violations threshold : Int) : String :=
  "tab switches reached " ++ Text.ofInt violations ++ " (threshold " ++
    Text.ofInt threshold ++ ")"

/-- The end of an attempt; the window of the assignment does not shorten it. -/
def deadline? (startedAt : Instant) (durationMinutes : Int) : Option Instant :=
  Calendar.shift? startedAt (max durationMinutes 0 * Instant.minute)

/-- Whether a deadline has passed. -/
def isExpired (deadline now : Instant) : Bool :=
  decide (deadline ≤ now)

/-- The whole seconds left until a deadline, never negative. -/
def remainingSeconds (deadline now : Instant) : Int :=
  now.secondsUntil deadline

end ExamHall
