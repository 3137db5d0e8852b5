import ExamHall.Exam.Grading

/-!
# Upkeep

Two tasks run beside the requests. The sweep submits attempts whose deadline has
passed, as of their deadline. The recovery grades submitted attempts that were
left without scores. Each attempt is handled for itself: one that fails does not
stop the others.
-/

namespace ExamHall

/-- Why an upkeep task does not run. -/
inductive UpkeepError where
  | expiredNotListed
  | stalledNotListed
deriving DecidableEq, Repr

/-- What an upkeep error says. -/
def UpkeepError.message : UpkeepError → String
  | .expiredNotListed => "Failed to list expired attempts"
  | .stalledNotListed => "Failed to list stalled attempts"

/-- What a sweep has done. -/
structure SweepReport where
  found : Nat
  closed : Nat
  skipped : Nat
  failed : Nat
deriving DecidableEq, Repr

namespace Exam

open Store

/-- Submits expired attempts one after another, and counts what became of
them. -/
def sweepEach : List Attempt → SweepReport → Action AttemptError SweepReport
  | [], report => pure report
  | attempt :: rest, report => do
    match ← Action.outcome (finalize attempt.id attempt.deadlineAt) with
    | .ok (some _) => sweepEach rest { report with closed := report.closed + 1 }
    | .ok none => sweepEach rest { report with skipped := report.skipped + 1 }
    | .error _ => sweepEach rest { report with failed := report.failed + 1 }

/-- Submits the attempts whose deadline has passed. -/
def sweep : Action UpkeepError SweepReport := do
  let context ← read
  let expired ← Action.commit (Transaction.run (fun _ => .expiredNotListed)
    (expiredAttempts context.now context.settings.sweepBatchSize))
  (sweepEach expired ⟨expired.length, 0, 0, 0⟩).mapError fun _ =>
    .expiredNotListed

/-- Grades stalled attempts one after another, and counts those that it
graded. -/
def recoverEach : List Attempt → Nat → Action AttemptError Nat
  | [], recovered => pure recovered
  | attempt :: rest, recovered => do
    match ← Action.outcome (gradeSubmitted attempt.id) with
    | .ok (some _) => recoverEach rest (recovered + 1)
    | _ => recoverEach rest recovered

/-- The time before which a submitted attempt counts as stalled. -/
def stalledBefore? (settings : Settings) (now : Instant) : Option Instant :=
  Calendar.shift? now
    (-((settings.stalledGradingAfterSeconds : Int).bmod (twoTo 64)) *
      Instant.second)

/-- Grades submitted attempts that were left without scores. -/
def recoverStalled : Action UpkeepError Nat := do
  let context ← read
  let cutoff ← Action.inRange (stalledBefore? context.settings context.now)
  let stalled ← Action.commit (Transaction.run (fun _ => .stalledNotListed)
    (stalledAttempts cutoff context.settings.sweepBatchSize))
  (recoverEach stalled 0).mapError fun _ => .stalledNotListed

end Exam

end ExamHall
