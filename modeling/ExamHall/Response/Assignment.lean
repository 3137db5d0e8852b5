import ExamHall.Response.Attempt

/-!
# Responses about assignments

The view of an assignment hides the hash of its access code; the code itself is
shown once, to the author who creates the assignment.
-/

namespace ExamHall

/-- The view of an assignment with its roster. -/
def Assignment.view (assignment : Assignment) (studentIds : List String)
    (accessCode : Option String) : Json :=
  .record ([("id", .text assignment.id),
    ("generated_test_id", .text assignment.testId),
    ("owner_id", .text assignment.ownerId), ("title", .text assignment.title),
    ("status", .text assignment.status.word),
    ("starts_at", instantJson assignment.startsAt),
    ("ends_at", instantJson assignment.endsAt),
    ("duration_minutes", .ofInt assignment.durationMinutes),
    ("max_attempts", .ofInt assignment.maxAttempts),
    ("shuffle_per_student", .bool assignment.shufflePerStudent),
    ("requires_access_code", .bool assignment.accessCodeHash.isSome),
    ("tab_switch_threshold", .ofInt assignment.tabSwitchThreshold),
    ("tab_switch_action", .text assignment.tabSwitchAction.word),
    ("student_ids", .ofTexts studentIds)] ++ Json.optionalMember "access_code"
      .text accessCode ++ [("created_at", instantJson assignment.createdAt),
        ("updated_at", instantJson assignment.updatedAt),
        ("closed_at", .ofOption instantJson assignment.closedAt)])

/-- How far a student has come with an assignment. -/
structure StudentStatus where
  assignmentId : String
  remainingAttempts : Int
  latest : Option Attempt

/-- The view of a student's status. -/
def StudentStatus.view (status : StudentStatus) (now : Instant) : Json :=
  .record [("assignment_id", .text status.assignmentId), ("state",
      .text (if status.latest.isSome then "attempted" else "not_started")),
    ("remaining_attempts", .ofInt status.remainingAttempts),
    ("attempt", .ofOption (fun attempt => attempt.view now) status.latest)]

end ExamHall
