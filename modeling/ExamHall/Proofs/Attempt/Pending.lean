import ExamHall.Proofs.Store.Enforced

/-!
# Attempts that wait for their scores

A submitted attempt waits for its scores until it is graded.  Whoever submits
one is handed it, in order to have it graded next; nothing else makes an attempt
wait.
-/

namespace ExamHall

open Store

variable {now : Instant} {before middle after : Store}
  {pending : Option Attempt}

/-- No attempt waits for its scores, but perhaps the given one. -/
def Store.AwaitsOnly (store : Store) (pending : Option Attempt) : Prop :=
  ∀ attempt ∈ store.attempts, attempt.status = .submitted →
    ∃ given, pending = some given ∧ given.id = attempt.id

/-- No attempt has come to wait for its scores, but perhaps the given one. -/
def AddsOnly (pending : Option Attempt) (before after : Store) : Prop :=
  ∀ attempt ∈ after.attempts, attempt.status = .submitted →
    (∃ old ∈ before.attempts, old.id = attempt.id ∧ old.status = .submitted) ∨
      ∃ given, pending = some given ∧ given.id = attempt.id

namespace AddsOnly

theorem of_attempts_eq (same : after.attempts = before.attempts) :
    AddsOnly pending before after :=
  fun attempt inside submitted => .inl ⟨attempt, same ▸ inside, rfl, submitted⟩

theorem trans (early : AddsOnly none before middle)
    (late : AddsOnly pending middle after) : AddsOnly pending before after := by
  intro attempt inside submitted
  rcases late attempt inside submitted with ⟨old, listed, same, waited⟩ | handed
  · rcases early old listed waited with ⟨older, present, same', waited'⟩
      | ⟨_, absent, -⟩
    · exact .inl ⟨older, present, same'.trans same, waited'⟩
    · cases absent
  · exact .inr handed

theorem then_none (early : AddsOnly pending before middle)
    (late : AddsOnly none middle after) : AddsOnly pending before after := by
  intro attempt inside submitted
  rcases late attempt inside submitted with ⟨old, listed, same, waited⟩
    | ⟨_, absent, -⟩
  · rw [← same]
    exact early old listed waited
  · cases absent

/-- Where nothing waited before, only what was handed over waits. -/
theorem awaitsOnly (adds : AddsOnly pending before after)
    (none : before.AwaitsOnly none) : after.AwaitsOnly pending := by
  intro attempt inside submitted
  rcases adds attempt inside submitted with ⟨old, listed, -, waited⟩ | handed
  · obtain ⟨_, absent, -⟩ := none old listed waited
    cases absent
  · exact handed

/-- A change of some attempts that submits none of them. -/
theorem updateWhere {holds : Attempt → Bool} {change : Attempt → Attempt}
    {answers : List (SavedAnswer (Stored Answer))} {issued : Issued}
    (kept : ∀ attempt, Attempt.Kept attempt (change attempt))
    (status : ∀ attempt ∈ before.attempts, holds attempt = true →
      (change attempt).status = .submitted → attempt.status = .submitted) :
    AddsOnly none before { before with
      attempts := updateWhere holds change before.attempts, answers,
      issued } := by
  intro attempt membership submitted
  obtain ⟨old, inside, rfl⟩ := mem_updateWhere.mp membership
  refine .inl ⟨old, inside, (kept old).ite.id.symm, ?_⟩
  split at submitted
  · next selected => exact status old inside selected submitted
  · exact submitted

/-- Submitting an attempt hands it over. -/
theorem markSubmitted {id : String} {submittedAt : Instant} :
    AddsOnly ((before.attempts.find? (hasStatus id .inProgress)).map
        (Store.submitted submittedAt now)) before
      { before with
        attempts := ExamHall.updateWhere (hasStatus id .inProgress)
          (Store.submitted submittedAt now) before.attempts } := by
  intro attempt membership submitted
  obtain ⟨old, inside, rfl⟩ := mem_updateWhere.mp membership
  cases selected : hasStatus id .inProgress old with
  | false =>
      rw [if_neg (by simp [selected])] at submitted ⊢
      exact .inl ⟨old, inside, rfl, submitted⟩
  | true =>
      rw [if_pos rfl]
      refine .inr ?_
      cases found : before.attempts.find? (hasStatus id .inProgress) with
      | none => exact absurd selected (List.find?_eq_none.mp found old inside)
      | some first =>
          refine ⟨Store.submitted submittedAt now first, rfl, ?_⟩
          exact (hasStatus_eq_true.mp (List.find?_some found)).1.trans
            (hasStatus_eq_true.mp selected).1.symm

theorem append (attempt : Attempt) (unsubmitted : attempt.status ≠ .submitted)
    {issued : Issued} :
    AddsOnly none before
      { before with attempts := before.attempts ++ [attempt], issued } := by
  intro other membership submitted
  rcases List.mem_append.mp membership with old | new
  · exact .inl ⟨other, old, rfl, submitted⟩
  · rw [List.mem_singleton.mp new] at submitted
    exact absurd submitted unsubmitted

end AddsOnly

/-! ## Changes with what they hand over -/

/-- A store is reached, and the attempt that has been submitted on the way is
handed over. -/
structure HandsOver (now : Instant) (pending : Option Attempt)
    (before after : Store) : Prop where
  reached : Reaches now before after
  adds : AddsOnly pending before after

namespace HandsOver

theorem refl (store : Store) : HandsOver now pending store store :=
  ⟨.refl, .of_attempts_eq rfl⟩

theorem single (change : Change now before after)
    (adds : AddsOnly pending before after) :
    HandsOver now pending before after :=
  ⟨.single change, adds⟩

theorem trans (early : HandsOver now none before middle)
    (late : HandsOver now pending middle after) :
    HandsOver now pending before after :=
  ⟨early.reached.trans late.reached, early.adds.trans late.adds⟩

theorem then_none (early : HandsOver now pending before middle)
    (late : HandsOver now none middle after) :
    HandsOver now pending before after :=
  ⟨early.reached.trans late.reached, early.adds.then_none late.adds⟩

end HandsOver

end ExamHall
