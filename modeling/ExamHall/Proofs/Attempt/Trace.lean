import ExamHall.Proofs.Attempt.Frame
import Mathlib.Logic.Function.Basic

/-!
# The trace of an attempt

What is told about an attempt is a word of kinds of events.  How far the attempt
has come is the state of an automaton that reads such words, so a word tells
what has become of the attempt, and says so in one order only.
-/

namespace ExamHall

open Store

/-- How far an attempt has come: it is not there yet, is in progress, waits for
its scores, or has them. -/
inductive Attempt.Phase where
  | absent
  | running
  | submitted
  | scored
deriving DecidableEq

/-- The kinds of events that tell of work on an attempt. -/
def ProgressKind.IsWork (kind : ProgressKind) : Prop :=
  kind = .answerSaved ∨ kind = .violation

namespace Attempt.Phase

/-- The phase of an attempt with a status. -/
def ofStatus : AttemptStatus → Phase
  | .inProgress => .running
  | .submitted => .submitted
  | .autoGraded | .needsReview | .graded => .scored

/-- The phase that an event leads to, if it may be told in a phase. -/
def next? : Phase → ProgressKind → Option Phase
  | .absent, .started => some .running
  | .running, .answerSaved | .running, .violation => some .running
  | .running, .submitted => some .submitted
  | .submitted, .graded => some .scored
  | _, _ => none

/-- The phase that some events lead to, one after another. -/
def after? (phase : Phase) (kinds : List ProgressKind) : Option Phase :=
  kinds.foldlM next? phase

/-- What is told of an attempt last, once it has come as far as a phase. -/
def closing : Phase → List ProgressKind
  | .absent | .running => []
  | .submitted => [.submitted]
  | .scored => [.submitted, .graded]

variable {phase last : Phase} {kinds more : List ProgressKind}

theorem after?_cons (phase : Phase) (kind : ProgressKind)
    (kinds : List ProgressKind) :
    phase.after? (kind :: kinds) = (phase.next? kind).bind (·.after? kinds) :=
  List.foldlM_cons

theorem after?_append {middle : Phase}
    (early : phase.after? kinds = some middle)
    (late : middle.after? more = some last) :
    phase.after? (kinds ++ more) = some last := by
  rw [after?, List.foldlM_append,
    show kinds.foldlM next? phase = some middle from early]
  exact late

theorem ofStatus_of_isScored {status : AttemptStatus}
    (scored : status.isScored = true) : ofStatus status = .scored := by
  cases status <;> first | rfl | cases scored

/-- Nothing is told of an attempt any longer once it has its scores. -/
theorem eq_nil_of_after?_scored (reads : scored.after? kinds = some last) :
    kinds = [] ∧ last = .scored := by
  cases kinds with
  | nil => exact ⟨rfl, (Option.some.inj reads).symm⟩
  | cons kind rest =>
      rw [after?_cons] at reads
      cases kind <;> cases reads

theorem closing_of_after?_submitted
    (reads : submitted.after? kinds = some last) :
    .submitted :: kinds = last.closing ∧ last ≠ .absent := by
  cases kinds with
  | nil =>
      obtain rfl := Option.some.inj reads
      exact ⟨rfl, nofun⟩
  | cons kind rest =>
      rw [after?_cons] at reads
      cases kind with
      | graded =>
          obtain ⟨rfl, rfl⟩ := eq_nil_of_after?_scored reads
          exact ⟨rfl, nofun⟩
      | _ => cases reads

/-- What is told of an attempt in progress: work on it, and at the end how it is
closed. -/
theorem exists_work_of_after?_running
    (reads : running.after? kinds = some last) :
    ∃ work : List ProgressKind, (∀ kind ∈ work, kind.IsWork) ∧
      kinds = work ++ last.closing ∧ last ≠ .absent := by
  induction kinds with
  | nil =>
      obtain rfl := Option.some.inj reads
      exact ⟨[], List.forall_mem_nil _, rfl, nofun⟩
  | cons kind rest ih =>
      rw [after?_cons] at reads
      have goesOn : ∀ {kind : ProgressKind}, kind.IsWork →
          running.after? rest = some last → ∃ work : List ProgressKind,
            (∀ kind ∈ work, kind.IsWork) ∧ kind :: rest = work ++ last.closing ∧
            last ≠ .absent := by
        intro kind isWork reads
        obtain ⟨work, all, same, present⟩ := ih reads
        exact ⟨kind :: work, List.forall_mem_cons.mpr ⟨isWork, all⟩,
          congrArg (kind :: ·) same, present⟩
      cases kind with
      | started => cases reads
      | answerSaved => exact goesOn (.inl rfl) reads
      | violation => exact goesOn (.inr rfl) reads
      | submitted =>
          obtain ⟨same, present⟩ := closing_of_after?_submitted reads
          exact ⟨[], List.forall_mem_nil _, same, present⟩
      | graded => cases reads

/-- The words that may be told of an attempt: it is started once and first, and
the rest is as of an attempt in progress. -/
theorem cases_of_after?_absent (reads : absent.after? kinds = some last) :
    last = .absent ∧ kinds = [] ∨ last ≠ .absent ∧ ∃ work : List ProgressKind,
      (∀ kind ∈ work, kind.IsWork) ∧
      kinds = .started :: work ++ last.closing := by
  cases kinds with
  | nil => exact .inl ⟨(Option.some.inj reads).symm, rfl⟩
  | cons kind rest =>
      rw [after?_cons] at reads
      cases kind with
      | started =>
          obtain ⟨work, all, same, present⟩ :=
            exists_work_of_after?_running reads
          exact .inr ⟨present, work, all, congrArg (_ :: ·) same⟩
      | _ => cases reads

/-- How an attempt is started and closed is no work on it. -/
theorem count_of_isWork {kind : ProgressKind} (isWork : kind.IsWork)
    (work : List ProgressKind) :
    (ProgressKind.started :: work ++ last.closing).count kind =
      work.count kind := by
  have none : last.closing.count kind = 0 := by
    rcases isWork with rfl | rfl <;> cases last <;> rfl
  rw [List.cons_append,
    List.count_cons_of_ne (by rcases isWork with rfl | rfl <;> nofun),
    List.count_append, none, Nat.add_zero]

end Attempt.Phase

/-! ## Events of one attempt and of one kind -/

/-- The kinds of the events that are told of an attempt. -/
def kindsOf (attemptId : String) (events : List ProgressEvent) :
    List ProgressKind :=
  (events.filter fun event => event.attempt.id == attemptId).map (·.kind)

/-- The attempts of which events of a kind are told. -/
def toldOf (kind : ProgressKind) (events : List ProgressEvent) : List String :=
  (events.filter fun event => event.kind == kind).map (·.attempt.id)

theorem kindsOf_append (attemptId : String)
    (first second : List ProgressEvent) :
    kindsOf attemptId (first ++ second) =
      kindsOf attemptId first ++ kindsOf attemptId second := by
  rw [kindsOf, List.filter_append, List.map_append]
  rfl

theorem toldOf_append (kind : ProgressKind)
    (first second : List ProgressEvent) :
    toldOf kind (first ++ second) =
      toldOf kind first ++ toldOf kind second := by
  rw [toldOf, List.filter_append, List.map_append]
  rfl

theorem toldOf_flatMap {α : Type} (kind : ProgressKind)
    (events : α → List ProgressEvent) (parts : List α) :
    toldOf kind (parts.flatMap events) = parts.flatMap fun part =>
      toldOf kind (events part) := by
  rw [toldOf, List.filter_flatMap, List.map_flatMap]
  rfl

/-- The events of a kind that are told of an attempt can be counted either
way. -/
theorem count_kindsOf (attemptId : String) (kind : ProgressKind)
    (events : List ProgressEvent) :
    (kindsOf attemptId events).count kind =
      (toldOf kind events).count attemptId := by
  simp only [kindsOf, toldOf, List.count_eq_countP, List.countP_map,
    List.countP_filter]
  exact List.countP_congr fun event _ => by simp [and_comm]

/-- Some events lead each attempt from the phase that it has come to to another
one. -/
def Traces (before : String → Attempt.Phase) (events : List ProgressEvent)
    (after : String → Attempt.Phase) : Prop :=
  ∀ attemptId, (before attemptId).after? (kindsOf attemptId events) =
    some (after attemptId)

namespace Traces

variable {before middle after : String → Attempt.Phase}
  {events more : List ProgressEvent} {event : ProgressEvent}

theorem refl (phases : String → Attempt.Phase) : Traces phases [] phases :=
  fun _ => rfl

theorem append (early : Traces before events middle)
    (late : Traces middle more after) :
    Traces before (events ++ more) after := by
  intro attemptId
  rw [kindsOf_append]
  exact Attempt.Phase.after?_append (early attemptId) (late attemptId)

/-- An event leads the attempt that it tells of on, and no other. -/
theorem single {phase : Attempt.Phase}
    (leads : (before event.attempt.id).next? event.kind = some phase) :
    Traces before [event] (Function.update before event.attempt.id phase) := by
  intro attemptId
  by_cases same : event.attempt.id = attemptId
  · subst same
    have alone : kindsOf event.attempt.id [event] = [event.kind] := by
      simp [kindsOf]
    rw [Function.update_self, alone, Attempt.Phase.after?_cons, leads]
    rfl
  · have none : kindsOf attemptId [event] = [] := by simp [kindsOf, same]
    rw [Function.update_of_ne (Ne.symm same), none]
    rfl

/-- Work on an attempt in progress leaves it in progress. -/
theorem work (running : before event.attempt.id = .running)
    (isWork : event.kind.IsWork) : Traces before [event] before := by
  have leads : (before event.attempt.id).next? event.kind = some .running := by
    rw [running]
    rcases isWork with same | same <;> rw [same] <;> rfl
  have traces := single leads
  rwa [Function.update_eq_self_iff.mpr running.symm] at traces

end Traces

/-! ## Attempts in the tables -/

namespace Store

/-- How far the attempt with an id has come. -/
def phase (store : Store) (attemptId : String) : Attempt.Phase :=
  match store.attempts.find? (·.id == attemptId) with
  | some attempt => .ofStatus attempt.status
  | none => .absent

variable {before after : Store} {attempt : Attempt} {attemptId : String}

theorem phase_of_mem (ids : (before.attempts.map (·.id)).Nodup)
    (listed : attempt ∈ before.attempts) :
    before.phase attempt.id = .ofStatus attempt.status := by
  rw [phase, find?_key_eq_some ids listed]

theorem phase_of_not_mem (missing : attemptId ∉ before.attempts.map (·.id)) :
    before.phase attemptId = .absent := by
  have none : before.attempts.find? (·.id == attemptId) = none :=
    List.find?_eq_none.mpr fun attempt listed same =>
      missing (List.mem_map.mpr ⟨attempt, listed, beq_iff_eq.mp same⟩)
  rw [phase, none]

theorem phase_congr (same : after.attempts = before.attempts) :
    after.phase = before.phase := by
  funext attemptId
  rw [phase, phase, same]

/-- Where attempts stay as they are, so do their phases. -/
theorem phase_eq_of_mem (ids : (before.attempts.map (·.id)).Nodup)
    (ids' : (after.attempts.map (·.id)).Nodup)
    (known : attemptId ∈ after.attempts.map (·.id) →
      attemptId ∈ before.attempts.map (·.id))
    (stays : ∀ attempt ∈ before.attempts, attempt.id = attemptId →
      attempt ∈ after.attempts) :
    after.phase attemptId = before.phase attemptId := by
  by_cases there : attemptId ∈ before.attempts.map (·.id)
  · obtain ⟨attempt, listed, rfl⟩ := List.mem_map.mp there
    rw [phase_of_mem ids listed, phase_of_mem ids' (stays attempt listed rfl)]
  · rw [phase_of_not_mem there, phase_of_not_mem (mt known there)]

/-- What touches an attempt only leads that one on. -/
theorem phase_of_touches (touches : Touches attempt.id before after)
    (ids : (before.attempts.map (·.id)).Nodup)
    (listed : attempt ∈ after.attempts) :
    after.phase =
      Function.update before.phase attempt.id (.ofStatus attempt.status) := by
  have ids' : (after.attempts.map (·.id)).Nodup := touches.ids ▸ ids
  funext otherId
  by_cases same : otherId = attempt.id
  · rw [same, Function.update_self, phase_of_mem ids' listed]
  · rw [Function.update_of_ne same]
    exact phase_eq_of_mem ids ids' (touches.ids ▸ id) fun other inside sameId =>
      touches.mem_of_ne inside (sameId ▸ same)

/-- A new attempt begins, and no other is led on. -/
theorem phase_of_append (ids : (after.attempts.map (·.id)).Nodup)
    (added : after.attempts = before.attempts ++ [attempt]) :
    after.phase =
      Function.update before.phase attempt.id (.ofStatus attempt.status) := by
  have ids' : (before.attempts.map (·.id)).Nodup := by
    rw [added, List.map_append] at ids
    exact ids.of_append_left
  have here : attempt ∈ after.attempts :=
    added ▸ List.mem_append_right _ (List.mem_singleton_self _)
  funext otherId
  by_cases same : otherId = attempt.id
  · rw [same, Function.update_self, phase_of_mem ids here]
  · rw [Function.update_of_ne same]
    refine phase_eq_of_mem ids' ids (fun there => ?_) fun other inside _ =>
      added ▸ List.mem_append_left _ inside
    rw [added, List.map_append, List.mem_append] at there
    exact there.resolve_right fun last => same (List.mem_singleton.mp last)

end Store

end ExamHall
