import ExamHall.Exam.Action
import Mathlib.Tactic.Simproc.ExistsAndEq

/-!
# What a successful step has done

A statement or a transaction is a chain of steps, each of which fails or hands
on a value and a store.  The chain succeeds exactly when each of its steps
succeeds in turn.  With these equivalences the source of a statement reads as
the conditions under which it succeeds and the store that it leaves.
-/

namespace ExamHall

section Chains

variable {σ ε α β : Type} {before after : σ}

@[simp] theorem bind_eq_ok {first : StateT σ (Except ε) α}
    {next : α → StateT σ (Except ε) β} {value : β} :
    (first >>= next) before = .ok (value, after) ↔ ∃ found middle,
      first before = .ok (found, middle) ∧
        next found middle = .ok (value, after) := by
  change (first before >>= fun step => next step.1 step.2) =
    .ok (value, after) ↔ _
  cases first before with
  | error fault => simp [bind, Except.bind]
  | ok step =>
      constructor
      · intro ended
        exact ⟨step.1, step.2, rfl, ended⟩
      · rintro ⟨found, middle, same, ended⟩
        cases same
        exact ended

/-- After a step that has succeeded, the chain goes on with what that step
leaves. -/
theorem bind_of_ok {first : StateT σ (Except ε) α}
    {next : α → StateT σ (Except ε) β} {found : α}
    {middle : σ} (ended : first before = .ok (found, middle)) :
    (first >>= next) before = next found middle := by
  change (first before >>= fun step => next step.1 step.2) = _
  rw [ended]
  rfl

/-- A step that fails ends the chain. -/
theorem bind_of_error {first : StateT σ (Except ε) α}
    {next : α → StateT σ (Except ε) β} {halt : ε}
    (failed : first before = .error halt) :
    (first >>= next) before = .error halt := by
  change (first before >>= fun step => next step.1 step.2) = _
  rw [failed]
  rfl

@[simp] theorem pure_eq_ok {given value : α} :
    (pure given : StateT σ (Except ε) α) before = .ok (value, after) ↔
      value = given ∧ after = before := by
  change (Except.ok (given, before) : Except ε (α × σ)) = .ok (value, after) ↔ _
  simp [eq_comm]

@[simp] theorem map_eq_ok {first : StateT σ (Except ε) α} {change : α → β}
    {value : β} :
    (change <$> first) before = .ok (value, after) ↔ ∃ found,
      first before = .ok (found, after) ∧ value = change found := by
  change (first before >>= fun step => pure (change step.1, step.2)) =
    .ok (value, after) ↔ _
  cases first before with
  | error fault => simp [bind, Except.bind]
  | ok step => simp [bind, Except.bind, pure, Except.pure, Prod.ext_iff,
    eq_comm, and_comm]

theorem map_of_error {first : StateT σ (Except ε) α} {change : α → β} {halt : ε}
    (failed : first before = .error halt) :
    (change <$> first) before = .error halt := by
  change (first before >>= fun step => pure (change step.1, step.2)) = _
  rw [failed]
  rfl

@[simp] theorem get_eq_ok {value : σ} :
    (get : StateT σ (Except ε) σ) before = .ok (value, after) ↔
      value = before ∧ after = before := by
  simp [get, getThe, MonadStateOf.get, StateT.get, pure, Except.pure, eq_comm]

@[simp] theorem set_eq_ok {given : σ} {value : PUnit} :
    (set given : StateT σ (Except ε) PUnit) before = .ok (value, after) ↔
      after = given := by
  change (Except.ok (.unit, given) : Except ε (PUnit × σ)) =
    .ok (value, after) ↔ _
  simp [eq_comm]

@[simp] theorem modify_eq_ok {change : σ → σ} {value : PUnit} :
    (modify change : StateT σ (Except ε) PUnit) before = .ok (value, after) ↔
      after = change before := by
  change (Except.ok (.unit, change before) : Except ε (PUnit × σ)) =
    .ok (value, after) ↔ _
  simp [eq_comm]

@[simp] theorem exceptBind_eq_ok {first : Except ε α} {next : α → Except ε β}
    {value : β} :
    (first >>= next) = .ok value ↔ ∃ found, first = .ok found ∧
      next found = .ok value := by
  cases first with
  | error fault => simp [bind, Except.bind]
  | ok found => simp [bind, Except.bind]

@[simp] theorem exceptMap_eq_ok {first : Except ε α} {change : α → β}
    {value : β} :
    change <$> first = .ok value ↔ ∃ found, first = .ok found ∧
      change found = value := by
  cases first with
  | error fault => simp [Functor.map, Except.map]
  | ok found => simp [Functor.map, Except.map]

end Chains

/-- Whether none of the tables is out of reach. -/
def Store.CanReach (store : Store) (tables : List Table) : Prop :=
  ∀ table ∈ tables, table ∉ store.outages

theorem Store.CanReach.of_subset {store : Store} {tables some : List Table}
    (reach : store.CanReach tables) (part : some ⊆ tables) :
    store.CanReach some :=
  fun table inside => reach table (part inside)

namespace Statement

variable {α ρ : Type} {before after : Store}

@[simp] theorem fail_ne_ok {fault : StorageFault} {value : α} :
    (fail fault : Statement α) before ≠ .ok (value, after) :=
  nofun

@[simp] theorem ofExcept_eq_ok {result : Except StorageFault α} {value : α} :
    ofExcept result before = .ok (value, after) ↔ result = .ok value ∧
    after = before := by
  cases result with
  | error fault => simp [ofExcept, Except.map]
  | ok given => simp [ofExcept, Except.map, eq_comm]

@[simp] theorem ensure_eq_ok {holds : Bool} {fault : StorageFault}
    {value : Unit} :
    ensure holds fault before = .ok (value, after) ↔ holds = true ∧
    after = before := by
  cases holds with
  | false => simp [ensure]
  | true => simp [ensure, eq_comm]

@[simp] theorem plain_eq_ok {texts : List String} {value : Unit} :
    plain texts before = .ok (value, after) ↔
      (∀ text ∈ texts, Column.hasNul text = false) ∧ after = before := by
  simp [plain]

@[simp] theorem reach_eq_ok {tables : List Table} {value : Unit} :
    reach tables before = .ok (value, after) ↔ before.CanReach tables ∧
    after = before := by
  unfold reach
  split
  · next lost =>
      simp only [reduceCtorEq, false_iff, not_and]
      intro reached
      obtain ⟨table, inside, out⟩ := List.any_eq_true.mp lost
      exact absurd (List.contains_iff_mem.mp out) (reached table inside)
  · next kept =>
      simp only [Except.ok.injEq, Prod.mk.injEq, true_and]
      constructor
      · rintro rfl
        refine ⟨fun table inside out => kept ?_, rfl⟩
        exact List.any_eq_true.mpr ⟨table, inside,
          List.contains_iff_mem.mpr out⟩
      · rintro ⟨_, rfl⟩
        rfl

@[simp] theorem readAll_eq_ok {read? : ρ → Option α} {rows : Store → List ρ}
    {values : List α} :
    readAll read? rows before = .ok (values, after) ↔
      (rows before).mapM read? = some values ∧ after = before := by
  unfold readAll
  cases (rows before).mapM read? with
  | none => simp
  | some found => simp [eq_comm]

end Statement

namespace Transaction

variable {ε α : Type} {before after : Store} {value : α}

@[simp] theorem refuse_ne_ok {error : ε} :
    (refuse error : Transaction ε α) before ≠ .ok (value, after) :=
  nofun

@[simp] theorem require_eq_ok {holds : Bool} {error : ε} {value : Unit} :
    require holds error before = .ok (value, after) ↔ holds = true ∧
    after = before := by
  cases holds with
  | false => simp [require]
  | true => simp [require, eq_comm]

@[simp] theorem demand_eq_ok {found : Option α} {error : ε} :
    demand found error before = .ok (value, after) ↔ found = some value ∧
    after = before := by
  cases found with
  | none => simp [demand]
  | some given => simp [demand, eq_comm]

@[simp] theorem inRange_eq_ok {found : Option α} :
    (inRange found : Transaction ε α) before = .ok (value, after) ↔
      found = some value ∧ after = before := by
  cases found with
  | none => simp [inRange]
  | some given => simp [inRange, eq_comm]

@[simp] theorem run_eq_ok {report : StorageFault → ε}
    {statement : Statement α} :
    run report statement before = .ok (value, after) ↔
      statement before = .ok (value, after) := by
  unfold run
  cases statement before with
  | error fault => simp
  | ok step => simp

@[simp] theorem lift_eq_ok [ReportsFaults ε] {statement : Statement α} :
    (liftM statement : Transaction ε α) before = .ok (value, after) ↔
      statement before = .ok (value, after) :=
  run_eq_ok

/-- A statement that fails has the transaction refused. -/
theorem lift_of_error [ReportsFaults ε] {statement : Statement α}
    {fault : StorageFault} (failed : statement before = .error fault) :
    (liftM statement : Transaction ε α) before =
      .error (.refused (ReportsFaults.ofFault fault)) := by
  change run ReportsFaults.ofFault statement before = _
  unfold run
  rw [failed]

/-- A part that is undone alone ends well, or is refused and leaves everything
as it was. -/
@[simp] theorem attempt_eq_ok {part : Transaction ε α} {result : Except ε α} :
    attempt part before = .ok (result, after) ↔
      (∃ found, part before = .ok (found, after) ∧ result = .ok found) ∨
    (∃ error, part before = .error (.refused error) ∧ result = .error error ∧
      after = before) := by
  unfold attempt
  cases part before with
  | ok step =>
      obtain ⟨found, middle⟩ := step
      simp only [Except.ok.injEq, Prod.mk.injEq, reduceCtorEq, false_and,
        exists_false, or_false]
      constructor
      · rintro ⟨rfl, rfl⟩
        exact ⟨found, ⟨rfl, rfl⟩, rfl⟩
      · rintro ⟨_, ⟨rfl, rfl⟩, rfl⟩
        exact ⟨rfl, rfl⟩
  | error halt =>
      cases halt with
      | refused error => simp [eq_comm]
      | outOfRange => simp

end Transaction

end ExamHall
