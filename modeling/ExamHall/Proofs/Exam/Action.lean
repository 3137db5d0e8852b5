import ExamHall.Proofs.Store.Reading

/-!
# How an action ends

An action is judged by the worlds it starts in and by the results and worlds it
ends with.  There is one rule for each way of putting actions together, so that
a property of an operation is proved along its source.  Also a refused action
may have committed something; therefore its end is judged too.
-/

namespace ExamHall.Action

variable {ε δ α β : Type} {context : Context} {before : World → Prop}

/-- From each world of a kind, the action ends with a result and a world of
another kind. -/
def Ends (context : Context) (before : World → Prop) (action : Action ε α)
    (after : Except (Halt ε) α → World → Prop) : Prop :=
  ∀ world, before world →
    after (action context world).1 (action context world).2

theorem bind_apply (first : Action ε α) (next : α → Action ε β)
    (world : World) :
    (first >>= next) context world = match first context world with
      | (.ok value, world) => next value context world
      | (.error halt, world) => (.error halt, world) := by
  change ((ExceptT.bindCont (fun value => next value context)
      (first context world).1 : StateM World (Except (Halt ε) β))
      (first context world).2) = _
  rcases first context world with ⟨result, middle⟩
  cases result with
  | ok value => rfl
  | error halt => rfl

theorem read_bind_apply (next : Context → Action ε β) (world : World) :
    (read >>= next) context world = next context context world :=
  rfl

theorem bind_apply_of_ok {first : Action ε α} {next : α → Action ε β}
    {world middle : World} {value : α}
    (ended : first context world = (.ok value, middle)) :
    (first >>= next) context world = next value context middle := by
  rw [bind_apply, ended]

theorem demand_bind_apply {value : α} {error : ε} (next : α → Action ε β)
    (world : World) :
    (Action.demand (some value) error >>= next) context world =
      next value context world :=
  rfl

theorem inRange_bind_apply {value : α} (next : α → Action ε β) (world : World) :
    (Action.inRange (some value) >>= next) context world =
      next value context world :=
  rfl

theorem require_bind_apply {error : ε} (next : Unit → Action ε β)
    (world : World) :
    (Action.require true error >>= next) context world =
      next () context world :=
  rfl

theorem require_false_bind_apply {error : ε} (next : Unit → Action ε β)
    (world : World) :
    (Action.require false error >>= next) context world =
      (.error (.refused error), world) :=
  rfl

theorem bind_apply_of_error {first : Action ε α} {next : α → Action ε β}
    {world middle : World} {halt : Halt ε}
    (failed : first context world = (.error halt, middle)) :
    (first >>= next) context world = (.error halt, middle) := by
  rw [bind_apply, failed]

theorem commit_of_ok {transaction : Transaction ε α} {world : World} {value : α}
    {store : Store} (ended : transaction world.store = .ok (value, store)) :
    Action.commit transaction context world =
      (.ok value, { world with store }) := by
  rw [Action.commit, ended]

theorem commit_of_error {transaction : Transaction ε α} {world : World}
    {halt : Halt ε} (failed : transaction world.store = .error halt) :
    Action.commit transaction context world = (.error halt, world) := by
  rw [Action.commit, failed]

theorem query_of_ok [ReportsFaults ε] {statement : Statement α} {world : World}
    {value : α} {store : Store}
    (ended : statement world.store = .ok (value, store)) :
    (Action.query statement : Action ε α) context world =
      (.ok value, { world with store }) :=
  commit_of_ok (Transaction.run_eq_ok.mpr ended)

/-! ## What an action has done that ends well -/

theorem bind_apply_eq_ok {first : Action ε α} {next : α → Action ε β}
    {world after : World} {value : β} :
    (first >>= next) context world = (.ok value, after) ↔ ∃ found middle,
      first context world = (.ok found, middle) ∧
        next found context middle = (.ok value, after) := by
  rw [bind_apply]
  rcases first context world with ⟨halt | found, middle⟩
  · exact ⟨nofun, nofun⟩
  · constructor
    · exact fun ended => ⟨found, middle, rfl, ended⟩
    · rintro ⟨_, _, same, ended⟩
      cases same
      exact ended

theorem pure_apply_eq_ok {world after : World} {given value : α} :
    (pure given : Action ε α) context world = (.ok value, after) ↔
      value = given ∧ after = world := by
  change ((.ok given, world) : Except (Halt ε) α × World) = (.ok value, after) ↔
    _
  simp [eq_comm]

theorem commit_apply_eq_ok {transaction : Transaction ε α} {world after : World}
    {value : α} :
    Action.commit transaction context world = (.ok value, after) ↔ ∃ store,
      transaction world.store = .ok (value, store) ∧
      after = { world with store } := by
  unfold Action.commit
  rcases transaction world.store with halt | ⟨found, store⟩
  · exact ⟨nofun, nofun⟩
  · constructor
    · intro ended
      cases ended
      exact ⟨store, rfl, rfl⟩
    · rintro ⟨_, same, rfl⟩
      cases same
      rfl

theorem mapError_apply_eq_ok {report : ε → δ} {action : Action ε α}
    {world after : World} {value : α} :
    Action.mapError report action context world = (.ok value, after) ↔
      action context world = (.ok value, after) := by
  unfold Action.mapError
  rcases action context world with ⟨(error | _) | found, middle⟩
  · exact ⟨nofun, nofun⟩
  · exact ⟨nofun, nofun⟩
  · constructor <;>
    · intro ended
      cases ended
      rfl

namespace Ends

variable {after : Except (Halt ε) α → World → Prop}

theorem weaken {stronger : World → Prop} {action : Action ε α}
    {tighter : Except (Halt ε) α → World → Prop}
    (ends : Ends context before action tighter)
    (start : ∀ world, stronger world → before world)
    (ended : ∀ result world, tighter result world → after result world) :
    Ends context stronger action after :=
  fun world begun => ended _ _ (ends world (start world begun))

theorem bind {first : Action ε α} {next : α → Action ε β}
    (middle : Except (Halt ε) α → World → Prop)
    {after : Except (Halt ε) β → World → Prop}
    (started : Ends context before first middle)
    (continued : ∀ value, Ends context (middle (.ok value)) (next value) after)
    (halted : ∀ halt world,
      middle (.error halt) world → after (.error halt) world) :
    Ends context before (first >>= next) after := by
  intro world begun
  have reached := started world begun
  rw [bind_apply]
  rcases ended : first context world with ⟨result, world'⟩
  rw [ended] at reached
  cases result with
  | ok value => exact continued value world' reached
  | error halt => exact halted halt world' reached

theorem pure {value : α}
    (holds : ∀ world, before world → after (.ok value) world) :
    Ends context before (Pure.pure value) after :=
  holds

theorem map {change : α → β} {action : Action ε α}
    {after : Except (Halt ε) β → World → Prop}
    (ends : Ends context before action fun result world =>
      after (change <$> result) world) :
    Ends context before (change <$> action) after := by
  rw [← bind_pure_comp]
  exact bind _ ends
    (fun value => pure fun _ reached => reached) fun _ _ reached => reached

theorem reading {next : Context → Action ε β}
    {after : Except (Halt ε) β → World → Prop}
    (continued : Ends context before (next context) after) :
    Ends context before (read >>= next) after :=
  continued

theorem refuse {error : ε}
    (holds : ∀ world, before world → after (.error (.refused error)) world) :
    Ends context before (Action.refuse error) after :=
  holds

theorem require {holds : Bool} {error : ε}
    {after : Except (Halt ε) Unit → World → Prop}
    (passed : holds = true → ∀ world, before world → after (.ok ()) world)
    (failed : holds = false →
      ∀ world, before world → after (.error (.refused error)) world) :
    Ends context before (Action.require holds error) after := by
  intro world begun
  unfold Action.require
  cases kind : holds with
  | true => exact passed kind world begun
  | false => exact failed kind world begun

theorem demand {found : Option α} {error : ε}
    (present : ∀ value, found = some value → ∀ world, before world →
      after (.ok value) world)
    (absent : found = none →
      ∀ world, before world → after (.error (.refused error)) world) :
    Ends context before (Action.demand found error) after := by
  intro world begun
  unfold Action.demand
  cases kind : found with
  | some value => exact present value kind world begun
  | none => exact absent kind world begun

theorem inRange {found : Option α}
    (present : ∀ value, found = some value → ∀ world,
      before world → after (.ok value) world)
    (absent : found = none →
      ∀ world, before world → after (.error .outOfRange) world) :
    Ends context before (Action.inRange found) after := by
  intro world begun
  unfold Action.inRange
  cases kind : found with
  | some value => exact present value kind world begun
  | none => exact absent kind world begun

theorem commit {transaction : Transaction ε α}
    (done : ∀ world, before world → ∀ value store,
      transaction world.store = .ok (value, store) →
      after (.ok value) { world with store })
    (undone : ∀ world, before world → ∀ halt,
      transaction world.store = .error halt → after (.error halt) world) :
    Ends context before (Action.commit transaction) after := by
  intro world begun
  unfold Action.commit
  cases ended : transaction world.store with
  | ok step => exact done world begun step.1 step.2 ended
  | error halt => exact undone world begun halt ended

/-- The end of a single statement. -/
theorem query [ReportsFaults ε] {statement : Statement α}
    (done : ∀ world, before world → ∀ value store,
      statement world.store = .ok (value, store) →
      after (.ok value) { world with store })
    (undone : ∀ world, before world → ∀ fault,
      statement world.store = .error fault →
      after (.error (.refused (ReportsFaults.ofFault fault))) world) :
    Ends context before (Action.query statement) after := by
  refine commit (fun world begun value store ended => ?_)
    fun world begun halt ended => ?_
  · exact done world begun value store (Transaction.run_eq_ok.mp ended)
  · unfold Transaction.run at ended
    cases failed : statement world.store with
    | ok step =>
        rw [failed] at ended
        cases ended
    | error fault =>
        rw [failed] at ended
        cases ended
        exact undone world begun fault failed

/-- A single statement that only reads. -/
theorem readQuery [ReportsFaults ε] {statement : Statement α}
    (reads : IsRead statement)
    (done : ∀ world, before world → ∀ value,
      statement world.store = .ok (value, world.store) →
      after (.ok value) world)
    (undone : ∀ world, before world → ∀ fault,
      statement world.store = .error fault →
      after (.error (.refused (ReportsFaults.ofFault fault))) world) :
    Ends context before (Action.query statement) after := by
  refine query (fun world begun value store ended => ?_) undone
  obtain rfl := reads _ _ _ ended
  exact done world begun value ended

/-- A transaction whose end is known. -/
theorem bind_commit {transaction : Transaction ε α} {next : α → Action ε β}
    {store left : Store} {value : α} {after : Except (Halt ε) β → World → Prop}
    (ended : transaction store = .ok (value, left))
    (continued :
      Ends context (fun world => world.store = left) (next value) after) :
    Ends context (fun world => world.store = store)
      (Action.commit transaction >>= next) after := by
  refine bind (fun result world => world.store = left ∧ result = .ok value)
    (commit ?_ ?_) (fun found => ?_) ?_
  · rintro world rfl found reached same
    cases ended.symm.trans same
    exact ⟨rfl, rfl⟩
  · rintro world rfl halt failed
    cases ended.symm.trans failed
  · rintro world ⟨reached, same⟩
    cases same
    exact continued world reached
  · rintro halt world ⟨-, failed⟩
    cases failed

/-- A transaction that is known to fail. -/
theorem bind_commit_error {transaction : Transaction ε α}
    {next : α → Action ε β} {store : Store}
    {halt : Halt ε} {after : Except (Halt ε) β → World → Prop}
    (failed : transaction store = .error halt)
    (holds : ∀ world, world.store = store → after (.error halt) world) :
    Ends context (fun world => world.store = store)
      (Action.commit transaction >>= next) after := by
  intro world same
  rw [bind_apply_of_error (commit_of_error (same ▸ failed))]
  exact holds world same

/-- A single statement whose end is known. -/
theorem bind_query [ReportsFaults ε] {statement : Statement α}
    {next : α → Action ε β} {store left : Store} {value : α}
    {after : Except (Halt ε) β → World → Prop}
    (ended : statement store = .ok (value, left))
    (continued :
      Ends context (fun world => world.store = left) (next value) after) :
    Ends context (fun world => world.store = store)
      (Action.query statement >>= next) after :=
  bind_commit (Transaction.run_eq_ok.mpr ended) continued

theorem outcome {action : Action ε α}
    {after : Except (Halt ε) (Except ε α) → World → Prop}
    (ends : Ends context before action fun result world =>
      match result with
      | .ok value => after (.ok (.ok value)) world
      | .error (.refused error) => after (.ok (.error error)) world
      | .error .outOfRange => after (.error .outOfRange) world) :
    Ends context before (Action.outcome action) after := by
  intro world begun
  have reached := ends world begun
  unfold Action.outcome
  rcases ended : action context world with ⟨result, world'⟩
  rw [ended] at reached
  cases result with
  | ok value => exact reached
  | error halt =>
      cases halt with
      | refused error => exact reached
      | outOfRange => exact reached

theorem mapError {report : ε → δ} {action : Action ε α}
    {after : Except (Halt δ) α → World → Prop}
    (ends : Ends context before action fun result world =>
      match result with
      | .ok value => after (.ok value) world
      | .error (.refused error) =>
          after (.error (.refused (report error))) world
      | .error .outOfRange => after (.error .outOfRange) world) :
    Ends context before (Action.mapError report action) after := by
  intro world begun
  have reached := ends world begun
  unfold Action.mapError
  rcases ended : action context world with ⟨result, world'⟩
  rw [ended] at reached
  cases result with
  | ok value => exact reached
  | error halt =>
      cases halt with
      | refused error => exact reached
      | outOfRange => exact reached

/-- Publishing leaves the store alone. -/
theorem publish {event : ProgressEvent}
    {after : Except (Halt ε) Unit → World → Prop}
    (holds : ∀ world published, before world →
      after (.ok ()) { world with published }) :
    Ends context before (Action.publish event) after := by
  intro world begun
  unfold Action.publish
  split
  · exact holds world _ begun
  · exact holds world world.published begun

/-- What follows a publication goes on from the same store. -/
theorem bind_publish {event : ProgressEvent} {next : Unit → Action ε β}
    {after : Except (Halt ε) β → World → Prop}
    (blind : ∀ world published, before world → before { world with published })
    (continued : Ends context before (next ()) after) :
    Ends context before (Action.publish event >>= next) after := by
  refine bind (fun result world => before world ∧ result = .ok ()) (publish ?_)
    (fun _ => ?_) ?_
  · exact fun world published begun => ⟨blind world published begun, rfl⟩
  · exact weaken continued (fun _ reached => reached.1) fun _ _ ended => ended
  · rintro halt world ⟨-, failed⟩
    cases failed

end Ends

end ExamHall.Action
