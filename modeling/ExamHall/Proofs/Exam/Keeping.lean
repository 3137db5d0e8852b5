import ExamHall.Proofs.Exam.Settling

/-!
# What operations keep

An operation may be interrupted by a refusal at any of its steps, and what it
has done by then stays.  Therefore a property that an operation keeps is kept by
each of its steps.  The property of interest is that the world has been reached
by changes only and that no attempt has been left without its scores.
-/

namespace ExamHall

open Store

/-- A world that has been reached from a store at a time.  If nothing stood in
the way, only the given attempt waits for its scores. -/
structure World.Awaits (now : Instant) (start : Store)
    (pending : Option Attempt) (world : World) : Prop where
  reached : Reaches now start world.store
  only : start.IsReliable → start.AwaitsOnly none →
    world.store.AwaitsOnly pending

/-- A world that has been reached from a store at a time.  If nothing stood in
the way, no attempt waits for its scores. -/
def World.IsSettled (now : Instant) (start : Store) (world : World) : Prop :=
  world.Awaits now start none

namespace World

variable {now : Instant} {start after : Store} {pending : Option Attempt}
  {world : World}

theorem IsSettled.refl : world.IsSettled now world.store :=
  ⟨.refl, fun _ none => none⟩

theorem IsSettled.trans {last : World} (early : world.IsSettled now start)
    (late : last.IsSettled now world.store) : last.IsSettled now start :=
  ⟨early.reached.trans late.reached, fun reliable none =>
    late.only (early.reached.reliable reliable) (early.only reliable none)⟩

theorem IsSettled.handsOver (settled : world.IsSettled now start)
    (handed : HandsOver now pending world.store after)
    (published : List ProgressEvent) :
    World.Awaits now start pending ⟨after, published⟩ :=
  ⟨settled.reached.trans handed.reached, fun reliable none =>
    handed.adds.awaitsOnly (settled.only reliable none)⟩

/-- Completing the attempt that waits leaves none that waits. -/
theorem Awaits.completes {given : Attempt}
    (awaits : world.Awaits now start (some given))
    (completed : Exam.Completes now given.id world.store after)
    (published : List ProgressEvent) :
    World.IsSettled now start ⟨after, published⟩ :=
  ⟨awaits.reached.trans completed.handsOver.reached,
    fun reliable none => completed.awaitsOnly_none
      (awaits.reached.reliable reliable) (awaits.only reliable none)⟩

end World

namespace Action

variable {ε δ α β : Type} {context : Context}

/-- The action keeps a property of the world, however it ends. -/
abbrev Keeps (context : Context) (kept : World → Prop)
    (action : Action ε α) : Prop :=
  Ends context kept action fun _ => kept

namespace Keeps

variable {kept : World → Prop}

theorem bind {first : Action ε α} {next : α → Action ε β}
    (firstKeeps : Keeps context kept first)
    (nextKeeps : ∀ value, Keeps context kept (next value)) :
    Keeps context kept (first >>= next) :=
  Ends.bind _ firstKeeps nextKeeps fun _ _ reached => reached

theorem pure (value : α) : Keeps context kept (Pure.pure value : Action ε α) :=
  Ends.pure fun _ begun => begun

theorem reading {next : Context → Action ε β}
    (continued : Keeps context kept (next context)) :
    Keeps context kept (read >>= next) :=
  continued

theorem refuse (error : ε) :
    Keeps context kept (Action.refuse error : Action ε α) :=
  Ends.refuse fun _ begun => begun

theorem require (holds : Bool) (error : ε) :
    Keeps context kept (Action.require holds error) :=
  Ends.require (fun _ _ begun => begun) fun _ _ begun => begun

theorem demand (found : Option α) (error : ε) :
    Keeps context kept (Action.demand found error) :=
  Ends.demand (fun _ _ _ begun => begun) fun _ _ begun => begun

theorem inRange (found : Option α) :
    Keeps context kept (Action.inRange found : Action ε α) :=
  Ends.inRange (fun _ _ _ begun => begun) fun _ _ begun => begun

theorem query [ReportsFaults ε] {statement : Statement α}
    (reads : IsRead statement) :
    Keeps context kept (Action.query statement : Action ε α) :=
  Ends.readQuery reads (fun _ begun _ _ => begun) fun _ begun _ _ => begun

theorem commit {transaction : Transaction ε α} (reads : IsRead transaction) :
    Keeps context kept (Action.commit transaction) := by
  refine Ends.commit (fun world begun value store ended => ?_)
    fun _ begun _ _ => begun
  obtain rfl := reads _ _ _ ended
  exact begun

theorem outcome {action : Action ε α} (keeps : Keeps context kept action) :
    Keeps context kept (Action.outcome action) := by
  apply Ends.outcome
  refine Ends.weaken keeps (fun _ begun => begun) fun result world reached => ?_
  rcases result with (error | _) | value <;> exact reached

theorem mapError {report : ε → δ} {action : Action ε α}
    (keeps : Keeps context kept action) :
    Keeps context kept (Action.mapError report action) := by
  apply Ends.mapError
  refine Ends.weaken keeps (fun _ begun => begun) fun result world reached => ?_
  rcases result with (error | _) | value <;> exact reached

end Keeps

/-! ## What a step finds -/

/-- The action keeps a property of the world, and what it ends with is good
there. -/
abbrev Gives (context : Context) (kept : World → Prop) (good : α → World → Prop)
    (action : Action ε α) : Prop :=
  Ends context kept action fun result world =>
    kept world ∧ match result with
      | .ok value => good value world
      | .error _ => True

namespace Gives

variable {kept : World → Prop} {good : α → World → Prop}

/-- The next step is taken only with a good value. -/
theorem bind {first : Action ε α} {next : α → Action ε β}
    {after : Except (Halt ε) β → World → Prop}
    (started : Gives context kept good first)
    (continued : ∀ value, Ends context
      (fun world => kept world ∧ good value world) (next value) after)
    (refused : ∀ halt world, kept world → after (.error halt) world) :
    Ends context kept (first >>= next) after := by
  refine Ends.bind _ started (fun value => ?_) fun halt world reached =>
    refused halt world reached.1
  exact Ends.weaken (continued value) (fun world reached => reached)
    fun _ _ ended => ended

theorem pure {value : α} (holds : ∀ world, kept world → good value world) :
    Gives context kept good (Pure.pure value : Action ε α) :=
  Ends.pure fun world begun => ⟨begun, holds world begun⟩

theorem refuse {error : ε} : Gives context kept good (Action.refuse error) :=
  Ends.refuse fun _ begun => ⟨begun, trivial⟩

theorem require {holds : Bool} {error : ε} :
    Gives context kept (fun _ _ => holds = true) (Action.require holds error) :=
  Ends.require (fun passed _ begun => ⟨begun, passed⟩) fun _ _ begun =>
    ⟨begun, trivial⟩

theorem demand {found : Option α} {error : ε} :
    Gives context kept (fun value _ => found = some value)
      (Action.demand found error) :=
  Ends.demand (fun _ present _ begun => ⟨begun, present⟩) fun _ _ begun =>
    ⟨begun, trivial⟩

theorem query [ReportsFaults ε] {statement : Statement α}
    (reads : IsRead statement) :
    Gives context kept
      (fun value world => statement world.store = .ok (value, world.store))
      (Action.query statement : Action ε α) :=
  Ends.readQuery reads
    (fun _ begun _ ended => ⟨begun, ended⟩) fun _ begun _ _ => ⟨begun, trivial⟩

theorem commit {transaction : Transaction ε α} (reads : IsRead transaction) :
    Gives context kept
      (fun value world => transaction world.store = .ok (value, world.store))
      (Action.commit transaction) := by
  refine Ends.commit (fun world begun value store ended => ?_)
    fun _ begun _ _ => ⟨begun, trivial⟩
  obtain rfl := reads _ _ _ ended
  exact ⟨begun, ended⟩

end Gives

/-- A fact about something else than the world is known from the beginning. -/
theorem Ends.assuming {before : World → Prop} {fact : Prop}
    {action : Action ε α} {after : Except (Halt ε) α → World → Prop}
    (ends : fact → Ends context before action after) :
    Ends context (fun world => before world ∧ fact) action after :=
  fun world begun => ends begun.2 world begun.1

/-! ## Transactions in a world -/

variable {start : Store} {pending : α → Option Attempt}

/-- A transaction hands over the attempt that it has submitted. -/
theorem commit_awaits {transaction : Transaction ε α} (lawful : start.Lawful)
    (handsOver : ∀ before result after, before.Lawful →
      transaction before = .ok (result, after) →
      HandsOver context.now (pending result) before after) :
    Ends context (World.IsSettled context.now start)
      (Action.commit transaction) fun result world =>
      match result with
      | .ok value => world.Awaits context.now start (pending value)
      | .error _ => world.IsSettled context.now start := by
  refine Ends.commit (fun world settled value store ended => ?_)
    fun _ settled _ _ => settled
  exact settled.handsOver
    (handsOver _ _ _ (settled.reached.lawful lawful) ended) _

theorem commit_settles {transaction : Transaction ε α} (lawful : start.Lawful)
    (handsOver : ∀ before result after, before.Lawful →
      transaction before = .ok (result, after) →
      HandsOver context.now none before after) :
    Keeps context (World.IsSettled context.now start)
      (Action.commit transaction) := by
  refine Ends.weaken (commit_awaits lawful handsOver)
    (fun _ settled => settled) ?_
  rintro (halt | value) world reached
  · exact reached
  · exact reached

end Action

namespace Exam

variable {context : Context} {start : Store}

theorem complete_settles {given : Attempt} (lawful : start.Lawful) :
    Action.Ends context (World.Awaits context.now start (some given))
      (complete given) fun _ => World.IsSettled context.now start := by
  intro world awaits
  exact awaits.completes
    (complete_ends (awaits.reached.lawful lawful) world rfl).1 _

theorem gradeSubmitted_settles {attemptId : String} (lawful : start.Lawful) :
    Action.Keeps context (World.IsSettled context.now start)
      (gradeSubmitted attemptId) := by
  intro world settled
  obtain ⟨completes, -⟩ : Completes context.now attemptId world.store
      (gradeSubmitted attemptId context world).2.store ∧ _ :=
    gradeSubmitted_ends (settled.reached.lawful lawful) world rfl
  exact settled.handsOver completes.handsOver _

end Exam

end ExamHall
