import ExamHall.Attempt.Error
import ExamHall.Attempt.Progress
import ExamHall.Generation.Error
import ExamHall.Settings.Basic
import ExamHall.Store.Basic

/-!
# Transactions and actions

A transaction is a run of statements that changes the store as a whole or not at
all. An action is what an operation of the exam does: it runs transactions one
after another, publishes events in between, and may be refused; what it has
committed by then stays. A calculation that leaves the range of its numbers
halts an action for good, and nothing but the caller of the whole operation
notices.
-/

namespace ExamHall

/-- Why a transaction or an action ends early. -/
inductive Halt (ε : Type) where
  /-- The operation is refused for a reason. -/
  | refused (error : ε)
  /-- A calculation left the range of its numbers. -/
  | outOfRange
deriving DecidableEq

/-- Errors that a storage fault can be reported as. -/
class ReportsFaults (ε : Type) where
  ofFault : StorageFault → ε

instance : ReportsFaults AttemptError := ⟨.storage⟩

instance : ReportsFaults GenerationError := ⟨.storage⟩

/-- A change of the store that happens as a whole or not at all. -/
abbrev Transaction (ε : Type) := StateT Store (Except (Halt ε))

namespace Transaction

/-- A transaction that is refused. -/
def refuse {ε α : Type} (error : ε) : Transaction ε α :=
  fun _ => .error (.refused error)

/-- Goes on only if a condition holds. -/
def require {ε : Type} (holds : Bool) (error : ε) :
    Transaction ε Unit := fun store =>
  if holds then .ok ((), store) else .error (.refused error)

/-- The value that has to be there. -/
def demand {ε α : Type} (value : Option α) (error : ε) :
    Transaction ε α := fun store =>
  match value with
  | some value => .ok (value, store)
  | none => .error (.refused error)

/-- The value of a calculation that stays in range. -/
def inRange {ε α : Type} (value : Option α) : Transaction ε α := fun store =>
  match value with
  | some value => .ok (value, store)
  | none => .error .outOfRange

/-- A statement as a transaction, with its faults reported in a given way. -/
def run {ε α : Type} (report : StorageFault → ε) (statement : Statement α) :
    Transaction ε α :=
  fun store =>
    match statement store with
    | .ok result => .ok result
    | .error fault => .error (.refused (report fault))

instance {ε : Type} [ReportsFaults ε] :
    MonadLift Statement (Transaction ε) where
  monadLift statement := run ReportsFaults.ofFault statement

/-- A part of a transaction that is undone alone when it is refused. -/
def attempt {ε α : Type} (part : Transaction ε α) :
    Transaction ε (Except ε α) := fun store =>
  match part store with
  | .ok (value, store) => .ok (.ok value, store)
  | .error (.refused error) => .ok (.error error, store)
  | .error .outOfRange => .error .outOfRange

end Transaction

/-- What an action works under: the settings, the time, whether events can be
published, and the access code to use when one has to be drawn. -/
structure Context where
  settings : Settings
  now : Instant
  canPublish : Bool
  drawnCode : String

/-- What an action works on: the store, and the events published so far, oldest
first. -/
structure World where
  store : Store
  published : List ProgressEvent

/-- What an operation of the exam does. -/
abbrev Action (ε : Type) := ReaderT Context (ExceptT (Halt ε) (StateM World))

namespace Action

/-- An action that is refused. -/
def refuse {ε α : Type} (error : ε) : Action ε α := fun _ world =>
  (.error (.refused error), world)

/-- Goes on only if a condition holds. -/
def require {ε : Type} (holds : Bool) (error : ε) :
    Action ε Unit := fun _ world =>
  if holds then (.ok (), world) else (.error (.refused error), world)

/-- The value that has to be there. -/
def demand {ε α : Type} (value : Option α) (error : ε) :
    Action ε α := fun _ world =>
  match value with
  | some value => (.ok value, world)
  | none => (.error (.refused error), world)

/-- The value of a calculation that stays in range. -/
def inRange {ε α : Type} (value : Option α) : Action ε α := fun _ world =>
  match value with
  | some value => (.ok value, world)
  | none => (.error .outOfRange, world)

/-- Runs a transaction on the store. -/
def commit {ε α : Type} (transaction : Transaction ε α) :
    Action ε α := fun _ world =>
  match transaction world.store with
  | .ok (value, store) => (.ok value, { world with store })
  | .error halt => (.error halt, world)

/-- Runs a single statement on the store. -/
def query {ε α : Type} [ReportsFaults ε] (statement : Statement α) :
    Action ε α :=
  commit (Transaction.run ReportsFaults.ofFault statement)

/-- What an action ends with unless it leaves the range of its numbers; what it
did stays. -/
def outcome {ε α : Type} (action : Action ε α) :
    Action ε (Except ε α) := fun context world =>
  match action context world with
  | (.ok value, world) => (.ok (.ok value), world)
  | (.error (.refused error), world) => (.ok (.error error), world)
  | (.error .outOfRange, world) => (.error .outOfRange, world)

/-- Publishes an event, if events are wanted and can be published. -/
def publish {ε : Type} (event : ProgressEvent) :
    Action ε Unit := fun context world =>
  if context.settings.notificationsEnabled && context.canPublish then
    (.ok (), { world with published := world.published ++ [event] })
  else (.ok (), world)

/-- The action with its errors reported in another way. -/
def mapError {ε δ α : Type} (report : ε → δ) (action : Action ε α) :
    Action δ α :=
  fun context world =>
    match action context world with
    | (.ok value, world) => (.ok value, world)
    | (.error (.refused error), world) =>
        (.error (.refused (report error)), world)
    | (.error .outOfRange, world) => (.error .outOfRange, world)

end Action

end ExamHall
