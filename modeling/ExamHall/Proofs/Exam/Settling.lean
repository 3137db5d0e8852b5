import ExamHall.Proofs.Attempt.Kept
import ExamHall.Proofs.Exam.Action
import ExamHall.Proofs.Exam.Completing

/-!
# Completing an attempt

An attempt that has just been submitted is published and graded.  Whatever fails
on the way leaves the store as it was; where nothing can fail, the attempt has
its scores afterwards.
-/

namespace ExamHall

open Store

/-- A store in which nothing stands in the way of grading. -/
structure Store.IsReliable (store : Store) : Prop where
  lawful : store.Lawful
  reach : store.outages = []
  papers : ∀ variant ∈ store.variants, ∃ questions,
    variant.questions.value? = some questions ∧ IsPaper questions
  sheets : store.KeepsSheets

variable {now : Instant}

/-- Tests are generated from papers. -/
theorem Change.papers {before after : Store} (change : Change now before after)
    (papers : ∀ variant ∈ before.variants, ∃ questions,
      variant.questions.value? = some questions ∧ IsPaper questions) :
    ∀ variant ∈ after.variants, ∃ questions,
      variant.questions.value? = some questions ∧ IsPaper questions := by
  cases change with
  | generated generates =>
      intro variant inside
      rcases List.mem_append.mp inside with old | new
      · exact papers variant old
      · obtain ⟨questions, document, paper⟩ := generates.papers variant new
        exact ⟨questions, by rw [document]; rfl, paper⟩
  | _ => exact papers

theorem Change.reliable {before after : Store}
    (change : Change now before after) (reliable : before.IsReliable) :
    after.IsReliable := by
  refine ⟨change.lawful reliable.lawful, ?_, change.papers reliable.papers,
    change.keepsSheets reliable.lawful reliable.sheets⟩
  cases change <;> exact reliable.reach

theorem Reaches.reliable {before after : Store}
    (changes : Reaches now before after) (reliable : before.IsReliable) :
    after.IsReliable := by
  induction changes with
  | refl => exact reliable
  | tail _ change ih => exact change.reliable ih

/-- The variant of an attempt is a paper that the attempt is a sitting of. -/
theorem Store.IsReliable.exists_sitting {store : Store} {attempt : Attempt}
    (reliable : store.IsReliable) (listed : attempt ∈ store.attempts) :
    ∃ questions, HasVariant store attempt.variantId questions ∧
      IsPaper questions ∧ IsSitting questions store.answers attempt := by
  obtain ⟨variant, dealt, same⟩ :=
    List.mem_map.mp (reliable.lawful.sittings.variants attempt listed)
  obtain ⟨questions, read, paper⟩ := reliable.papers variant dealt
  have shown : HasVariant store attempt.variantId questions :=
    ⟨variant, dealt, same, read⟩
  exact ⟨questions, shown, paper,
    reliable.sheets attempt listed questions shown paper⟩

/-- The variants that are there can be read. -/
theorem Store.IsReliable.exists_variant {store : Store} {id : String}
    (reliable : store.IsReliable) (known : id ∈ store.variants.map (·.id)) :
    ∃ variant, Store.variant id store = .ok (variant, store) := by
  obtain ⟨row, dealt, rfl⟩ := List.mem_map.mp known
  obtain ⟨questions, read, -⟩ := reliable.papers row dealt
  refine ⟨{ row with questions }, variant_eq_ok.mpr ⟨?_, ?_, rfl, row, ?_, ?_⟩⟩
  · exact (reliable.lawful.tests.variantKeys row dealt).plain
  · exact canReach_of_noOutages reliable.reach _
  · exact find?_key_eq_some reliable.lawful.tests.variantIds dealt
  · rw [Variant.read?, read]
    rfl

namespace Exam

variable {store after : Store} {context : Context}

/-- Where nothing stands in the way, the transaction of grading ends. -/
theorem exists_gradeTransaction_of_reliable (reliable : store.IsReliable)
    {attemptId : String} (plain : Column.hasNul attemptId = false) :
    ∃ result after,
      gradeTransaction attemptId now store = .ok (result, after) := by
  by_cases waits : ∃ attempt ∈ store.attempts, attempt.id = attemptId ∧
    attempt.status = .submitted
  · obtain ⟨attempt, listed, rfl, submitted⟩ := waits
    obtain ⟨questions, shown, paper, sitting⟩ := reliable.exists_sitting listed
    obtain ⟨graded, variant, after, ended⟩ := exists_gradeTransaction now
      reliable.lawful reliable.reach listed submitted shown paper sitting
    exact ⟨_, after, ended⟩
  · refine ⟨none, store, ?_⟩
    simp only [gradeTransaction, bind_eq_ok, Transaction.lift_eq_ok,
      attempt?_eq_ok]
    refine ⟨_, store,
      ⟨plain, canReach_of_noOutages reliable.reach _, rfl, rfl⟩, ?_⟩
    cases found : store.attempts.find? (·.id == attemptId) with
    | none => rfl
    | some attempt =>
        obtain ⟨listed, same⟩ := mem_and_key_of_find? found
        have unsubmitted : attempt.status ≠ .submitted :=
          fun submitted => waits ⟨attempt, listed, same, submitted⟩
        simp only [unsubmitted, if_false]
        rfl

/-- What completing the attempt with an id makes of a store: nothing, which
happens for certain only if that attempt does not wait for its scores, or its
grading. -/
inductive Completes (now : Instant) (attemptId : String) (store : Store) :
    Store → Prop where
  | passed (idle : store.IsReliable → ∀ attempt ∈ store.attempts,
        hasStatus attemptId .submitted attempt = false) :
      Completes now attemptId store store
  | graded
      {attempt graded : Attempt} {after : Store} (same : attempt.id = attemptId)
      (into : GradesInto now store attempt graded after) :
      Completes now attemptId store after

namespace Completes

variable {attemptId : String}

/-- A transaction that fails leaves an attempt without scores only if something
stood in its way. -/
theorem of_error {halt : Halt AttemptError}
    (failed : gradeTransaction attemptId now store = .error halt) :
    Completes now attemptId store store := by
  refine .passed fun reliable attempt listed => ?_
  rw [Bool.eq_false_iff]
  intro waits
  have plain : Column.hasNul attemptId = false := by
    rw [← (hasStatus_eq_true.mp waits).1]
    exact (reliable.lawful.sittings.keys attempt listed).plain
  obtain ⟨result, after, ended⟩ :=
    @exists_gradeTransaction_of_reliable now _ reliable _ plain
  rw [failed] at ended
  cases ended

theorem of_ok {result : Option (Attempt × Variant (List VariantQuestion))}
    (lawful : store.Lawful)
    (ended : gradeTransaction attemptId now store = .ok (result, after)) :
    Completes now attemptId store after := by
  rcases gradeTransaction_gradesInto lawful ended with
    ⟨-, rfl, idle⟩ | ⟨attempt, graded, variant, same, -, into⟩
  · exact .passed fun _ => idle
  · exact .graded same into

theorem handsOver (completes : Completes now attemptId store after) :
    HandsOver now none store after := by
  cases completes with
  | passed => exact .refl store
  | graded _ into => exact into.handsOver

/-- Where nothing stands in the way, the attempt does not wait afterwards. -/
theorem awaitsOnly_none {given : Attempt}
    (completes : Completes now given.id store after)
    (reliable : store.IsReliable) (only : store.AwaitsOnly (some given)) :
    after.AwaitsOnly none := by
  cases completes with
  | passed idle =>
      intro attempt listed submitted
      obtain ⟨_, handed, same⟩ := only attempt listed submitted
      cases handed
      have quiet := idle reliable attempt listed
      rw [hasStatus_eq_true.mpr ⟨same.symm, submitted⟩] at quiet
      cases quiet
  | graded same into => exact into.awaitsOnly_none same.symm only

end Completes

/-! ## Actions -/

/-- Publishing what has happened to an attempt leaves the store alone and is
never refused. -/
theorem notify_ends {before : World → Prop}
    {after : Except (Halt AttemptError) Unit → World → Prop}
    {kind : ProgressKind}
    {attempt : Attempt} {variant : Variant (List VariantQuestion)}
    (holds : ∀ world published, before world →
      after (.ok ()) { world with published }) :
    Action.Ends context before (notify kind attempt variant) after := by
  unfold notify
  refine .bind
    (fun result world => before world ∧ ∃ answered, result = .ok answered) ?_
    (fun answered => .reading (.publish fun world published reached =>
      holds world published reached.1)) ?_
  · apply Action.Ends.outcome
    refine .readQuery (isRead_countAnswered attempt.id) ?_ ?_
    · exact fun world begun count _ => ⟨begun, _, rfl⟩
    · exact fun world begun fault _ => ⟨begun, _, rfl⟩
  · rintro halt world ⟨-, answered, failed⟩
    cases failed

/-- What follows a publication goes on from where it was, because nothing
depends on what is published. -/
theorem bind_notify_ends {β : Type} {before : World → Prop}
    {kind : ProgressKind} {attempt : Attempt}
    {variant : Variant (List VariantQuestion)}
    {next : Unit → Action AttemptError β}
    {after : Except (Halt AttemptError) β → World → Prop}
    (blind : ∀ world published, before world → before { world with published })
    (continued : Action.Ends context before (next ()) after) :
    Action.Ends context before
      (notify kind attempt variant >>= next) after := by
  refine .bind (fun result world => before world ∧ result = .ok ())
    (notify_ends ?_) (fun _ => ?_) ?_
  · exact fun world published begun => ⟨blind world published begun, rfl⟩
  · exact continued.weaken (fun _ reached => reached.1) fun _ _ ended => ended
  · rintro halt world ⟨-, failed⟩
    cases failed

/-- Grading a submitted attempt gives it back with its scores. -/
theorem gradeSubmitted_ends {attemptId : String} (lawful : store.Lawful) :
    Action.Ends context (fun world => world.store = store)
      (gradeSubmitted attemptId) fun result world =>
        Completes context.now attemptId store world.store ∧ match result with
        | .ok none => world.store = store
        | .ok (some graded) => ∃ attempt, attempt.id = attemptId ∧
          GradesInto context.now store attempt graded world.store
        | .error halt => world.store = store ∧
          gradeTransaction attemptId context.now store = .error halt := by
  unfold gradeSubmitted
  apply Action.Ends.reading
  refine .bind (fun result world =>
        Completes context.now attemptId store world.store ∧ match result with
    | .ok none => world.store = store
    | .ok (some (graded, _)) => ∃ attempt, attempt.id = attemptId ∧
      GradesInto context.now store attempt graded world.store
    | .error halt => world.store = store ∧
      gradeTransaction attemptId context.now store = .error halt)
    (.commit ?_ ?_) ?_ ?_
  · rintro world rfl result after ended
    refine ⟨.of_ok lawful ended, ?_⟩
    rcases gradeTransaction_gradesInto lawful ended with
      ⟨rfl, rfl, -⟩ | ⟨attempt, graded, variant, same, rfl, into⟩
    · rfl
    · exact ⟨attempt, same, into⟩
  · rintro world rfl halt failed
    exact ⟨.of_error failed, rfl, failed⟩
  · rintro (_ | ⟨graded, variant⟩)
    · exact .pure fun world reached => reached
    · refine bind_notify_ends (fun _ _ reached => reached) ?_
      exact .pure fun world reached => reached
  · exact fun halt world reached => reached

theorem announce_ends {submitted : Attempt} :
    Action.Ends context (fun world => world.store = store) (announce submitted)
      fun result world => world.store = store ∧ result = .ok () := by
  unfold announce
  refine .bind (fun result world => world.store = store ∧
      ∃ found, result = .ok found) ?_ ?_ ?_
  · apply Action.Ends.outcome
    refine .readQuery (isRead_variant submitted.variantId) ?_ ?_
    · exact fun world begun variant _ => ⟨begun, _, rfl⟩
    · exact fun world begun fault _ => ⟨begun, _, rfl⟩
  · rintro (fault | variant)
    · exact .pure fun world begun => ⟨begun.1, rfl⟩
    · exact notify_ends fun world published begun => ⟨begun.1, rfl⟩
  · rintro halt world ⟨-, found, failed⟩
    cases failed

/-- Completing an attempt grades it where nothing stands in the way, and then
ends well.  It gives back the attempt with its scores, or as it was
submitted. -/
theorem complete_ends {submitted : Attempt} (lawful : store.Lawful) :
    Action.Ends context (fun world => world.store = store) (complete submitted)
      fun result world => Completes context.now submitted.id store world.store ∧
    (store.IsReliable → Column.hasNul submitted.id = false →
      ∃ attempt, result = .ok attempt) ∧ match result with
        | .ok attempt => attempt = submitted ∨ ∃ row, row.id = submitted.id ∧
          GradesInto context.now store row attempt world.store
        | .error halt => halt = .outOfRange := by
  unfold complete
  refine .bind _ announce_ends (fun _ => ?_) ?_
  · refine .bind (fun (result : Except (Halt AttemptError)
          (Except AttemptError (Option Attempt))) world =>
            Completes context.now submitted.id store world.store ∧
            (store.IsReliable → Column.hasNul submitted.id = false →
              ∃ ended, result = .ok ended) ∧ match result with
      | .ok (.ok (some graded)) => ∃ row, row.id = submitted.id ∧
        GradesInto context.now store row graded world.store
      | .ok (.ok none) => True
      | .ok (.error _) => True
      | .error halt => halt = .outOfRange) ?_ ?_ ?_
    · apply Action.Ends.outcome
      refine (gradeSubmitted_ends lawful).weaken (fun world begun => begun.1) ?_
      rintro (halt | graded) world ⟨completes, ended⟩
      · cases halt with
        | refused error => exact ⟨completes, fun _ _ => ⟨_, rfl⟩, trivial⟩
        | outOfRange =>
            refine ⟨completes, fun reliable plain => ?_, rfl⟩
            obtain ⟨_, _, same⟩ := @exists_gradeTransaction_of_reliable
              context.now _ reliable _ plain
            rw [show gradeTransaction submitted.id context.now store =
              .error .outOfRange from ended.2] at same
            cases same
      · cases graded with
        | none => exact ⟨completes, fun _ _ => ⟨_, rfl⟩, trivial⟩
        | some graded => exact ⟨completes, fun _ _ => ⟨_, rfl⟩, ended⟩
    · rintro (error | (_ | graded))
      · exact .pure fun world reached =>
          ⟨reached.1, fun _ _ => ⟨_, rfl⟩, .inl rfl⟩
      · exact .pure fun world reached =>
          ⟨reached.1, fun _ _ => ⟨_, rfl⟩, .inl rfl⟩
      · exact .pure fun world reached =>
          ⟨reached.1, fun _ _ => ⟨_, rfl⟩, .inr reached.2.2⟩
    · rintro halt world ⟨completes, ends, same⟩
      refine ⟨completes, fun reliable plain => ?_, same⟩
      obtain ⟨_, failed⟩ := ends reliable plain
      cases failed
  · rintro halt world ⟨-, failed⟩
    cases failed

end Exam

end ExamHall

/-!
## What is told about an attempt

Telling what has happened to an attempt leaves the tables alone and always ends
well.  The event shows the attempt as it was handed over, and counts the answers
as the tables have them at that moment.
-/

namespace ExamHall

open Store

namespace Action

variable {ε α : Type} {context : Context} {world after : World} {value : α}

theorem outcome_of_ok {action : Action ε α}
    (ended : action context world = (.ok value, after)) :
    (Action.outcome action : Action ε (Except ε α)) context world =
      (.ok (.ok value), after) := by
  unfold Action.outcome
  rw [ended]

theorem outcome_of_refused {action : Action ε α} {error : ε}
    (ended : action context world = (.error (.refused error), after)) :
    (Action.outcome action : Action ε (Except ε α)) context world =
      (.ok (.error error), after) := by
  unfold Action.outcome
  rw [ended]

theorem map_apply_of_ok {β : Type} {action : Action ε α} {change : α → β}
    (ended : action context world = (.ok value, after)) :
    (change <$> action) context world = (.ok (change value), after) := by
  rw [map_eq_pure_bind]
  exact bind_apply_of_ok ended

variable [ReportsFaults ε] {statement : Statement α}

theorem outcome_query_of_ok {left : Store} (reads : IsRead statement)
    (read : statement world.store = .ok (value, left)) :
    (Action.outcome (Action.query statement) : Action ε (Except ε α)) context
      world = (.ok (.ok value), world) := by
  obtain rfl := reads _ _ _ read
  exact outcome_of_ok (query_of_ok read)

theorem outcome_query_of_error {fault : StorageFault}
    (failed : statement world.store = .error fault) :
    (Action.outcome (Action.query statement) : Action ε (Except ε α)) context
      world = (.ok (.error (ReportsFaults.ofFault fault)), world) :=
  outcome_of_refused (commit_of_error (by unfold Transaction.run; rw [failed]))

end Action

/-- Whether what happens is told to anybody. -/
def Context.tells (context : Context) : Bool :=
  context.settings.notificationsEnabled && context.canPublish

/-- The world once an event has been told, if events are. -/
def World.telling (context : Context) (event : ProgressEvent)
    (world : World) : World :=
  if context.tells then { world with published := world.published ++ [event] }
  else world

@[simp] theorem World.store_telling (context : Context) (event : ProgressEvent)
    (world : World) : (world.telling context event).store = world.store := by
  unfold World.telling
  split <;> rfl

/-- The number of answers of an attempt that is told: none if they cannot be
counted. -/
def Store.answeredCount (store : Store) (attemptId : String) : Nat :=
  match countAnswered attemptId store with
  | .ok (count, _) => count
  | .error _ => 0

namespace Exam

variable {context : Context} {world : World} {kind : ProgressKind}
  {attempt : Attempt} {variant : Variant (List VariantQuestion)}

/-- The event that tells what has happened to an attempt, as the tables are. -/
def eventOf (kind : ProgressKind) (attempt : Attempt)
    (variant : Variant (List VariantQuestion)) (now : Instant) (store : Store) :
    ProgressEvent where
  kind
  attempt
  answeredCount := store.answeredCount attempt.id
  questionCount := variant.questions.length
  occurredAt := now

theorem notify_apply :
    notify kind attempt variant context world =
      (.ok (), world.telling context
        (eventOf kind attempt variant context.now world.store)) := by
  have tells : ∀ event : ProgressEvent,
      (Action.publish event : Action AttemptError Unit) context world =
        (.ok (), world.telling context event) := by
    intro event
    unfold Action.publish World.telling Context.tells
    split <;> rfl
  unfold notify
  cases counted : countAnswered attempt.id world.store with
  | error fault =>
      rw [Action.bind_apply_of_ok (Action.outcome_query_of_error counted),
        Action.read_bind_apply, tells, eventOf, answeredCount, counted]
      rfl
  | ok step =>
      rw [Action.bind_apply_of_ok
        (Action.outcome_query_of_ok (isRead_countAnswered _) counted),
        Action.read_bind_apply, tells, eventOf, answeredCount, counted]

/-- After an event has been told, an action goes on. -/
theorem bind_notify_apply {α : Type} {next : Unit → Action AttemptError α} :
    (notify kind attempt variant >>= next) context world =
      next () context (world.telling context
            (eventOf kind attempt variant context.now world.store)) :=
  Action.bind_apply_of_ok notify_apply

/-- What is told when an attempt has been submitted: its submission, if its
variant can be read. -/
def announced (context : Context) (submitted : Attempt)
    (world : World) : World :=
  match Store.variant submitted.variantId world.store with
  | .ok (variant, _) =>
    world.telling context
      (eventOf .submitted submitted variant context.now world.store)
  | .error _ => world

@[simp] theorem store_announced (context : Context) (submitted : Attempt)
    (world : World) :
    (announced context submitted world).store = world.store := by
  unfold announced
  split
  · exact World.store_telling _ _ _
  · rfl

theorem announce_apply {submitted : Attempt} :
    announce submitted context world =
      (.ok (), announced context submitted world) := by
  unfold announce announced
  cases read : Store.variant submitted.variantId world.store with
  | error fault =>
      rw [Action.bind_apply_of_ok (Action.outcome_query_of_error read)]
      rfl
  | ok step =>
      rw [Action.bind_apply_of_ok
        (Action.outcome_query_of_ok (isRead_variant _) read)]
      exact notify_apply

/-- Grading a submitted attempt is told once it has been done. -/
theorem gradeSubmitted_apply {attemptId : String} :
    gradeSubmitted attemptId context world =
      match gradeTransaction attemptId context.now world.store with
      | .ok (some (graded, variant), after) =>
          (.ok (some graded), World.telling context (eventOf .graded graded
            variant context.now after) { world with store := after })
      | .ok (none, after) => (.ok none, { world with store := after })
      | .error halt => (.error halt, world) := by
  unfold gradeSubmitted
  rw [Action.read_bind_apply]
  cases ended : gradeTransaction attemptId context.now world.store with
  | error halt =>
      exact Action.bind_apply_of_error (Action.commit_of_error ended)
  | ok step =>
      obtain ⟨found, after⟩ := step
      rw [Action.bind_apply_of_ok (Action.commit_of_ok ended)]
      cases found with
      | none => rfl
      | some found => exact bind_notify_apply

/-- Completing a submitted attempt tells of its submission, grades it, and tells
of that if it has succeeded. -/
theorem complete_apply {submitted : Attempt} :
    complete submitted context world =
      match gradeTransaction submitted.id context.now world.store with
      | .ok (some (graded, variant), after) =>
          (.ok graded, World.telling context
            (eventOf .graded graded variant context.now after)
          { announced context submitted world with store := after })
      | .ok (none, after) => (.ok submitted,
          { announced context submitted world with store := after })
      | .error (.refused _) =>
          (.ok submitted, announced context submitted world)
      | .error .outOfRange =>
          (.error .outOfRange, announced context submitted world) := by
  have grades := @gradeSubmitted_apply context
    (announced context submitted world) submitted.id
  rw [store_announced] at grades
  unfold complete
  rw [Action.bind_apply_of_ok announce_apply, Action.bind_apply]
  unfold Action.outcome
  rw [grades]
  rcases gradeTransaction submitted.id context.now world.store with
    (error | _) | ⟨_ | ⟨graded, variant⟩, after⟩ <;> rfl

/-- How an attempt is completed is up to the tables, not to what has been told
before. -/
theorem complete_congr {submitted : Attempt} {store after : Store}
    {told told' : List ProgressEvent}
    {result : Except (Halt AttemptError) Attempt}
    (ended : complete submitted context ⟨store, told⟩ =
      (result, ⟨after, told'⟩)) (published : List ProgressEvent) :
    ∃ published', complete submitted context ⟨store, published⟩ =
        (result, ⟨after, published'⟩) := by
  have same : (complete submitted context ⟨store, published⟩).1 = result ∧
      (complete submitted context ⟨store, published⟩).2.store = after := by
    have result_eq := congrArg Prod.fst ended
    have store_eq := congrArg (·.2.store) ended
    rw [complete_apply] at result_eq store_eq ⊢
    dsimp only at result_eq store_eq ⊢
    split at result_eq <;> simp_all
  exact ⟨_, Prod.ext same.1 (congrArg (World.mk · _) same.2)⟩

end Exam

end ExamHall
