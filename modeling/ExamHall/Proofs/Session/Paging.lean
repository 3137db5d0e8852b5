import ExamHall.Exam.Assigning
import ExamHall.Proofs.Exam.Action
import ExamHall.Proofs.Exam.Grading
import ExamHall.Proofs.Session.Deadline
import ExamHall.Proofs.Session.Refusals
import ExamHall.Proofs.Session.StoredTests

/-!
# Pages of attempts lose and repeat nothing

The attempts on an assignment are listed with those first that were started
last.  Attempts that were started at the same time are told apart by their ids,
in the order in which the store sorts texts, so there is one such list only, and
it can be cut into pages.  The number of all attempts on a list is counted apart
from it.

Who manages an assignment asks for the attempts on it page by page.  In every
state that a service has reached, one page after another shows each of the
attempts once.
-/

namespace ExamHall

open Store

variable {collation : Collation} {store before after : Store}
  {assignmentId : String} {status : Option AttemptStatus}

/-! ## Lists -/

/-- One attempt comes before another in a list: it was started later, or at the
same time and has an id that is sorted before that of the other. -/
def Attempt.Precedes (collation : Collation) (former latter : Attempt) : Prop :=
  latter.startedAt < former.startedAt ∨
    former.startedAt = latter.startedAt ∧ former.id ≠ latter.id ∧
      collation.le former.id latter.id = true

/-- A list of each attempt on an assignment, or of each that has a status, once
and in order. -/
structure Store.IsListing (store : Store) (assignmentId : String)
    (status : Option AttemptStatus) (attempts : List Attempt) : Prop where
  mem : ∀ attempt, attempt ∈ attempts ↔ attempt ∈ store.attempts ∧
    attempt.assignmentId = assignmentId ∧ ∀ wanted, status = some wanted →
      attempt.status = wanted
  once : attempts.Nodup
  ordered : attempts.Pairwise (Attempt.Precedes store.collation)

/-- Where texts are sorted by the codes of their characters, it is the smaller
id that comes first. -/
theorem Attempt.precedes_byCode_iff {former latter : Attempt} :
    Attempt.Precedes .byCode former latter ↔
      latter.startedAt < former.startedAt ∨
    former.startedAt = latter.startedAt ∧ former.id < latter.id := by
  have smaller : former.id ≠ latter.id ∧
      Collation.byCode.le former.id latter.id = true ↔ former.id < latter.id :=
    ⟨fun ⟨apart, below⟩ => Std.lt_of_le_of_ne (of_decide_eq_true below) apart,
      fun below => ⟨String.ne_of_lt below, decide_eq_true (Std.le_of_lt below)⟩⟩
  rw [Precedes, smaller]

theorem Attempt.Precedes.asymm {former latter : Attempt}
    (precedes : Attempt.Precedes collation former latter) :
    ¬Attempt.Precedes collation latter former := by
  rintro (later | ⟨same, apart, before⟩) <;>
    rcases precedes with later' | ⟨same', -, before'⟩
  · exact Int.lt_asymm later later'
  · exact Int.lt_irrefl _ (same' ▸ later)
  · exact Int.lt_irrefl _ (same ▸ later')
  · exact apart (collation.antisymm before before')

/-- There is only one list of the attempts on an assignment. -/
theorem Store.IsListing.unique {attempts others : List Attempt}
    (listing : store.IsListing assignmentId status attempts)
    (listing' : store.IsListing assignmentId status others) :
    attempts = others := by
  have same : attempts.Perm others := by
    rw [List.perm_ext_iff_of_nodup listing.once listing'.once]
    exact fun attempt => (listing.mem attempt).trans (listing'.mem attempt).symm
  exact same.eq_of_pairwise (fun _ _ _ _ former latter =>
      absurd latter former.asymm) listing.ordered listing'.ordered

/-- The attempts on an assignment as the tables list them. -/
def Store.listing (store : Store) (assignmentId : String)
    (status : Option AttemptStatus) : List Attempt :=
  (store.attempts.filter (isListed assignmentId status)).mergeSort
    (listedBefore store.collation)

theorem isListed_iff {attempt : Attempt} :
    isListed assignmentId status attempt = true ↔
      attempt.assignmentId = assignmentId ∧
    ∀ wanted, status = some wanted → attempt.status = wanted := by
  cases status <;> simp [isListed]

theorem listedBefore_iff {left right : Attempt} :
    listedBefore collation left right = true ↔
      right.startedAt < left.startedAt ∨ left.startedAt = right.startedAt ∧
    collation.le left.id right.id = true := by
  simp [listedBefore]

theorem pairwise_listing (store : Store) (assignmentId : String)
    (status : Option AttemptStatus) :
    (store.listing assignmentId status).Pairwise fun left right =>
      listedBefore store.collation left right = true := by
  refine List.pairwise_mergeSort (fun left middle right early late => ?_)
    (fun left right => ?_) _
  · rw [listedBefore_iff] at early late ⊢
    rcases early with early | ⟨same, small⟩ <;>
      rcases late with late | ⟨same', small'⟩
    · exact .inl (Int.lt_trans late early)
    · exact .inl (same' ▸ early)
    · exact .inl (same ▸ late)
    · exact .inr ⟨same.trans same', store.collation.trans small small'⟩
  · rw [Bool.or_eq_true, listedBefore_iff, listedBefore_iff]
    by_cases same : left.startedAt = right.startedAt
    · exact (store.collation.total left.id right.id).imp
        (fun small => .inr ⟨same, small⟩) fun small => .inr ⟨same.symm, small⟩
    · have apart : left.startedAt.nanos ≠ right.startedAt.nanos := fun equal =>
        same (congrArg Instant.mk equal)
      exact (Int.lt_or_gt_of_ne apart).symm.imp .inl .inl

/-- As ids are unique, the tables list each attempt once, and none before one
that it has to follow. -/
theorem isListing_listing (ids : (store.attempts.map (·.id)).Nodup) :
    store.IsListing assignmentId status
      (store.listing assignmentId status) := by
  have mem : ∀ attempt, attempt ∈ store.listing assignmentId status ↔
      attempt ∈ store.attempts ∧
      isListed assignmentId status attempt = true := by
    intro attempt
    rw [Store.listing, List.mem_mergeSort, List.mem_filter]
  have once : (store.listing assignmentId status).Nodup :=
    (List.mergeSort_perm _ _).nodup_iff.mpr ((List.Nodup.of_map _ ids).filter _)
  refine ⟨fun attempt =>
      (mem attempt).trans (and_congr_right fun _ => isListed_iff), once, ?_⟩
  refine (once.and (pairwise_listing store assignmentId status)).imp_of_mem ?_
  rintro former latter inside inside' ⟨apart, early⟩
  refine (listedBefore_iff.mp early).imp_right fun ⟨same, small⟩ =>
    ⟨same, ?_, small⟩
  exact fun equal => apart
    (eq_of_key ids ((mem former).mp inside).1 ((mem latter).mp inside').1 equal)

theorem listAttempts_eq_ok {skip limit : Nat} {found : List Attempt} :
    listAttempts assignmentId status skip limit before = .ok (found, after) ↔
      Column.hasNul assignmentId = false ∧
    before.CanReach [.attempts] ∧ after = before ∧
    found = ((before.listing assignmentId status).drop skip).take limit := by
  simp [listAttempts, Store.listing]

/-- What is counted is what is listed. -/
theorem countListed_eq_ok {count : Nat} :
    countListed assignmentId status before = .ok (count, after) ↔
      Column.hasNul assignmentId = false ∧ before.CanReach [.attempts] ∧
    after = before ∧ count = (before.listing assignmentId status).length := by
  rw [Store.listing, List.length_mergeSort, ← List.countP_eq_length_filter]
  simp [countListed]

/-! ## Pages -/

/-- The page of a list that leaves out as many attempts as asked for and shows
at most as many as it may. -/
def AttemptPage.of (attempts : List Attempt) (skip limit : Int) : AttemptPage :=
  let first := max skip 0
  let size := min (max limit 1) AttemptQuery.maxLimit
  { items := (attempts.drop first.toNat).take size.toNat
    totalCount := attempts.length
    skip := first
    limit := size }

/-- The pages of a list for numbers of attempts to leave out and to show: one
page after another shows the list, each page says how long the list is, and
numbers that are out of bounds are brought into bounds. -/
structure AttemptPage.ArePages (attempts : List Attempt)
    (page : Int → Int → AttemptPage) : Prop where
  whole : ∀ size count : Nat, 1 ≤ size → size ≤ 1000 →
    attempts.length ≤ count * size → (List.range count).flatMap (fun number =>
      (page ((number * size : Nat) : Int) size).items) = attempts
  totalCount : ∀ skip limit, (page skip limit).totalCount = attempts.length
  clamped : ∀ skip limit,
    page skip limit = page (max skip 0) (min (max limit 1) 1000)
  echoed : ∀ skip limit, (page skip limit).skip = max skip 0 ∧
    (page skip limit).limit = min (max limit 1) 1000

theorem AttemptPage.arePages_of (attempts : List Attempt) :
    ArePages attempts (of attempts) := by
  refine ⟨fun size count some few enough => ?_, fun _ _ => rfl,
    fun skip limit => ?_, fun _ _ => ⟨rfl, rfl⟩⟩
  · have items : ∀ number : Nat,
        (of attempts ((number * size : Nat) : Int) size).items =
          (attempts.drop (number * size)).take size := by
      intro number
      have first
        : (max ((number * size : Nat) : Int) 0).toNat = number * size := by
          omega
      have bounds : (min (max (size : Int) 1) AttemptQuery.maxLimit).toNat =
          size := by
        simp only [AttemptQuery.maxLimit]
        omega
      rw [of, first, bounds]
    simp only [items]
    rw [flatMap_pieces, List.take_of_length_le enough]
  · have first : max (max skip 0) 0 = max skip 0 := by omega
    have size : min (max (min (max limit 1) 1000) 1) AttemptQuery.maxLimit =
        min (max limit 1) AttemptQuery.maxLimit := by
      simp only [AttemptQuery.maxLimit]
      omega
    rw [of, of, first, size]

namespace Exam

/-- A page is shown to who manages the assignment, while its tables can be
reached, and nothing is changed. -/
theorem attemptPage_eq_ok {context : Context} {world left : World}
    {caller : Caller} {assignment : Assignment} {query : AttemptQuery}
    {page : AttemptPage} (lawful : world.store.Lawful)
    (listed : assignment ∈ world.store.assignments) :
    attemptPage caller assignment.id query context world = (.ok page, left) ↔
      caller.mayManage assignment.ownerId = true ∧
    world.store.CanReach [.assignments, .attempts] ∧ left = world ∧
    page = .of (world.store.listing assignment.id query.status) query.skip
      query.limit := by
  have plain := (lawful.assignments.keys assignment listed).plain
  simp only [attemptPage, managed, atStage, Action.bind_apply_eq_ok,
    Action.mapError_apply_eq_ok, Action.commit_apply_eq_ok,
    Action.pure_apply_eq_ok, Transaction.run_eq_ok, listAttempts_eq_ok,
    countListed_eq_ok, managedAssignment_of_listed lawful listed]
  constructor
  · rintro ⟨_, _, ⟨_, ⟨reach, rfl, rfl, may⟩, rfl⟩, _, _,
      ⟨_, ⟨-, reach', rfl, rfl⟩, rfl⟩, _, _,
      ⟨_, ⟨-, -, rfl, rfl⟩, rfl⟩, rfl, rfl⟩
    refine ⟨may, ?_, rfl, rfl⟩
    simpa [Store.CanReach] using And.intro reach reach'
  · rintro ⟨may, reach, rfl, rfl⟩
    have reach' := reach.of_subset
      (show [.attempts] ⊆ [Table.assignments, .attempts] by decide)
    exact ⟨_, _, ⟨_, ⟨reach.of_subset (by decide), rfl, rfl, may⟩, rfl⟩, _, _,
      ⟨_, ⟨plain, reach', rfl, rfl⟩, rfl⟩, _, _,
      ⟨_, ⟨plain, reach', rfl, rfl⟩, rfl⟩, rfl, rfl⟩

end Exam

namespace Session

open Store

variable {opening session : Session} {viewer : Caller} {assignment : Assignment}
  {status : Option AttemptStatus} {query : AttemptQuery} {request : HttpRequest}
  {credential : Credential}

/-- A request is one of an author who asks for a piece of the list of attempts
on an assignment. -/
structure AsksToList (session : Session) (viewer : Caller)
    (assignmentId : String) (query : AttemptQuery) (request : HttpRequest)
    (credential : Credential) : Prop where
  called : Server.called? session.settings (session.signed request credential) =
    some (.listAttempts assignmentId)
  viewer : Handle.IsFromAuthor session.context
    (session.signed request credential) viewer
  query : Handle.attemptQuery (session.signed request credential) = .ok query

/-- A request for a page does what making up the page does, and shows it. -/
theorem AsksToList.lists {assignmentId : String}
    (asks : session.AsksToList viewer assignmentId query request credential) :
    let ended := Exam.attemptPage viewer assignmentId query session.context
      ⟨session.store, []⟩
    (session.run (.call request credential)).1.result = resultOf (Server.told
        (Server.sent session.settings (session.signed request credential))
        ((ended.1.map fun page => page.view session.now).mapError
          (Halt.map Refusal.ofAssigning))) ∧
      (session.run (.call request credential)).2.store = ended.2.store := by
  apply run_of_shown asks.called
  change Handle.listAttempts _ _ _ _ = _
  unfold Handle.listAttempts
  rw [asks.query]
  exact Action.bind_apply_of_ok asks.viewer.author_eq_ok

/-- The attempts on an assignment that have a status, if one is asked for, are
shown in these pages, to whoever manages the assignment and while their tables
can be reached.  That changes nothing. -/
structure ShowsPages (session : Session) (assignment : Assignment)
    (status : Option AttemptStatus) (page : Int → Int → AttemptPage) :
    Prop where
  operation : ∀ (caller : Caller) (skip limit : Int) (found : AttemptPage)
    (left : World), Exam.attemptPage caller assignment.id ⟨status, skip, limit⟩
    session.context ⟨session.store, []⟩ = (.ok found, left) ↔
    caller.mayManage assignment.ownerId = true ∧
    session.store.CanReach [.assignments, .attempts] ∧
    left = ⟨session.store, []⟩ ∧ found = page skip limit
  request : ∀ (viewer : Caller) (skip limit : Int) (request : HttpRequest)
    (credential : Credential), session.AsksToList viewer
    assignment.id ⟨status, skip, limit⟩ request credential →
    viewer.mayManage assignment.ownerId = true →
    session.store.CanReach [.assignments, .attempts] →
    session.Shows request credential ((page skip limit).view session.now) ∧
    (session.run (.call request credential)).2.store = session.store

theorem showsPages_of_listed (lawful : session.store.Lawful)
    (listed : assignment ∈ session.store.assignments)
    (status : Option AttemptStatus) :
    session.ShowsPages assignment status
      (.of (session.store.listing assignment.id status)) := by
  have operation : ∀ (caller : Caller) (skip limit : Int) (found : AttemptPage)
      (left : World), _ :=
    fun caller skip limit found left =>
      @Exam.attemptPage_eq_ok session.context ⟨session.store, []⟩ left caller
        assignment ⟨status, skip, limit⟩ found lawful listed
  refine ⟨operation,
    fun viewer skip limit request credential asks manages reach => ?_⟩
  have ended := (operation viewer skip limit _ _).mpr ⟨manages, reach, rfl, rfl⟩
  obtain ⟨result, left⟩ := asks.lists
  rw [ended] at result left
  exact ⟨result, left⟩

/-- In every state that a service has reached, there is one list of the attempts
on an assignment, or of those with a status: the later start comes first, and
among attempts that were started at once the id that is sorted first.  It is
what its pages show one after another, for each size of the pages, and each page
tells the length of the list. -/
theorem pages_show_each_attempt_once (lawful : opening.store.Lawful)
    (unused : opening.store.attempts = []) (run : Serves true opening session)
    (listed : assignment ∈ session.store.assignments)
    (status : Option AttemptStatus) :
    ∃ (attempts : List Attempt) (page : Int → Int → AttemptPage),
      session.store.IsListing assignment.id status attempts ∧
      (∀ others, session.store.IsListing assignment.id status others →
        others = attempts) ∧ AttemptPage.ArePages attempts page ∧
      session.ShowsPages assignment status page := by
  have lawful' :=
    (Serves.sound run (isSound_of_no_attempts lawful unused)).1.lawful
  have listing := @isListing_listing _ assignment.id status lawful'.sittings.ids
  exact ⟨_, _, listing, fun others listing' => listing'.unique listing,
    AttemptPage.arePages_of _, showsPages_of_listed lawful' listed status⟩

/-! ## The only attempt -/

/-- A request for a page with none of the attempts, which leaves out fewer than
none. -/
def oddPageRequest : HttpRequest :=
  ⟨.get, "/assignments/a/attempts", "skip=-5&limit=0", [], ""⟩

/-- The student has started the test, and nothing else has happened. -/
structure HasStarted (session : Session) (assignment : Assignment)
    (attempt : Attempt) : Prop where
  serves : Serves true (withOneStudent Column.origin) session
  settings : session.settings = (withOneStudent Column.origin).settings
  now : session.now = Column.origin
  reach : session.store.outages = []
  attempts : session.store.attempts = [attempt]
  on : attempt.assignmentId = "a"
  assignments : session.store.assignments = [assignment]
  id : assignment.id = "a"
  ownerId : assignment.ownerId = "o"

theorem exists_hasStarted :
    ∃ session assignment attempt, HasStarted session assignment attempt := by
  obtain ⟨session, serves, settings, now, store⟩ :=
    exists_serves_until (withOneStudent Column.origin)
      ⟨.post, "/assignments/a/start", "", [], ""⟩ (.token "s" .student 60)
      (Int.le_refl (withOneStudent Column.origin).now.nanos)
  have rows : session.store.attempts.map (·.assignmentId) = ["a"] ∧
      session.store.assignments.map
        (fun assignment => (assignment.id, assignment.ownerId)) = [("a", "o")] ∧
      session.store.outages = [] := by
    rw [store, show Step.call _ _ = startsTest from rfl, store_startsTest]
    decide +kernel
  obtain ⟨attemptRows, assignmentRows, reach⟩ := rows
  obtain ⟨attempt, attempts, on⟩ := List.map_eq_singleton_iff.mp attemptRows
  obtain ⟨assignment, assignments, keys⟩ :=
    List.map_eq_singleton_iff.mp assignmentRows
  obtain ⟨id, ownerId⟩ : assignment.id = "a" ∧ assignment.ownerId = "o" :=
    Prod.mk.inj keys
  exact ⟨session, assignment, attempt, serves true, settings, now, reach,
    attempts, on, assignments, id, ownerId⟩

variable {attempt : Attempt}

theorem HasStarted.asksToList
    (started : session.HasStarted assignment attempt) :
    session.AsksToList ⟨"o", .teacher⟩ assignment.id
      ⟨none, -5, 0⟩ oddPageRequest owner := by
  have called :
      Server.called? (withOneStudent Column.origin).settings oddPageRequest =
        some (.listAttempts "a") := by
    decide +kernel
  have query : Handle.attemptQuery oddPageRequest = .ok ⟨none, -5, 0⟩ := by
    decide +kernel
  rw [started.id]
  refine ⟨?_, ⟨owner_known _ started.settings started.now, rfl⟩, query⟩
  rw [called?_signed, started.settings, called]

/-- The owner of the test asks for the odd page once the student has started,
and is shown the first one. -/
theorem withOneStudent_shows_its_attempt :
    ∃ session assignment attempt, (withOneStudent Column.origin).store.Lawful ∧
      (withOneStudent Column.origin).store.attempts = [] ∧
      Serves true (withOneStudent Column.origin) session ∧
      assignment ∈ session.store.assignments ∧
      session.store.attempts = [attempt] ∧
      attempt.assignmentId = assignment.id ∧
      session.Shows oddPageRequest owner
        ((⟨[attempt], 1, 0, 1⟩ : AttemptPage).view session.now) := by
  obtain ⟨session, assignment, attempt, started⟩ := exists_hasStarted
  have on : attempt.assignmentId = assignment.id :=
    started.on.trans started.id.symm
  have listed : assignment ∈ session.store.assignments :=
    started.assignments ▸ List.mem_singleton_self _
  obtain ⟨all, page, -, only, pages, shows⟩ :=
    pages_show_each_attempt_once (withOneStudent_lawful _)
      rfl started.serves listed none
  have single : [attempt] = all := by
    refine only _ ⟨fun other => ?_, List.nodup_singleton _,
      List.pairwise_singleton _ _⟩
    rw [started.attempts]
    exact ⟨fun inside => ⟨inside, List.mem_singleton.mp inside ▸ on, nofun⟩,
      And.left⟩
  have first : page (-5) 0 = ⟨[attempt], 1, 0, 1⟩ := by
    have items : (page 0 1).items = [attempt] := by
      simpa [single]
        using pages.whole 1 1 (by decide) (by decide) (by simp [← single])
    have echoed : (page 0 1).skip = 0 ∧ (page 0 1).limit = 1 := pages.echoed 0 1
    have totalCount : (page 0 1).totalCount = 1 := by
      rw [pages.totalCount, ← single]
      rfl
    calc page (-5) 0 = page 0 1 := pages.clamped (-5) 0
      _ = ⟨(page 0 1).items, (page 0 1).totalCount, (page 0 1).skip,
        (page 0 1).limit⟩ := rfl
      _ = ⟨[attempt], 1, 0, 1⟩ := by rw [items, totalCount, echoed.1, echoed.2]
  refine ⟨session, assignment, attempt, withOneStudent_lawful _, rfl,
    started.serves, listed, started.attempts, on, ?_⟩
  rw [← first]
  refine (shows.request ⟨"o", .teacher⟩ _ _ _ _ started.asksToList ?_ ?_).1
  · rw [started.ownerId]
    decide
  · rw [Store.CanReach, started.reach]
    exact fun table _ => List.not_mem_nil

end Session

end ExamHall
