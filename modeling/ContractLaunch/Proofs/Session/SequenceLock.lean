import ContractLaunch.Proofs.Session.Standing
/-!
The sequence lock of an account. At every moment an account has at most one signed call open, and a
task is kept from its signed call only by other tasks of the same account that hold the lock or asked
for it earlier. A query never waits, and neither account waits for the other.
-/
namespace ContractLaunch.Session

/-- A task signs its calls as an account. -/
def SignsAs (tasks : List Task) (role : Role) (who : Nat) : Prop :=
  ∃ task, tasks[who]? = some task ∧ task.isQuery = false ∧ task.role = role

/-- What the locks make of tasks that run side by side, at a point of the run. -/
structure Sequenced {σ α : Type} (tasks : List Task) (f : Floor σ α) : Prop where
  /-- The open calls of the log are those that programs wait to be answered. -/
  shown : ∀ who role c, .called who role c ∈ openAfter f.log ↔
    ∃ polls reply next, f.programs[who]? = some (.calling polls role c reply next)
  /-- A signed call is open only while its task holds the lock of the account. -/
  held : ∀ who role c, .called who role c ∈ openAfter f.log → c.isSigned →
    (f.lock role).holder = some who
  /-- At no moment of the run had an account two signed calls open. -/
  single : ∀ past, past <+: f.log → ∀ role, (openAfter past).countP (·.lock? = some role) ≤ 1
  /-- At no moment of the run were more calls open than queries and one for each account. -/
  few : ∀ past, past <+: f.log → (openAfter past).length ≤ 2 + tasks.countP Task.isQuery
  /-- So says also the floor's own count. -/
  counted : f.inFlight = (openAfter f.log).length ∧ f.peak ≤ 2 + tasks.countP Task.isQuery
  /-- Only a task that signs waits, and only behind others that sign as the same account. -/
  waits : ∀ who role next, f.programs[who]? = some (.waiting role next) →
    SignsAs tasks role who ∧ ∀ other ∈ (f.lock role).ahead who, other ≠ who ∧ SignsAs tasks role other

def queriesAt (tasks : List Task) : List Nat := (tasks.zipIdx.filter (·.1.isQuery)).map (·.2)

theorem mem_queriesAt {tasks : List Task} {who : Nat} :
    who ∈ queriesAt tasks ↔ ∃ task, tasks[who]? = some task ∧ task.isQuery = true := by
  constructor
  · intro inside
    obtain ⟨⟨task, _⟩, there, rfl⟩ := List.mem_map.mp inside
    obtain ⟨found, isQuery⟩ := List.mem_filter.mp there
    exact ⟨task, List.mk_mem_zipIdx_iff_getElem?.mp found, isQuery⟩
  · intro given
    obtain ⟨task, found, isQuery⟩ := given
    refine List.mem_map.mpr ⟨(task, who), List.mem_filter.mpr ⟨?_, isQuery⟩, rfl⟩
    exact List.mk_mem_zipIdx_iff_getElem?.mpr found

theorem length_queriesAt (tasks : List Task) : (queriesAt tasks).length = tasks.countP Task.isQuery := by
  unfold queriesAt
  rw [List.length_map, ← List.countP_eq_length_filter]
  conv => rhs; rw [← List.zipIdx_map_fst 0 tasks, List.countP_map]
  rfl

theorem length_eq_countP_locks (events : List Event) :
    events.length = events.countP (·.lock? = some .deployer) +
      events.countP (·.lock? = some .tester) + events.countP (·.lock? = none) := by
  induction events with
  | nil => rfl
  | cons event rest ih =>
    simp only [List.length_cons, List.countP_cons]
    rcases event.lock? with _ | _ | _ <;> simp <;> omega

theorem openAfter_length_le {tasks : List Task} {log : List Event} (exclusive : Exclusive log)
    (own : ∀ event ∈ openAfter log, ∃ task, tasks[event.who]? = some task ∧ event.lock? = task.lock?) :
    (openAfter log).length ≤ 2 + tasks.countP Task.isQuery := by
  have deployer := exclusive.single .deployer
  have tester := exclusive.single .tester
  have free : (openAfter log).countP (·.lock? = none) ≤ tasks.countP Task.isQuery := by
    rw [List.countP_eq_length_filter, ← List.length_map Event.who, ← length_queriesAt]
    refine (List.Nodup.subperm ?_ fun who inside => ?_).length_le
    · exact (List.filter_sublist.map Event.who).nodup exclusive.distinct
    · obtain ⟨event, there, rfl⟩ := List.mem_map.mp inside
      obtain ⟨opened, unlocked⟩ := List.mem_filter.mp there
      obtain ⟨task, found, same⟩ := own event opened
      refine mem_queriesAt.mpr ⟨task, found, ?_⟩
      rw [of_decide_eq_true unlocked] at same
      by_contra signs
      rw [Task.lock?, if_neg signs] at same
      cases same
  have split := length_eq_countP_locks (openAfter log)
  omega

namespace Floor

variable {σ : Type} {s : Session} {tasks : List Task} {f : Floor σ (Except DeployFault TaskResult)}

theorem signsAs_of_lock {role : Role} {who : Nat}
    (locked : ∃ task, tasks[who]? = some task ∧ task.lock? = some role) : SignsAs tasks role who := by
  obtain ⟨task, found, same⟩ := locked
  unfold Task.lock? at same
  split at same
  · cases same
  next signs => exact ⟨task, found, Bool.eq_false_iff.mpr signs, Option.some.inj same⟩

theorem Standing.sequenced (standing : f.Standing s tasks) : Sequenced tasks f where
  shown := by
    intro who role c
    rw [standing.shows.shown]
    constructor
    · rintro ⟨-, p, found, opened⟩
      cases p with
      | ready | waiting | finished => cases opened
      | calling polls role' c' reply next =>
        cases opened
        exact ⟨polls, reply, next, found⟩
    · rintro ⟨polls, reply, next, found⟩
      exact ⟨Option.some_ne_none _, _, found, rfl⟩
  held := by
    intro who role c opened isSigned
    refine standing.shows.held _ opened role ?_
    rw [Event.lock?, lockOf, if_pos isSigned]
  single := fun past early => (standing.shows.exclusive past early).single
  few := fun past early => openAfter_length_le (standing.shows.exclusive past early)
    fun event opened => standing.lock_of_event (early.subset (mem_of_mem_openAfter opened))
  counted := by
    refine ⟨standing.shows.counted, ?_⟩
    obtain ⟨past, early, high⟩ := standing.shows.peaked
    rw [high]
    exact openAfter_length_le (standing.shows.exclusive past early)
      fun event opened => standing.lock_of_event (early.subset (mem_of_mem_openAfter opened))
  waits := by
    intro who role next found
    refine ⟨signsAs_of_lock (standing.lock_of_claim found rfl), fun other ahead => ?_⟩
    obtain ⟨stands, differs⟩ := Lock.mem_line_of_mem_ahead ahead
    refine ⟨differs, signsAs_of_lock ?_⟩
    obtain ⟨cost, claims, inTurn⟩ := standing.inTurn
    have claimed := ((inTurn.serves role).stands other).mp stands
    have inside : other < f.programs.length := by
      by_contra outside
      rw [inTurn.absent other (by rw [← inTurn.length]; omega)] at claimed
      cases claimed
    have there := List.getElem?_eq_getElem inside
    rw [inTurn.claims_eq there] at claimed
    exact standing.lock_of_claim there claimed

end Floor

/-- Under every schedule of polls, signed calls of one account never overlap, and a task waits only
behind tasks of its own account, in the order in which they asked. -/
theorem tasks_sequenced {σ : Type} (s : Session) (serve : Clients σ) (duration : Nat → Nat)
    (clients : σ) (tasks : List Task) (schedule : List Nat) :
    let programs := tasks.map fun task => (task.attempt s).run
    let floor := (Floor.start clients programs).follow serve duration schedule
    Sequenced tasks floor ∧ ∀ who, floor.KeepsOrder (floor.poll serve duration who) who := by
  intro programs floor
  have standing : floor.Standing s tasks :=
    Floor.standing_of_follow serve duration clients s tasks schedule
  refine ⟨standing.sequenced, fun who => ?_⟩
  obtain ⟨cost, claims, inTurn⟩ := standing.inTurn
  obtain ⟨left, sectioned⟩ := standing.sectioned
  exact inTurn.keepsOrder sectioned who

/-- Both accounts and a query at once: so many calls can be open. -/
example :
    let call (role : Role) : Task := .execute role "wasm1contract" .null none
    let tasks : List Task := [call .deployer, call .deployer, call .tester, .query .tester "wasm1contract" .null]
    let serve : Clients Unit := fun _ _ c =>
      match c with
      | .execute .. => (.opened (.ok ⟨"EXECUTE", 1, 0, 0⟩), ())
      | .query .. => (.opened (.ok .null), ())
      | _ => (.refused (.transport "not here"), ())
    let floor := (Floor.start () (tasks.map fun task => (task.attempt crossingSession).run)).follow
      serve (fun _ => 1) [0, 1, 2, 3]
    floor.inFlight = 3 ∧ floor.deployerLock = ⟨some 0, [1]⟩ := ⟨rfl, rfl⟩

end ContractLaunch.Session
