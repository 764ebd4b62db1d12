import ContractLaunch.Proofs.Session.Exclusion
import ContractLaunch.Proofs.Session.Line
import ContractLaunch.Proofs.Session.Plan
/-!
Tasks that run side by side. Whatever the clients answer, however long the calls take, and in whatever
order the tasks are polled: the log is made of what each task does on its own, the locks serve the
tasks, and every open call under a lock belongs to the holder of the lock. What a task calls and what
it waits for are its own.
-/
namespace ContractLaunch.Session

open Dialogue

namespace Task

/-- The lock that a task makes its calls under; a query signs nothing and needs none. -/
def lock? (task : Task) : Option Role := if task.isQuery then none else some task.role

abbrev programs (s : Session) (tasks : List Task) : List (Program (Except DeployFault TaskResult)) :=
  tasks.map fun task => (task.attempt s).run

theorem attempt_sectioned (s : Session) (task : Task) :
    Sectioned .outside task.callLimit (task.attempt s).run :=
  attempt_run (s := s) task ▸ Plan.program_sectioned task.plan_within

theorem attempt_disciplined (s : Session) (task : Task) : Disciplined none 7 (task.attempt s).run := by
  refine (attempt_sectioned s task).disciplined.mono ?_
  cases task <;> simp [callLimit, Phase.acts]

theorem attempt_every (s : Session) (task : Task) :
    Every (fun act => ∀ role c, act = .call role c → lockOf role c = task.lock?) (task.attempt s).run := by
  rw [attempt_run]
  have own : Every (fun x => lockOf x.1 x.2 = task.lock?) (task.plan s) := by
    refine task.plan_every.mono fun x here => ?_
    obtain ⟨acts, signs⟩ := here
    unfold lockOf lock?
    rw [acts, signs]
    cases task.isQuery <;> rfl
  exact Plan.program_every own

end Task

theorem mem_eventsOf {who : Nat} {made : List (Exchange Act Act.Reply)} {event : Event}
    (inside : event ∈ eventsOf who made) :
    ∃ role c reply, ⟨.call role c, reply⟩ ∈ made ∧
      (event = .called who role c ∨ event = .answered who role c reply) := by
  induction made with
  | nil => cases inside
  | cons x rest ih =>
    obtain ⟨_ | _ | ⟨role, c⟩, reply⟩ := x
    · obtain ⟨role, c, reply', there, same⟩ := ih inside
      exact ⟨role, c, reply', List.mem_cons_of_mem _ there, same⟩
    · obtain ⟨role, c, reply', there, same⟩ := ih inside
      exact ⟨role, c, reply', List.mem_cons_of_mem _ there, same⟩
    · rcases List.mem_cons.mp inside with first | inside
      · exact ⟨role, c, reply, List.mem_cons_self, .inl first⟩
      rcases List.mem_cons.mp inside with second | inside
      · exact ⟨role, c, reply, List.mem_cons_self, .inr second⟩
      · obtain ⟨role, c, reply', there, same⟩ := ih inside
        exact ⟨role, c, reply', List.mem_cons_of_mem _ there, same⟩

section Tracked

variable {α : Type} {who : Nat} {start : Program α} {p : Progress α} {events : List Event}
  {lock : Option Role}

theorem Tracked.lock_of_event (steps : Tracked who start p events)
    (every : Every (fun act => ∀ role c, act = .call role c → lockOf role c = lock) start)
    {event : Event} (inside : event ∈ events) : event.lock? = lock := by
  have shown : ∀ {made next}, Reached start made next → event ∈ eventsOf who made →
      event.lock? = lock := by
    intro made next reached inside
    obtain ⟨role, c, reply, there, rfl | rfl⟩ := mem_eventsOf inside
    · exact (every.reached reached).1 _ there role c rfl
    · exact (every.reached reached).1 _ there role c rfl
  cases steps with
  | ready made next reached | waiting made role next reached | finished made a reached =>
    exact shown reached inside
  | calling made polls role c reply next reached =>
    rcases List.mem_append.mp inside with early | last
    · exact shown reached early
    · rw [List.mem_singleton.mp last]
      cases (every.reached reached).2 with
      | ask _ _ here later => exact here role c rfl

theorem Tracked.lock_of_claim (steps : Tracked who start p events)
    (every : Every (fun act => ∀ role c, act = .call role c → lockOf role c = lock) start)
    {calls : Nat} (sectioned : p.Sectioned calls) {role : Role} (claimed : p.claim = some role) :
    lock = some role := by
  cases steps with
  | ready | finished => cases claimed
  | waiting made role' next reached =>
    cases claimed
    cases sectioned with
    | waiting _ _ kept =>
      -- What a program asks for a lock for is the call that it makes next.
      have calls := (every.reached reached).2
      generalize entered : Phase.entered role = phase at kept
      cases kept with
      | done | acquire | release => cases entered
      | call role' c calls' resume kept =>
        cases calls with
        | ask _ _ here later =>
          rw [← here role' c rfl, ← Phase.held_atCall, ← entered]
          rfl
  | calling made polls role' c reply next reached =>
    cases (every.reached reached).2 with
    | ask _ _ here later =>
      rw [← here role' c rfl]
      exact claimed

end Tracked

namespace Floor

variable {σ : Type} {s : Session} {tasks : List Task} {f : Floor σ (Except DeployFault TaskResult)}

def limits (tasks : List Task) (who : Nat) : Nat := (tasks.map Task.callLimit)[who]?.getD 0

/-- What holds at every point of a run of tasks. -/
structure Standing (s : Session) (tasks : List Task) (f : Floor σ (Except DeployFault TaskResult)) :
    Prop where
  tracked : f.TrackedBut (Task.programs s tasks) none
  metered : f.Metered (limits tasks)
  inTurn : ∃ cost claims, f.InTurn tasks.length cost claims none
  shows : f.OpenBut none

theorem Standing.sectioned (standing : f.Standing s tasks) : ∃ left, f.SectionedBy left := by
  obtain ⟨left, sectioned, -⟩ := standing.metered
  exact ⟨left, sectioned⟩

theorem start_sectioned (clients : σ) (s : Session) (tasks : List Task) :
    (start clients (Task.programs s tasks)).SectionedBy (limits tasks) := by
  intro who p found
  change ((Task.programs s tasks).map Progress.ready)[who]? = some p at found
  rw [List.getElem?_map, List.getElem?_map] at found
  obtain ⟨program, there, rfl⟩ := Option.map_eq_some_iff.mp found
  obtain ⟨task, same, rfl⟩ := Option.map_eq_some_iff.mp there
  unfold limits
  rw [List.getElem?_map, same]
  exact .ready _ (task.attempt_sectioned s)

theorem start_standing (clients : σ) (s : Session) (tasks : List Task) :
    (start clients (Task.programs s tasks)).Standing s tasks where
  tracked := start_tracked clients
  metered := ⟨_, start_sectioned clients s tasks, fun _ => rfl⟩
  inTurn := by
    have disciplined : ∀ program ∈ Task.programs s tasks, Disciplined none 7 program := by
      intro program member
      obtain ⟨task, -, rfl⟩ := List.mem_map.mp member
      exact task.attempt_disciplined s
    have inTurn := start_inTurn clients disciplined
    rw [List.length_map] at inTurn
    exact ⟨_, _, inTurn⟩
  shows := .start clients _

theorem Standing.poll (standing : f.Standing s tasks) (serve : Clients σ) (duration : Nat → Nat)
    (who : Nat) : (poll serve duration f who).Standing s tasks where
  tracked := poll_tracked serve duration standing.tracked who
  metered := poll_metered serve duration standing.metered who
  inTurn := by
    obtain ⟨cost, claims, inTurn⟩ := standing.inTurn
    obtain ⟨cost', claims', followed, -⟩ := inTurn.follow serve duration [who]
    exact ⟨cost', claims', followed⟩
  shows := by
    obtain ⟨left, sectioned⟩ := standing.sectioned
    exact poll_openBut sectioned standing.shows who

theorem standing_of_follow (serve : Clients σ) (duration : Nat → Nat) (clients : σ) (s : Session)
    (tasks : List Task) (schedule : List Nat) :
    ((start clients (Task.programs s tasks)).follow serve duration schedule).Standing s tasks :=
  follow_preserves serve duration (fun _ who standing => standing.poll serve duration who)
    (start_standing clients s tasks) schedule

theorem Standing.preserves {Holds : Floor σ (Except DeployFault TaskResult) → Prop}
    (standing : f.Standing s tasks) (serve : Clients σ) (duration : Nat → Nat)
    (kept : ∀ f who, f.Standing s tasks → Holds f → Holds (f.poll serve duration who)) (holds : Holds f)
    (schedule : List Nat) : Holds (f.follow serve duration schedule) := by
  have step : ∀ (f : Floor σ _) who, f.Standing s tasks ∧ Holds f →
      (f.poll serve duration who).Standing s tasks ∧ Holds (f.poll serve duration who) := by
    rintro f who ⟨standing, holds⟩
    exact ⟨standing.poll serve duration who, kept f who standing holds⟩
  exact (follow_preserves serve duration step ⟨standing, holds⟩ schedule).2

theorem Standing.task (standing : f.Standing s tasks) {who : Nat} (inside : who < tasks.length) :
    ∃ task p, tasks[who]? = some task ∧ f.programs[who]? = some p ∧
      Tracked who (task.attempt s).run p (own who f.log) := by
  have found : tasks[who]? = some tasks[who] := List.getElem?_eq_getElem inside
  have start : (Task.programs s tasks)[who]? = some (tasks[who].attempt s).run := by
    rw [List.getElem?_map, found]
    rfl
  obtain ⟨p, there, steps⟩ := standing.tracked.tracked who _ start (Option.some_ne_none who)
  exact ⟨_, p, found, there, steps⟩

theorem Standing.length (standing : f.Standing s tasks) : f.programs.length = tasks.length :=
  standing.tracked.length.trans (List.length_map _)

theorem Standing.lock_of_event (standing : f.Standing s tasks) {event : Event}
    (inside : event ∈ f.log) :
    ∃ task, tasks[event.who]? = some task ∧ event.lock? = task.lock? := by
  have known := standing.tracked.known event inside
  rw [List.length_map] at known
  obtain ⟨task, p, found, -, steps⟩ := standing.task known
  exact ⟨task, found, steps.lock_of_event (task.attempt_every s) (mem_own.mpr ⟨inside, rfl⟩)⟩

theorem Standing.lock_of_claim (standing : f.Standing s tasks) {who : Nat}
    {p : Progress (Except DeployFault TaskResult)} (there : f.programs[who]? = some p) {role : Role}
    (claimed : p.claim = some role) :
    ∃ task, tasks[who]? = some task ∧ task.lock? = some role := by
  have inside : who < tasks.length := standing.length ▸ (List.getElem?_eq_some_iff.mp there).1
  obtain ⟨task, p', found, there', steps⟩ := standing.task inside
  obtain rfl := Option.some.inj (there.symm.trans there')
  obtain ⟨left, sectioned⟩ := standing.sectioned
  exact ⟨task, found, steps.lock_of_claim (task.attempt_every s) (sectioned who _ there) claimed⟩

end Floor

end ContractLaunch.Session
